/-! # Sets of characters given by their spans

A character class of the Unicode standard is a list of spans of code points. The class tables of
this library are values of `Spans`. `Spans.covers` and `Spans.holds` read them, and the set
operations make new ones of them. The operations expect spans in ascending order that do not touch
each other, and give such spans.
-/

namespace Blocklist.Text

/-- Spans of code points, each with both its ends included. -/
abbrev Spans := List (Nat × Nat)

namespace Spans

/-- The code point `n` lies in one of the spans. -/
def covers (spans : Spans) (n : Nat) : Bool :=
  spans.any fun span => span.1 ≤ n && n ≤ span.2

/-- The code point of `c` lies in one of the spans. -/
def holds (spans : Spans) (c : Char) : Bool :=
  spans.covers c.toNat

theorem covers_eq_true_iff {spans : Spans} {n : Nat} :
    spans.covers n = true ↔ ∃ span ∈ spans, span.1 ≤ n ∧ n ≤ span.2 := by
  simp [covers]

theorem holds_eq_true_iff {spans : Spans} {c : Char} :
    spans.holds c = true ↔ ∃ span ∈ spans, span.1 ≤ c.toNat ∧ c.toNat ≤ span.2 :=
  covers_eq_true_iff

/-- The largest code point. -/
def lastCode : Nat := 0x10ffff

/-- Code points that are no characters, but halves of them in another encoding. -/
def surrogates : Spans :=
  [(0xd800, 0xdfff)]

/-- Joins a span with the spans after it, as long as they touch. -/
def joinedWith (span : Nat × Nat) : Spans → Spans
  | [] => [span]
  | next :: rest =>
    if next.1 ≤ span.2 + 1 then joinedWith (span.1, max span.2 next.2) rest
    else span :: joinedWith next rest

/-- Joins spans that touch each other. Their first ends have to be in ascending order. -/
def touching : Spans → Spans
  | [] => []
  | span :: rest => joinedWith span rest

/-- The span `a` begins no later than `b`. -/
def startsBefore (a b : Nat × Nat) : Bool :=
  a.1 ≤ b.1

/-- Brings spans into ascending order and joins those that touch. -/
def normal (spans : Spans) : Spans :=
  touching (spans.mergeSort startsBefore)

/-- What lies in one of two sets. -/
def union (a b : Spans) : Spans :=
  touching (List.merge a b startsBefore)

/-- What lies between the spans and after them, from a code point on. -/
def gaps (start : Nat) : Spans → Spans
  | [] => if start ≤ lastCode then [(start, lastCode)] else []
  | span :: rest =>
    if start < span.1 then (start, span.1 - 1) :: gaps (span.2 + 1) rest
    else gaps (max start (span.2 + 1)) rest

/-- All characters that do not lie in a set. -/
def complement (spans : Spans) : Spans :=
  gaps 0 (spans.union surrogates)

/-- The characters that lie in both of two sets. -/
def inter (a b : Spans) : Spans :=
  (a.complement.union b.complement).complement

/-- The characters that lie in the first of two sets only. -/
def diff (a b : Spans) : Spans :=
  (a.complement.union b).complement

/-- The characters that lie in just one of two sets. -/
def symmDiff (a b : Spans) : Spans :=
  (a.diff b).union (b.diff a)

/-- The characters from one code point to another. -/
def between (first last : Nat) : Spans :=
  inter [(first, last)] [(0, lastCode)]

/-- The only code point of a set. -/
def single? : Spans → Option Nat
  | [(first, last)] => if first = last then some first else none
  | _ => none

/-- All code points of the set are ASCII characters. -/
def isAscii (spans : Spans) : Bool :=
  spans.all fun span => span.2 < 128

end Spans

end Blocklist.Text
