import Blocklist.Text.Spans

/-! # Regular expressions as trees

What a pattern means, whichever way it is written. The constructors of the type are for finished
trees. A tree is built by the functions `ofSet`, `times`, `inOrder` and `alternatives`, which keep
it small: what lies next to each other is joined, and what matches nothing but the empty text is
not repeated.
-/

namespace Blocklist.Regex

open Text (Spans)

/-- Sides of a word. -/
inductive WordSide where
  | either
  | neither
  | start
  | finish
  | startHalf
  | finishHalf
  deriving Repr, DecidableEq

/-- A test of the place in the text. -/
inductive Look where
  | textStart
  | textEnd
  /-- The start of a line. Lines end with a line feed, or also with a carriage return. -/
  | lineStart (carriage : Bool)
  | lineEnd (carriage : Bool)
  /-- A side of a word, which has letters of all scripts or of ASCII only. -/
  | word (side : WordSide) (unicode : Bool)
  deriving Repr, DecidableEq

/-- A regular expression. -/
inductive Expression where
  | empty
  | literal (text : List Char)
  /-- One character of a set. -/
  | oneOf (set : Spans)
  | look (test : Look)
  /-- The body from `low` to `high` times, or without a bound, preferably as often as possible if it
  is `greedy`. -/
  | repeated (low : Nat) (high : Option Nat) (greedy : Bool) (body : Expression)
  /-- A group whose text is remembered. -/
  | group (body : Expression)
  | sequence (parts : List Expression)
  | choice (parts : List Expression)

namespace Expression

/-! ## Lengths -/

/-- Size of a character in UTF-8. -/
def codeSize (n : Nat) : Nat :=
  if n < 0x80 then 1 else if n < 0x800 then 2 else if n < 0x10000 then 3 else 4

/-- Size of a text in UTF-8. -/
def textSize (text : List Char) : Nat :=
  text.foldl (fun size c => size + codeSize c.toNat) 0

mutual

/-- Smallest size of a text that matches, if that is known. -/
def shortest? : Expression → Option Nat
  | empty | look _ => some 0
  | literal text => some (textSize text)
  | oneOf set => set.head?.map fun span => codeSize span.1
  | repeated low _ _ body => body.shortest?.map (low * ·)
  | group body => body.shortest?
  | sequence parts => shortestInOrder? parts
  | choice parts => shortestOfAny? parts

def shortestInOrder? : List Expression → Option Nat
  | [] => some 0
  | part :: rest => do return (← part.shortest?) + (← shortestInOrder? rest)

def shortestOfAny? : List Expression → Option Nat
  | [] => none
  | [part] => part.shortest?
  | part :: rest => do return min (← part.shortest?) (← shortestOfAny? rest)

end

mutual

/-- Largest size of a text that matches, if there is one and it is known. -/
def longest? : Expression → Option Nat
  | empty | look _ => some 0
  | literal text => some (textSize text)
  | oneOf set => set.getLast?.map fun span => codeSize span.2
  | repeated _ high _ body => do return (← high) * (← body.longest?)
  | group body => body.longest?
  | sequence parts => longestInOrder? parts
  | choice parts => longestOfAny? parts

def longestInOrder? : List Expression → Option Nat
  | [] => some 0
  | part :: rest => do return (← part.longest?) + (← longestInOrder? rest)

def longestOfAny? : List Expression → Option Nat
  | [] => none
  | [part] => part.longest?
  | part :: rest => do return max (← part.longest?) (← longestOfAny? rest)

end

/-- The expression matches nothing but the empty text. -/
def isIdle (e : Expression) : Bool :=
  e.longest? == some 0

/-! ## Comparing -/

mutual

/-- The expressions are the same. Groups are told apart even if their bodies are the same. -/
def same : Expression → Expression → Bool
  | empty, empty => true
  | literal a, literal b => a == b
  | oneOf a, oneOf b => a == b
  | look a, look b => a == b
  | repeated low high greedy a, repeated low' high' greedy' b =>
    low == low' && high == high' && greedy == greedy' && a.same b
  | sequence as, sequence bs => allSame as bs
  | choice as, choice bs => allSame as bs
  | _, _ => false

def allSame : List Expression → List Expression → Bool
  | [], [] => true
  | a :: as, b :: bs => a.same b && allSame as bs
  | _, _ => false

end

/-! ## Building -/

/-- One character of a set. A set of one character is a text. -/
def ofSet (set : Spans) : Expression :=
  match set.single? with
  | some n => literal [Char.ofNat n]
  | none => oneOf set

/-- The body from `low` to `high` times. -/
def times (low : Nat) (high : Option Nat) (greedy : Bool) (body : Expression) : Expression :=
  let low := if body.isIdle then min low 1 else low
  let high := if body.isIdle then some (min (high.getD 1) 1) else high
  if low = 0 ∧ high = some 0 then empty
  else if low = 1 ∧ high = some 1 then body
  else repeated low high greedy body

/-- Puts an expression before others, and joins it with the first of them if both are texts. -/
def prepend : Expression → List Expression → List Expression
  | literal a, literal b :: rest => literal (a ++ b) :: rest
  | e, rest => e :: rest

/-- Parts that follow each other. A sequence stands for its parts. -/
def sequenceParts : Expression → List Expression
  | empty => []
  | sequence parts => parts
  | e => [e]

/-- Expressions one after the other. -/
def inOrder (parts : List Expression) : Expression :=
  match (parts.flatMap sequenceParts).foldr prepend [] with
  | [] => empty
  | [part] => part
  | parts => sequence parts

/-- Alternatives. A choice stands for its own. -/
def choiceParts : Expression → List Expression
  | choice parts => parts
  | e => [e]

/-- The character of a text of one character. -/
def char? : Expression → Option Char
  | literal [c] => some c
  | _ => none

/-- The set of which one character is matched. -/
def set? : Expression → Option Spans
  | oneOf set => some set
  | _ => none

/-- Alternatives, which may start alike. Characters make up a set, and so do sets. -/
def plainChoice (parts : List Expression) : Expression :=
  match parts.flatMap choiceParts with
  | [] => oneOf []
  | [part] => part
  | parts =>
    match parts.mapM char? with
    | some chars => ofSet (Spans.normal (chars.map fun c => (c.toNat, c.toNat)))
    | none =>
      match parts.mapM set? with
      | some sets => ofSet (sets.foldl Spans.union [])
      | none => choice parts

/-- The common start of two lists. -/
def commonStart : List Expression → List Expression → List Expression
  | a :: as, b :: bs => if a.same b then a :: commonStart as bs else []
  | _, _ => []

/-- The parts of a sequence. -/
def parts? : Expression → Option (List Expression)
  | sequence parts => some parts
  | _ => none

/-- Alternatives. If all of them are sequences with a common start, the start comes first and only
what follows it is a choice. -/
def alternatives (parts : List Expression) : Expression :=
  match plainChoice parts with
  | choice parts =>
    match parts.mapM parts? with
    | some (first :: rest) =>
      match rest.foldl commonStart first with
      | [] => choice parts
      | start =>
        let ends := (first :: rest).map fun parts => inOrder (parts.drop start.length)
        inOrder (start ++ [plainChoice ends])
    | _ => choice parts
  | e => e

/-! ## Anchors -/

mutual

/-- A match begins at the start of the text only. -/
def isAnchoredAtStart : Expression → Bool
  | look test => test == .textStart
  | repeated low _ _ body => low > 0 && body.isAnchoredAtStart
  | group body => body.isAnchoredAtStart
  | sequence parts => startsAnchored parts
  | choice parts => allAnchoredAtStart parts
  | _ => false

def startsAnchored : List Expression → Bool
  | [] => false
  | part :: rest => part.isAnchoredAtStart || (part.isIdle && startsAnchored rest)

def allAnchoredAtStart : List Expression → Bool
  | [] => true
  | part :: rest => part.isAnchoredAtStart && allAnchoredAtStart rest

end

mutual

/-- A match ends at the end of the text only. -/
def isAnchoredAtEnd : Expression → Bool
  | look test => test == .textEnd
  | repeated low _ _ body => low > 0 && body.isAnchoredAtEnd
  | group body => body.isAnchoredAtEnd
  | sequence parts => endsAnchored parts
  | choice parts => allAnchoredAtEnd parts
  | _ => false

def endsAnchored : List Expression → Bool
  | [] => false
  | part :: rest => endsAnchored rest || (rest.all isIdle && part.isAnchoredAtEnd)

def allAnchoredAtEnd : List Expression → Bool
  | [] => true
  | part :: rest => part.isAnchoredAtEnd && allAnchoredAtEnd rest

end

end Expression

end Blocklist.Regex
