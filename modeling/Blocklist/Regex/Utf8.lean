import Blocklist.Text.Spans

/-! # Spans of characters as spans of bytes

In UTF-8 the characters of a span are the texts of some sequences of byte spans: a text belongs to a
sequence if it has one byte of each span, in this order. `byteSequences` finds the fewest sequences,
in ascending order.
-/

namespace Blocklist.Regex

open Text (Spans)

/-- The bytes from one to another. -/
structure ByteSpan where
  first : Nat
  last : Nat
  deriving Repr, DecidableEq

/-- Numbers from `first` to `last` in digits to base 64, of which `count` follow the leading one, as
sequences of spans of digits. -/
def digitSequences : (count first last : Nat) → List (List ByteSpan)
  | 0, first, last => [[⟨first, last⟩]]
  | count + 1, first, last =>
    let block : Nat := Nat.pow 64 (count + 1)
    let low := first / block
    let high := last / block
    if low = high then
      (digitSequences count (first % block) (last % block)).map (⟨low, low⟩ :: ·)
    else
      -- Only the first and the last of the leading digits can have some numbers left out.
      let cutLow := first % block ≠ 0
      let cutHigh := last % block ≠ block - 1
      let before :=
        if cutLow then
          (digitSequences count (first % block) (block - 1)).map (⟨low, low⟩ :: ·)
        else []
      let after :=
        if cutHigh then (digitSequences count 0 (last % block)).map (⟨high, high⟩ :: ·) else []
      let low := if cutLow then low + 1 else low
      let high := if cutHigh then high - 1 else high
      let whole :=
        if low ≤ high then [⟨low, high⟩ :: List.replicate (count + 1) ⟨0, 63⟩] else []
      before ++ whole ++ after

/-- The characters whose texts have `count` bytes after the first one, whose mark is `mark`. -/
structure Utf8Range where
  count : Nat
  first : Nat
  last : Nat
  mark : Nat

/-- All characters by the length of their text. Surrogates are left out. -/
def utf8Ranges : List Utf8Range :=
  [⟨0, 0, 0x7f, 0⟩, ⟨1, 0x80, 0x7ff, 0xc0⟩, ⟨2, 0x800, 0xd7ff, 0xe0⟩, ⟨2, 0xe000, 0xffff, 0xe0⟩,
   ⟨3, 0x10000, 0x10ffff, 0xf0⟩]

/-- Digits as bytes. The first one has the mark of the length, and the others that of a byte inside
a character. -/
def markedBytes (mark : Nat) : List ByteSpan → List ByteSpan
  | [] => []
  | lead :: rest =>
    ⟨lead.first + mark, lead.last + mark⟩ :: rest.map fun b => ⟨b.first + 0x80, b.last + 0x80⟩

/-- The characters of a span as sequences of spans of bytes. -/
def byteSequences (span : Nat × Nat) : List (List ByteSpan) :=
  utf8Ranges.flatMap fun range =>
    let first := max span.1 range.first
    let last := min span.2 range.last
    if first ≤ last then (digitSequences range.count first last).map (markedBytes range.mark)
    else []

/-- The bytes of a text. -/
def bytesOf (text : List Char) : List UInt8 :=
  text.flatMap String.utf8EncodeChar

end Blocklist.Regex
