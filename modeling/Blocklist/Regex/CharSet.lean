import Blocklist.Text.Hex
import Blocklist.Text.Pieces
import Blocklist.Text.Spans

/-! # Described sets of characters

The Unicode standard lists some sets of characters and derives others from them. A `CharSet` says
how a set comes about, and `CharSet.spans` finds its code points.
-/

namespace Blocklist.Regex

open Text (Spans)

/-- Description of a set of characters. -/
inductive CharSet where
  /-- Lines of code points in hexadecimal, in ascending order, with blanks between them. `a-b`
  stands for all from `a` to `b`, and `a-b/s` for each `s`-th of these. -/
  | listed (lines : List String)
  /-- What lies in any of the sets. -/
  | any (sets : List CharSet)
  /-- What lies in `set` and not in `left`. -/
  | except (set left : CharSet)
  /-- All characters that do not lie in the set. -/
  | others (set : CharSet)

namespace CharSet

/-- What stands before and after the first mark, or twice the whole word if there is no mark. -/
def ends (mark : Char) (word : List Char) : List Char × List Char :=
  (Text.cutAt mark word).getD (word, word)

/-- Spans of a word in a list of code points. -/
def wordSpans (word : List Char) : Spans :=
  let number (digits : List Char) : Nat := (Text.hexNumber? digits).getD 0
  let (range, stride) := (Text.cutAt '/' word).getD (word, ['1'])
  let (first, last) := ends '-' range
  if stride = ['1'] then [(number first, number last)]
  else
    (List.range ((number last - number first) / number stride + 1)).map fun i =>
      (number first + i * number stride, number first + i * number stride)

/-- Spans of a line of code points. -/
def lineSpans (line : String) : Spans :=
  (Text.pieces ' ' line.toList).flatMap wordSpans

mutual

/-- The spans of the described set. -/
def spans : CharSet → Spans
  | listed lines => lines.flatMap lineSpans
  | any sets => spansOfAny sets
  | except set left => set.spans.diff left.spans
  | others set => set.spans.complement

/-- The spans of what lies in any of the described sets. -/
def spansOfAny : List CharSet → Spans
  | [] => []
  | set :: rest => set.spans.union (spansOfAny rest)

end

end CharSet

/-- Described sets with the names that each of them has. -/
abbrev NamedSets := List (List String × CharSet)

/-- The characters of the set that has a name. -/
def NamedSets.find? (sets : NamedSets) (name : String) : Option Spans :=
  (List.find? (fun row => row.1.contains name) sets).map fun row => row.2.spans

end Blocklist.Regex
