import Blocklist.Text.Spans

/-! # Blank characters and trimming

A character is blank when it has the Unicode property White_Space. `trim` takes the blanks off both
ends of a text and leaves those inside it.
-/

namespace Blocklist.Text

/-- The 25 characters with the property White_Space. The byte order mark, the zero width space and
the information separators U+001C to U+001F are not among them. -/
def blanks : Spans :=
  [(0x0009, 0x000d), (0x0020, 0x0020), (0x0085, 0x0085), (0x00a0, 0x00a0), (0x1680, 0x1680),
   (0x2000, 0x200a), (0x2028, 0x2029), (0x202f, 0x202f), (0x205f, 0x205f), (0x3000, 0x3000)]

/-- `c` is white space in the sense of the Unicode standard. -/
def isBlank (c : Char) : Bool :=
  blanks.holds c

/-- A list of characters without the blanks at its two ends. -/
def trimmed (cs : List Char) : List Char :=
  ((cs.dropWhile isBlank).reverse.dropWhile isBlank).reverse

/-- A text without the blanks at its two ends. -/
def trim (s : String) : String :=
  String.ofList (trimmed s.toList)

@[simp] theorem toList_trim (s : String) : (trim s).toList = trimmed s.toList := by
  simp [trim]

end Blocklist.Text
