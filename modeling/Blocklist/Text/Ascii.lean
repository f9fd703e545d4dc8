/-! # ASCII letters and lowercasing

Option names, domains and policies are compared with their ASCII letters lowered. Every other
character stands for itself.
-/

namespace Blocklist.Text

/-- `c` is one of the first 128 characters. -/
def isAscii (c : Char) : Bool :=
  c.toNat < 128

/-- The text with each of `A` to `Z` replaced by its small letter. -/
def lower (s : String) : String :=
  String.ofList (s.toList.map Char.toLower)

@[simp] theorem toList_lower (s : String) : (lower s).toList = s.toList.map Char.toLower := by
  simp [lower]

/-- The characters `needle` stand next to each other somewhere in `text`. -/
def occursIn (needle : List Char) : List Char → Bool
  | [] => needle.isEmpty
  | c :: rest => needle.isPrefixOf (c :: rest) || occursIn needle rest

theorem occursIn_eq_true_iff {needle text : List Char} :
    occursIn needle text = true ↔ needle <:+: text := by
  induction text with
  | nil => cases needle <;> simp [occursIn, List.infix_nil]
  | cons c rest ih => simp [occursIn, ih, List.infix_cons_iff]

end Blocklist.Text
