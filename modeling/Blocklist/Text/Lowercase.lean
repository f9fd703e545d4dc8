import Blocklist.Text.Case

/-! # Lowercase text

Header names are compared in lowercase, with the full mapping of the Unicode standard: the dotted
capital I has two characters as its small form, and a capital sigma is written as a final sigma
where it ends a word.
-/

namespace Blocklist.Text

/-- The small form of a character by itself. -/
def smallForm (c : Char) : List Char :=
  if c = '\u0130' then ['i', '\u0307']
  else match caseRuns.find? (·.covers c.toNat) with
    | some run => [Char.ofNat (run.lowered c.toNat)]
    | none => [c]

/-- Past the case-ignorable characters stands a cased letter. -/
def reachesLetter (cs : List Char) : Bool :=
  match cs.dropWhile caseIgnorables.holds with
  | c :: _ => casedLetters.holds c
  | [] => false

/-- Lowercase form of the second list, which follows `before`, the reversed text read so far. A
capital sigma is final when a letter comes before it and none after it. -/
def loweredAfter (before : List Char) : List Char → List Char
  | [] => []
  | c :: rest =>
    let small :=
      if c = '\u03a3' then
        if reachesLetter before && !reachesLetter rest then ['\u03c2'] else ['\u03c3']
      else smallForm c
    small ++ loweredAfter (c :: before) rest

/-- The whole text in lowercase. -/
def lowercase (s : String) : String :=
  String.ofList (loweredAfter [] s.toList)

@[simp] theorem toList_lowercase (s : String) :
    (lowercase s).toList = loweredAfter [] s.toList := by
  simp [lowercase]

end Blocklist.Text
