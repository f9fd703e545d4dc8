import Blocklist.Json.Fragment
import Blocklist.Proofs.Json.Lexing

/-! # Spellings of documents

A value may be spelled with white space before and after each of its parts, and each number and
string in it has its own spellings. The grammar says which texts spell a tree, without any regard to
how a text is read. The reader of documents then finds the tree in every text that spells it, at any
place in a document.

* `Spells`: the texts of a tree;
* `Spells.read`: where a value is expected, such a text is read as the tree;
* `Document.ofText_of_spells`: a text that spells a tree is read as a document without a fault;
* `Spells.isWhole`: a tree that can be spelled has no fault.
-/

namespace Blocklist.Json

/-- White space, or nothing. -/
def Blank (text : List Char) : Prop :=
  ∀ c ∈ text, c = ' ' ∨ c = '\t' ∨ c = '\n' ∨ c = '\r'

/-- The text is the name of a member, with any white space around it. -/
def SpellsName (name : String) (text : List Char) : Prop :=
  ∃ before quoted after, Blank before ∧ SpellsString name quoted ∧ Blank after ∧
    text = before ++ (quoted ++ after)

mutual

/-- The text is the value, with any white space around it. -/
inductive Spells : Fragment → List Char → Prop where
  | null : Spells .null "null".toList
  | bool (b : Bool) : Spells (.bool b) (if b then "true" else "false").toList
  | number {n : Numeral} {text : List Char} (h : n.SpelledBy text) : Spells (.number n) text
  | string {s : String} {text : List Char} (h : SpellsString s text) :
      Spells (.string (some s)) text
  | emptyArray {gap : List Char} (h : Blank gap) : Spells (.array [] true) ('[' :: (gap ++ [']']))
  | array {items : List Fragment} {text : List Char} (h : SpellsItems items text) :
      Spells (.array items true) ('[' :: (text ++ [']']))
  | emptyObject {gap : List Char} (h : Blank gap) :
      Spells (.object [] true) ('{' :: (gap ++ ['}']))
  | object {members : List (Option String × Fragment)} {text : List Char}
      (h : SpellsMembers members text) : Spells (.object members true) ('{' :: (text ++ ['}']))
  | spaced {value : Fragment} {before text after : List Char} (hbefore : Blank before)
      (h : Spells value text) (hafter : Blank after) : Spells value (before ++ (text ++ after))

/-- The text is the items of an array with commas between them. There is at least one. -/
inductive SpellsItems : List Fragment → List Char → Prop where
  | last {item : Fragment} {text : List Char} (h : Spells item text) : SpellsItems [item] text
  | more {item : Fragment} {items : List Fragment} {text rest : List Char} (h : Spells item text)
      (hrest : SpellsItems items rest) : SpellsItems (item :: items) (text ++ ',' :: rest)

/-- The text is the members of an object with commas between them. There is at least one. -/
inductive SpellsMembers : List (Option String × Fragment) → List Char → Prop where
  | last {name : String} {value : Fragment} {nameText text : List Char}
      (hname : SpellsName name nameText) (h : Spells value text) :
      SpellsMembers [(some name, value)] (nameText ++ ':' :: text)
  | more {name : String} {value : Fragment} {members : List (Option String × Fragment)}
      {nameText text rest : List Char} (hname : SpellsName name nameText) (h : Spells value text)
      (hrest : SpellsMembers members rest) :
      SpellsMembers ((some name, value) :: members) (nameText ++ ':' :: (text ++ ',' :: rest))

end

/-! ## White space -/

theorem blank_nil : Blank [] := by
  intro c hc
  cases hc

theorem isSpace_of_blank {gap : List Char} (h : Blank gap) : ∀ c ∈ gap, isSpace c = true := by
  intro c hc
  rcases h c hc with rfl | rfl | rfl | rfl <;> rfl

/-- White space may stand behind a number, and so may what follows the white space. -/
theorem endsNumber_append {gap rest : List Char} (h : Blank gap) (hrest : EndsNumber rest) :
    EndsNumber (gap ++ rest) := by
  cases gap with
  | nil => exact hrest
  | cons c gap =>
    apply endsNumber_cons
    rcases h c List.mem_cons_self with rfl | rfl | rfl | rfl <;> decide

theorem Token.listAfter_blank {gap : List Char} (h : Blank gap) (rest : List Char) :
    listAfter 0 (gap ++ rest) = listAfter 0 rest :=
  listAfter_space (isSpace_of_blank h) rest

theorem Spells.after_blank {value : Fragment} {gap text : List Char} (hgap : Blank gap)
    (h : Spells value text) : Spells value (gap ++ text) := by
  have hspaced := Spells.spaced hgap h blank_nil
  rwa [List.append_nil] at hspaced

theorem Spells.before_blank {value : Fragment} {gap text : List Char} (h : Spells value text)
    (hgap : Blank gap) : Spells value (text ++ gap) :=
  .spaced blank_nil h hgap

/-! ## Reading -/

section Reading

open Expectation (after afterStart)
open Token (listAfter)

/-- A value may come next. The end of an array may come instead of it. -/
def Expectation.AwaitsValue (expected : Expectation) (context : Context) : Prop :=
  ∀ token, token ≠ .closeArray → expected.step token = afterStart context token

theorem awaitsValue_value (context : Context) : (Expectation.value context).AwaitsValue context :=
  fun _ _ => rfl

theorem awaitsValue_firstItem (outer : Context) :
    (Expectation.firstItem outer).AwaitsValue (.item [] outer) := by
  intro token htoken
  cases token with
  | closeArray => exact absurd rfl htoken
  | _ => rfl

/-- The name of a member may come next. -/
def Expectation.AwaitsName (expected : Expectation) (done : List (Option String × Fragment))
    (outer : Context) : Prop :=
  ∀ name, expected.step (.string name) = some (.colon done name outer)

theorem awaitsName_firstName (outer : Context) :
    (Expectation.firstName outer).AwaitsName [] outer :=
  fun _ => rfl

theorem awaitsName_nextName (done : List (Option String × Fragment)) (outer : Context) :
    (Expectation.nextName done outer).AwaitsName done outer :=
  fun _ => rfl

/-- A token with which a value begins is read as such. -/
theorem Expectation.AwaitsValue.read_cons {expected next : Expectation} {context : Context}
    {token : Token} (h : expected.AwaitsValue context)
    (hstart : afterStart context token = some next) (rest : List Token) :
    Document.read expected (token :: rest) = Document.read next rest := by
  have htoken : token ≠ .closeArray := by
    rintro rfl
    cases hstart
  rw [Document.read, h token htoken, hstart]

/-- Where a name is expected, a text that spells it is read as the name, and the value comes
after the colon. -/
theorem Expectation.AwaitsName.read_name {expected : Expectation}
    {done : List (Option String × Fragment)} {outer : Context} (h : expected.AwaitsName done outer)
    {name : String} {text : List Char} (hname : SpellsName name text) (rest : List Char) :
    Document.read expected (listAfter 0 (text ++ ':' :: rest)) =
      Document.read (.value (.member done (some name) outer)) (listAfter 0 rest) := by
  obtain ⟨before, quoted, behind, hbefore, hquoted, hbehind, rfl⟩ := hname
  rw [List.append_assoc, List.append_assoc, Token.listAfter_blank hbefore,
    Token.listAfter_of_spellsString hquoted, Token.listAfter_blank hbehind, Document.read,
    h (some name)]
  rfl

mutual

/-- Where a value is expected, a text that spells it is read as the value, and then comes what may
come after it. -/
theorem Spells.read {value : Fragment} {text : List Char} (h : Spells value text)
    {expected : Expectation} {context : Context} (hexpected : expected.AwaitsValue context)
    {rest : List Char} (hrest : EndsNumber rest) :
    Document.read expected (listAfter 0 (text ++ rest)) =
      Document.read (after value context) (listAfter 0 rest) := by
  match h with
  | .null => exact hexpected.read_cons rfl _
  | .bool b =>
    rw [Token.listAfter_bool]
    exact hexpected.read_cons rfl _
  | .number h =>
    -- Only here it matters what stands behind the text.
    rw [Token.listAfter_of_spelledBy h hrest]
    exact hexpected.read_cons rfl _
  | .string h =>
    rw [Token.listAfter_of_spellsString h]
    exact hexpected.read_cons rfl _
  | @Spells.emptyArray gap h =>
    calc Document.read expected (listAfter 0 ('[' :: (gap ++ [']']) ++ rest))
        = Document.read expected (.openArray :: listAfter 0 (gap ++ ']' :: rest)) := by
          simp [listAfter, isSpace, Token.scan]
      _ = Document.read (.firstItem context) (.closeArray :: listAfter 0 rest) := by
          rw [hexpected.read_cons rfl, Token.listAfter_blank h]
          rfl
      _ = Document.read (after (.array [] true) context) (listAfter 0 rest) := rfl
  | @Spells.array items text h =>
    calc Document.read expected (listAfter 0 ('[' :: (text ++ [']']) ++ rest))
        = Document.read expected (.openArray :: listAfter 0 (text ++ ']' :: rest)) := by
          simp [listAfter, isSpace, Token.scan]
      _ = Document.read (.firstItem context) (listAfter 0 (text ++ ']' :: rest)) :=
          hexpected.read_cons rfl _
      _ = Document.read (after (.array items true) context) (listAfter 0 rest) :=
          h.read (awaitsValue_firstItem context) rest
  | @Spells.emptyObject gap h =>
    calc Document.read expected (listAfter 0 ('{' :: (gap ++ ['}']) ++ rest))
        = Document.read expected (.openObject :: listAfter 0 (gap ++ '}' :: rest)) := by
          simp [listAfter, isSpace, Token.scan]
      _ = Document.read (.firstName context) (.closeObject :: listAfter 0 rest) := by
          rw [hexpected.read_cons rfl, Token.listAfter_blank h]
          rfl
      _ = Document.read (after (.object [] true) context) (listAfter 0 rest) := rfl
  | @Spells.object members text h =>
    calc Document.read expected (listAfter 0 ('{' :: (text ++ ['}']) ++ rest))
        = Document.read expected (.openObject :: listAfter 0 (text ++ '}' :: rest)) := by
          simp [listAfter, isSpace, Token.scan]
      _ = Document.read (.firstName context) (listAfter 0 (text ++ '}' :: rest)) :=
          hexpected.read_cons rfl _
      _ = Document.read (after (.object members true) context) (listAfter 0 rest) :=
          h.read (awaitsName_firstName context) rest
  | .spaced hbefore h hafter =>
    rw [List.append_assoc, List.append_assoc, Token.listAfter_blank hbefore,
      h.read hexpected (endsNumber_append hafter hrest), Token.listAfter_blank hafter]

/-- The items up to the end of the array, when those before them are `done`. -/
theorem SpellsItems.read {items : List Fragment} {text : List Char} (h : SpellsItems items text)
    {done : List Fragment} {expected : Expectation} {outer : Context}
    (hexpected : expected.AwaitsValue (.item done outer)) (rest : List Char) :
    Document.read expected (listAfter 0 (text ++ ']' :: rest)) =
      Document.read (after (.array (done.reverse ++ items) true) outer) (listAfter 0 rest) := by
  match h with
  | @SpellsItems.last item text h =>
    calc Document.read expected (listAfter 0 (text ++ ']' :: rest))
        = Document.read (.itemEnd (item :: done) outer) (.closeArray :: listAfter 0 rest) :=
          h.read hexpected (endsNumber_cons rest (by decide))
      _ = Document.read (after (.array (item :: done).reverse true) outer) (listAfter 0 rest) := rfl
      _ = _ := by rw [List.reverse_cons]
  | @SpellsItems.more item items text more h hmore =>
    calc Document.read expected (listAfter 0 ((text ++ ',' :: more) ++ ']' :: rest))
        = Document.read expected (listAfter 0 (text ++ (',' :: (more ++ ']' :: rest)))) := by
          rw [List.append_assoc, List.cons_append]
      _ = Document.read (.itemEnd (item :: done) outer)
            (.comma :: listAfter 0 (more ++ ']' :: rest)) :=
          h.read hexpected (endsNumber_cons _ (by decide))
      _ = Document.read (.value (.item (item :: done) outer))
            (listAfter 0 (more ++ ']' :: rest)) := rfl
      _ = Document.read (after (.array ((item :: done).reverse ++ items) true) outer)
            (listAfter 0 rest) := hmore.read (awaitsValue_value _) rest
      _ = _ := by simp

/-- The members up to the end of the object, when those before them are `done`. -/
theorem SpellsMembers.read {members : List (Option String × Fragment)} {text : List Char}
    (h : SpellsMembers members text) {done : List (Option String × Fragment)}
    {expected : Expectation} {outer : Context} (hexpected : expected.AwaitsName done outer)
    (rest : List Char) :
    Document.read expected (listAfter 0 (text ++ '}' :: rest)) =
      Document.read (after (.object (done.reverse ++ members) true) outer) (listAfter 0 rest) := by
  match h with
  | @SpellsMembers.last name value nameText text hname h =>
    calc Document.read expected (listAfter 0 ((nameText ++ ':' :: text) ++ '}' :: rest))
        = Document.read (.value (.member done (some name) outer))
            (listAfter 0 (text ++ '}' :: rest)) := by
          rw [List.append_assoc, List.cons_append, hexpected.read_name hname]
      _ = Document.read (.memberEnd ((some name, value) :: done) outer)
            (.closeObject :: listAfter 0 rest) :=
          h.read (awaitsValue_value _) (endsNumber_cons rest (by decide))
      _ = Document.read (after (.object ((some name, value) :: done).reverse true) outer)
            (listAfter 0 rest) := rfl
      _ = _ := by rw [List.reverse_cons]
  | @SpellsMembers.more name value members nameText text more hname h hmore =>
    calc Document.read expected
          (listAfter 0 ((nameText ++ ':' :: (text ++ ',' :: more)) ++ '}' :: rest))
        = Document.read (.value (.member done (some name) outer))
            (listAfter 0 (text ++ (',' :: (more ++ '}' :: rest)))) := by
          simp only [List.append_assoc, List.cons_append, hexpected.read_name hname]
      _ = Document.read (.memberEnd ((some name, value) :: done) outer)
            (.comma :: listAfter 0 (more ++ '}' :: rest)) :=
          h.read (awaitsValue_value _) (endsNumber_cons _ (by decide))
      _ = Document.read (.nextName ((some name, value) :: done) outer)
            (listAfter 0 (more ++ '}' :: rest)) := rfl
      _ = Document.read (after (.object (((some name, value) :: done).reverse ++ members) true)
            outer) (listAfter 0 rest) := hmore.read (awaitsName_nextName _ _) rest
      _ = _ := by simp

end

/-- A text that spells a tree is read as a document without a fault. -/
theorem Document.ofText_of_spells {value : Fragment} {text : String}
    (h : Spells value text.toList) : ofText text = ⟨value, true⟩ := by
  have hread := h.read (awaitsValue_value .root) endsNumber_nil
  rw [List.append_nil] at hread
  exact hread

end Reading

/-! ## Trees without a fault -/

mutual

/-- A tree that can be spelled has no fault. -/
theorem Spells.isWhole {value : Fragment} {text : List Char} (h : Spells value text) :
    value.isWhole = true := by
  match h with
  | .null | .bool _ | .number _ | .string _ | .emptyArray _ | .emptyObject _ => rfl
  | .array h => exact h.areWhole
  | .object h => exact h.membersWhole
  | .spaced _ h _ => exact h.isWhole

theorem SpellsItems.areWhole {items : List Fragment} {text : List Char}
    (h : SpellsItems items text) : Fragment.areWhole items = true := by
  match h with
  | .last h => simp [Fragment.areWhole, h.isWhole]
  | .more h hmore => simp [Fragment.areWhole, h.isWhole, hmore.areWhole]

theorem SpellsMembers.membersWhole {members : List (Option String × Fragment)} {text : List Char}
    (h : SpellsMembers members text) : Fragment.membersWhole members = true := by
  match h with
  | .last _ h => simp [Fragment.membersWhole, h.isWhole]
  | .more _ h hmore => simp [Fragment.membersWhole, h.isWhole, hmore.membersWhole]

end

end Blocklist.Json
