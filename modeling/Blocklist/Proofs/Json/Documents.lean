import Blocklist.Json.Number
import Blocklist.Json.Value
import Blocklist.Proofs.Json.Grammar

/-! # What is written is one document

The text that is written for a value is one of the spellings of the tree of that value, in both
styles. So it is read back as that tree.

* `Numeral.spelledBy_toDigits`, `spellsString_stringText`: what is written for numbers and strings;
* `Value.spells_chars`: the text of a value spells its tree;
* `Document.ofText_render`: a text that is written is read as a document without a fault;
* `Value.render_injective`: different values have different texts.
-/

namespace Blocklist.Json

/-! ## Numbers -/

namespace Numeral

/-- The numeral that a natural number is written as. -/
def ofNat (n : Nat) : Numeral :=
  ⟨false, Nat.toDigits 10 n, none, none⟩

/-- The digits of a positive number do not begin with a zero. -/
theorem head?_toDigits_ne_zero {n : Nat} (h : 0 < n) : (Nat.toDigits 10 n).head? ≠ some '0' := by
  induction n using Nat.strongRecOn with
  | ind n ih =>
    by_cases hn : n < 10
    · rw [Nat.toDigits_of_lt_base hn]
      intro hzero
      have hdigit : n.digitChar = '0' := by simpa using hzero
      have : n = 0 := Nat.digitChar_eq_zero.mp hdigit
      omega
    · have hpos : 0 < n / 10 := by omega
      rw [Nat.toDigits_of_base_le (by omega) (by omega),
        List.head?_append_of_ne_nil _ Nat.toDigits_ne_nil]
      exact ih (n / 10) (by omega) hpos

/-- The digits of a number write its numeral down. -/
theorem spelledBy_toDigits (n : Nat) : (ofNat n).SpelledBy (Nat.toDigits 10 n) := by
  have hdigits : IsDigits (Nat.toDigits 10 n) := by
    refine ⟨Nat.toDigits_ne_nil, ?_⟩
    intro c hc
    exact Nat.isDigit_of_mem_toDigits (by decide) (by decide) hc
  have hzero : (Nat.toDigits 10 n).head? = some '0' → Nat.toDigits 10 n = ['0'] := by
    intro hhead
    rcases Nat.eq_zero_or_pos n with rfl | hpos
    · exact Nat.toDigits_zero 10
    · exact absurd hhead (head?_toDigits_ne_zero hpos)
  have hspelled : (ofNat n).SpelledBy ([] ++ (Nat.toDigits 10 n ++ ([] ++ []))) :=
    .parts hdigits hzero .none .none
  simpa using hspelled

/-- The digits of a number write that number down. -/
theorem ofDigits_toDigits (n : Nat) : ofDigits (Nat.toDigits 10 n) = n :=
  Nat.ofDigitChars_ten_toDigits

/-- A number of 64 bits is read as an integer. -/
theorem value?_ofNat {n : Nat} (h : n < UInt64.size) : (ofNat n).value? = some (.natural n) := by
  unfold value?
  simp [ofNat, ofDigits_toDigits, h]

theorem ofNat_injective : Function.Injective ofNat := by
  intro n m h
  have hdigits : Nat.toDigits 10 n = Nat.toDigits 10 m := congrArg whole h
  rw [← ofDigits_toDigits n, hdigits, ofDigits_toDigits]

end Numeral

/-! ## Strings -/

/-- The three ways in which a character is written. -/
theorem escaped_cases (c : Char) :
    (∃ e, (e, c) ∈ shortEscapes ∧ escaped c = ['\\', e]) ∨
    (c.toNat < 0x20 ∧ escaped c =
      ['\\', 'u', '0', '0', Nat.digitChar (c.toNat / 16), Nat.digitChar (c.toNat % 16)]) ∨
    (0x20 ≤ c.toNat ∧ c ≠ '"' ∧ c ≠ '\\' ∧ escaped c = [c]) := by
  by_cases hquote : c = '"'
  · subst hquote
    exact .inl ⟨'"', by decide, rfl⟩
  by_cases hslash : c = '\\'
  · subst hslash
    exact .inl ⟨'\\', by decide, rfl⟩
  by_cases hb : c = '\x08'
  · subst hb
    exact .inl ⟨'b', by decide, rfl⟩
  by_cases hf : c = '\x0c'
  · subst hf
    exact .inl ⟨'f', by decide, rfl⟩
  by_cases hn : c = '\n'
  · subst hn
    exact .inl ⟨'n', by decide, rfl⟩
  by_cases hr : c = '\r'
  · subst hr
    exact .inl ⟨'r', by decide, rfl⟩
  by_cases ht : c = '\t'
  · subst ht
    exact .inl ⟨'t', by decide, rfl⟩
  -- No other character has a short escape.
  unfold escaped
  rw [if_neg hquote, if_neg hslash, if_neg hb, if_neg hf, if_neg hn, if_neg hr, if_neg ht]
  by_cases hcontrol : c.toNat < 0x20
  · rw [if_pos hcontrol]
    exact .inr (.inl ⟨hcontrol, rfl⟩)
  · rw [if_neg hcontrol]
    exact .inr (.inr ⟨Nat.le_of_not_lt hcontrol, hquote, hslash, rfl⟩)

/-- A character code below 256 as a code unit. -/
theorem spellsUnit_of_lt {n : Nat} (h : n < 256) :
    SpellsUnit n ['0', '0', Nat.digitChar (n / 16), Nat.digitChar (n % 16)] := by
  have hzero : IsHexDigit 0 '0' := ⟨by decide, .inl rfl⟩
  have hhigh : IsHexDigit (n / 16) (Nat.digitChar (n / 16)) := ⟨by omega, .inl rfl⟩
  have hlow : IsHexDigit (n % 16) (Nat.digitChar (n % 16)) := ⟨by omega, .inl rfl⟩
  have hcode : 16 * (16 * (16 * 0 + 0) + n / 16) + n % 16 = n := by omega
  have hspells := SpellsUnit.digits hzero hzero hhigh hlow
  rwa [hcode] at hspells

theorem spellsChar_escaped (c : Char) : SpellsChar c (escaped c) := by
  obtain ⟨e, he, hc⟩ | ⟨hlow, hc⟩ | ⟨hhigh, hquote, hslash, hc⟩ := escaped_cases c
  · rw [hc]
    exact .short he
  · rw [hc]
    exact .unit (spellsUnit_of_lt (by omega))
  · rw [hc]
    exact .plain hhigh hquote hslash

theorem spellsString_stringText (s : String) : SpellsString s (stringText s) := by
  refine ⟨s.toList.map escaped, ?_, ?_⟩
  · rw [List.forall₂_map_right_iff]
    exact List.forall₂_same.mpr fun c _ => spellsChar_escaped c
  · rw [stringText, List.flatMap_def]

/-! ## Values -/

mutual

/-- The tree that a value is read as. -/
def Value.fragment : Value → Fragment
  | .bool b => .bool b
  | .nat n => .number (.ofNat n)
  | .string s => .string (some s)
  | .array items => .array (itemFragments items) true
  | .object members => .object (memberFragments members) true

/-- The trees of the items of an array. -/
def itemFragments : List Value → List Fragment
  | [] => []
  | item :: rest => item.fragment :: itemFragments rest

/-- The names of members with the trees of their values. -/
def memberFragments : List (String × Value) → List (Option String × Fragment)
  | [] => []
  | (name, value) :: rest => (some name, value.fragment) :: memberFragments rest

end

section Spelling

variable (style : Style)

theorem Style.blank_gap (depth : Nat) : Blank (style.gap depth) := by
  intro c hc
  cases style with
  | compact => cases hc
  | pretty =>
    rcases List.mem_cons.mp hc with rfl | hc
    · exact .inr (.inr (.inl rfl))
    · exact .inl (List.eq_of_mem_replicate hc)

/-- The name of a member with what stands before it. -/
theorem spellsName_gap (depth : Nat) (name : String) :
    SpellsName name (style.gap depth ++ stringText name) :=
  ⟨style.gap depth, stringText name, [], style.blank_gap depth, spellsString_stringText name,
    blank_nil, by rw [List.append_nil]⟩

/-- The value of a member with what stands between it and the colon. -/
theorem Style.spells_colon {value : Fragment} {text : List Char} (h : Spells value text) :
    ∃ spelled, Spells value spelled ∧
      ∀ rest, style.colon ++ (text ++ rest) = ':' :: (spelled ++ rest) := by
  cases style with
  | compact => exact ⟨text, h, fun _ => rfl⟩
  | pretty =>
    have hspace : Blank [' '] := by simp [Blank]
    exact ⟨' ' :: text, .after_blank hspace h, fun _ => rfl⟩

mutual

/-- The text of a value spells its tree. -/
theorem Value.spells_chars (depth : Nat) (value : Value) :
    Spells value.fragment (value.chars style depth) := by
  match value with
  | .bool b => exact .bool b
  | .nat n => exact .number (Numeral.spelledBy_toDigits n)
  | .string s => exact .string (spellsString_stringText s)
  | .array [] => exact .emptyArray blank_nil
  | .array (item :: items) =>
    -- The first item has no comma before it.
    have hitem := Spells.after_blank (style.blank_gap (depth + 1)) (item.spells_chars (depth + 1))
    have hitems := spells_itemChars (depth + 1) items hitem (style.blank_gap depth)
    have harray := Spells.array hitems
    simpa [Value.chars, itemChars, Value.fragment, itemFragments] using harray
  | .object [] => exact .emptyObject blank_nil
  | .object ((name, value) :: members) =>
    obtain ⟨spelled, hvalue, hcolon⟩ := style.spells_colon (value.spells_chars (depth + 1))
    have hmembers := spells_memberChars (depth + 1) members (spellsName_gap style (depth + 1) name)
      hvalue (style.blank_gap depth)
    have hobject := Spells.object hmembers
    simpa [Value.chars, memberChars, Value.fragment, memberFragments, hcolon] using hobject

/-- The items of an array, when the text of the first of them is known. -/
theorem spells_itemChars (depth : Nat) (items : List Value) {first : Fragment}
    {text gap : List Char} (hfirst : Spells first text) (hgap : Blank gap) :
    SpellsItems (first :: itemFragments items)
      (text ++ (itemChars style depth false items ++ gap)) := by
  match items with
  | [] => exact .last (hfirst.before_blank hgap)
  | item :: items =>
    have hitem := Spells.after_blank (style.blank_gap depth) (item.spells_chars depth)
    have hitems := SpellsItems.more hfirst (spells_itemChars depth items hitem hgap)
    simpa [itemChars, itemFragments] using hitems

/-- The members of an object, when the text of the first of them is known. -/
theorem spells_memberChars (depth : Nat) (members : List (String × Value)) {name : String}
    {first : Fragment} {nameText text gap : List Char} (hname : SpellsName name nameText)
    (hfirst : Spells first text) (hgap : Blank gap) :
    SpellsMembers ((some name, first) :: memberFragments members)
      (nameText ++ ':' :: (text ++ (memberChars style depth false members ++ gap))) := by
  match members with
  | [] => exact .last hname (hfirst.before_blank hgap)
  | (next, value) :: members =>
    obtain ⟨spelled, hvalue, hcolon⟩ := style.spells_colon (value.spells_chars depth)
    have hmembers := SpellsMembers.more hname hfirst
      (spells_memberChars depth members (spellsName_gap style depth next) hvalue hgap)
    simpa [memberChars, memberFragments, hcolon] using hmembers

end

end Spelling

/-- A text that is written is read as a document without a fault, whatever its white space. -/
theorem Document.ofText_render (style : Style) (value : Value) :
    ofText (value.render style) = ⟨value.fragment, true⟩ := by
  apply ofText_of_spells
  rw [Value.render, String.toList_ofList]
  exact value.spells_chars style 0

/-! ## Different values -/

mutual

/-- The tree tells the value. -/
theorem Value.eq_of_fragment {a b : Value} (h : a.fragment = b.fragment) : a = b := by
  match a, b with
  | .bool x, .bool y => exact congrArg Value.bool (Fragment.bool.inj h)
  | .nat n, .nat m => exact congrArg Value.nat (Numeral.ofNat_injective (Fragment.number.inj h))
  | .string s, .string t =>
    exact congrArg Value.string (Option.some.inj (Fragment.string.inj h))
  | .array xs, .array ys =>
    exact congrArg Value.array (eq_of_itemFragments (Fragment.array.inj h).1)
  | .object xs, .object ys =>
    exact congrArg Value.object (eq_of_memberFragments (Fragment.object.inj h).1)

theorem eq_of_itemFragments {xs ys : List Value} (h : itemFragments xs = itemFragments ys) :
    xs = ys := by
  match xs, ys with
  | [], [] => rfl
  | x :: xs, y :: ys =>
    obtain ⟨hitem, hrest⟩ := List.cons.inj h
    rw [Value.eq_of_fragment hitem, eq_of_itemFragments hrest]

theorem eq_of_memberFragments {xs ys : List (String × Value)}
    (h : memberFragments xs = memberFragments ys) : xs = ys := by
  match xs, ys with
  | [], [] => rfl
  | (name, x) :: xs, (other, y) :: ys =>
    obtain ⟨hmember, hrest⟩ := List.cons.inj h
    obtain ⟨hname, hvalue⟩ := Prod.mk.inj hmember
    rw [Option.some.inj hname, Value.eq_of_fragment hvalue, eq_of_memberFragments hrest]

end

/-- Different values have different texts, whatever characters are in their strings. -/
theorem Value.render_injective (style : Style) : Function.Injective (render style) := by
  intro a b h
  have hdocument : Document.ofText (a.render style) = Document.ofText (b.render style) :=
    congrArg Document.ofText h
  rw [Document.ofText_render, Document.ofText_render] at hdocument
  exact eq_of_fragment (congrArg Document.root hdocument)

end Blocklist.Json
