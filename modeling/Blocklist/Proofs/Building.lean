import Mathlib.Data.List.Basic
import Blocklist.Load
import Blocklist.Proofs.Fallible

/-! # Rules that are built

A rule comes about step by step: it begins as a bare pattern, and each option or modifier adds
something to it. What every step keeps holds of all rules that can be built.

* `Text.lowered_lower`, `Text.lowered_lowercase`: no capital ASCII letter is left in lowercase;
* `Rule.canonical_withSetting`: one step keeps the domains in order and all names in lowercase;
* `Rule.Built.canonical`: so all rules that are built are canonical;
* `FilterInput.built_of_mem_load`: the rules that are loaded from a file are built.
-/

namespace Blocklist

/-! ## Lowercase -/

namespace Text

/-- The text holds no capital ASCII letter. -/
def Lowered (s : String) : Prop :=
  ∀ c ∈ s.toList, c.isUpper = false

theorem isUpper_iff {c : Char} : c.isUpper = true ↔ 'A'.val ≤ c.val ∧ c.val ≤ 'Z'.val :=
  decide_eq_true_iff

theorem isUpper_iff_toNat {c : Char} : c.isUpper = true ↔ 0x41 ≤ c.toNat ∧ c.toNat ≤ 0x5a :=
  isUpper_iff

theorem toNat_toLower_of_isUpper {c : Char} (h : c.isUpper = true) :
    c.toLower.toNat = c.toNat + 0x20 := by
  have hrange := isUpper_iff_toNat.mp h
  have hshift : (c.val + ('a'.val - 'A'.val)).toNat = (c.toNat + 0x20) % 2 ^ 32 :=
    UInt32.toNat_add _ _
  unfold Char.toLower
  rw [dif_pos (isUpper_iff.mp h)]
  show (c.val + ('a'.val - 'A'.val)).toNat = c.toNat + 0x20
  rw [hshift]
  omega

theorem toLower_eq_self {c : Char} (h : c.isUpper = false) : c.toLower = c := by
  rw [← Bool.not_eq_true] at h
  unfold Char.toLower
  exact dif_neg fun hcapital => h (isUpper_iff.mpr hcapital)

theorem isUpper_toLower (c : Char) : c.toLower.isUpper = false := by
  cases h : c.isUpper with
  | false => rw [toLower_eq_self h, h]
  | true =>
    have hrange := isUpper_iff_toNat.mp h
    rw [← Bool.not_eq_true, isUpper_iff_toNat, toNat_toLower_of_isUpper h]
    omega

/-- Only letters become other characters in lowercase, and then they become letters. -/
theorem toLower_eq_iff {c mark : Char} (h : mark.toNat < 0x41 ∨ 0x7a < mark.toNat) :
    c.toLower = mark ↔ c = mark := by
  cases hupper : c.isUpper with
  | false => rw [toLower_eq_self hupper]
  | true =>
    have hrange := isUpper_iff_toNat.mp hupper
    have hlower := toNat_toLower_of_isUpper hupper
    constructor
    · rintro rfl
      omega
    · rintro rfl
      omega

/-- A code point behind the capital ASCII letters is none of them, nor is what stands for it if it
is no character. -/
theorem isUpper_ofNat {n : Nat} (h : 0x5a < n) : (Char.ofNat n).isUpper = false := by
  by_cases hvalid : n.isValidChar
  · have hchar : Char.ofNat n = Char.ofNatAux n hvalid := dif_pos hvalid
    rw [← Bool.not_eq_true, isUpper_iff_toNat, hchar]
    show ¬ (0x41 ≤ n ∧ n ≤ 0x5a)
    omega
  · have hchar : Char.ofNat n = ⟨0, .inl (by decide)⟩ := dif_neg hvalid
    rw [hchar]
    rfl

theorem lowered_lower (s : String) : Lowered (lower s) := by
  intro c hc
  rw [toList_lower] at hc
  obtain ⟨d, -, rfl⟩ := List.mem_map.mp hc
  exact isUpper_toLower d

/-- In a lowered text there is nothing to lower. -/
theorem Lowered.lower_eq {s : String} (h : Lowered s) : lower s = s := by
  have hsame : s.toList.map Char.toLower = s.toList.map id := by
    refine List.map_congr_left fun c hc => ?_
    exact toLower_eq_self (h c hc)
  rw [lower, hsame, List.map_id, String.ofList_toList]

theorem image_of_mem_caseRuns : ∀ run ∈ caseRuns, 0x5a < run.image := by
  decide +kernel

/-- The run of the ASCII letters. -/
theorem mem_caseRuns_ascii : (⟨0x41, 0x5a, 1, 0x61⟩ : CaseRun) ∈ caseRuns :=
  List.mem_cons_self

theorem isUpper_eq_false_of_mem_smallForm {c d : Char} (h : d ∈ smallForm c) :
    d.isUpper = false := by
  unfold smallForm at h
  split at h
  · rcases List.mem_cons.mp h with rfl | h
    · decide
    · rw [List.mem_singleton.mp h]
      decide
  · split at h
    · -- Small letters lie behind the capital ASCII letters, and so does no other image.
      next run hrun =>
      have himage := image_of_mem_caseRuns run (List.mem_of_find?_eq_some hrun)
      rw [List.mem_singleton.mp h]
      exact isUpper_ofNat (Nat.lt_of_lt_of_le himage (Nat.le_add_right _ _))
    · -- A character that no run covers is no capital ASCII letter.
      next hnone =>
      have hascii := List.find?_eq_none.mp hnone _ mem_caseRuns_ascii
      rw [List.mem_singleton.mp h, ← Bool.not_eq_true, isUpper_iff_toNat]
      rintro ⟨hlow, hhigh⟩
      exact hascii (by simp [CaseRun.covers, hlow, hhigh, Nat.mod_one])

theorem isUpper_eq_false_of_mem_loweredAfter {before cs : List Char} {c : Char}
    (h : c ∈ loweredAfter before cs) : c.isUpper = false := by
  -- The text before grows with every character, and it only decides between two small sigmas.
  induction cs generalizing before with
  | nil => cases h
  | cons d rest ih =>
    rcases List.mem_append.mp h with hhere | hlater
    · split at hhere
      · split at hhere
        · rw [List.mem_singleton.mp hhere]
          decide
        · rw [List.mem_singleton.mp hhere]
          decide
      · exact isUpper_eq_false_of_mem_smallForm hhere
    · exact ih hlater

theorem lowered_lowercase (s : String) : Lowered (lowercase s) := by
  intro c hc
  rw [toList_lowercase] at hc
  exact isUpper_eq_false_of_mem_loweredAfter hc

end Text

/-! ## Header names -/

/-- Forbidden headers are written in small letters and without blanks. -/
theorem plain_of_mem_forbiddenHeaders {header : String} (h : header ∈ forbiddenHeaders) :
    ∀ c ∈ header.toList, c.isUpper = false ∧ Text.isBlank c = false := by
  have hplain : (forbiddenHeaders.all fun header =>
      header.toList.all fun c => !c.isUpper && !Text.isBlank c) = true := by
    decide +kernel
  intro c hc
  have hletters := List.all_eq_true.mp hplain header h
  simpa using List.all_eq_true.mp hletters c hc

/-! ## Domains -/

/-- The domain that the entry is about. -/
def DomainEntry.domain : DomainEntry → String
  | permitted domain => domain
  | restricted domain => domain

/-- The domains are in strictly ascending order and in lowercase. -/
structure Domains.Canonical (domains : List String) : Prop where
  ascending : domains.Pairwise (· < ·)
  lowered : ∀ domain ∈ domains, Text.Lowered domain

theorem Domains.Canonical.nil : Domains.Canonical [] where
  ascending := List.Pairwise.nil
  lowered := fun _ h => by cases h

theorem Domains.Canonical.insertAll {domains known : List String} (h : Canonical known)
    (hlowered : ∀ domain ∈ domains, Text.Lowered domain) :
    Canonical (Domains.insertAll domains known) where
  ascending := ascending_insertAll h.ascending
  lowered := by
    intro domain hdomain
    rcases mem_insertAll.mp hdomain with hnew | hknown
    · exact hlowered domain hnew
    · exact h.lowered domain hknown

/-- A part of a canonical list is canonical. -/
theorem Domains.Canonical.filter {domains : List String} (h : Canonical domains)
    (p : String → Bool) : Canonical (domains.filter p) where
  ascending := h.ascending.filter p
  lowered := fun domain hdomain => h.lowered domain (List.mem_filter.mp hdomain).1

theorem DomainEntry.lowered_ofPiece? {piece : List Char} {entry : DomainEntry}
    (h : ofPiece? piece = some entry) : Text.Lowered entry.domain := by
  unfold ofPiece? at h
  split at h
  · cases h
  · rw [← Option.some.inj h]
    exact Text.lowered_lower _
  · rw [← Option.some.inj h]
    exact Text.lowered_lower _

theorem DomainEntry.lowered_of_mem_ofValue {value : String} {entry : DomainEntry}
    (h : entry ∈ ofValue value) : Text.Lowered entry.domain := by
  obtain ⟨piece, -, hpiece⟩ := List.mem_filterMap.mp h
  exact lowered_ofPiece? hpiece

/-! ## Settings -/

/-- If the modifier removes a header, it names the header in lowercase. -/
def Modifier.Lowered (modifier : Modifier) : Prop :=
  ∀ value, modifier = .removeHeader value → Text.Lowered value

theorem Modifier.lowered_of_make {kind : ModifierKind} {value : String} {allowlist : Bool}
    {modifier : Modifier} (h : make kind value allowlist = .ok modifier) : modifier.Lowered := by
  intro header hheader
  subst hheader
  have hkind : kind = .removeHeader := (kind_of_make h).symm
  subst hkind
  simp only [make] at h
  split at h
  · cases h
  · rw [← Modifier.removeHeader.inj (Except.ok.inj h)]
    exact Text.lowered_lowercase value

/-- All names in the setting are in lowercase. -/
def Setting.Lowered : Setting → Prop
  | domains entries => ∀ entry ∈ entries, Text.Lowered entry.domain
  | modifier m => m.Lowered
  | _ => True

theorem Modifier.lowered_of_parse {name value : String} {allowlist : Bool} {modifier : Modifier}
    (h : parse name value allowlist = .ok (some modifier)) : modifier.Lowered := by
  unfold parse at h
  split at h
  · next kind _ =>
    obtain ⟨made, hmake, hsome⟩ := exists_ok_of_map h
    cases hsome
    exact lowered_of_make hmake
  · cases h

/-- All that an option can be read as. -/
theorem Setting.parse_cases {name value : String} {allowlist : Bool} {setting : Setting}
    (h : parse name value allowlist = .ok setting) :
    (∃ f, setting = flag f) ∨
    (Text.lower (Text.trim name) = "domain" ∧ setting = domains (DomainEntry.ofValue value)) ∨
    (∃ t, setting = permitType t) ∨
    (∃ t, setting = restrictType t) ∨
    ∃ m, Modifier.parse (Text.lower (Text.trim name)) value allowlist = .ok (some m) ∧
      setting = modifier m := by
  unfold parse at h
  dsimp only at h
  split at h
  · next f _ => exact .inl ⟨f, (Except.ok.inj h).symm⟩
  · split at h
    · next hdomain => exact .inr (.inl ⟨hdomain, (Except.ok.inj h).symm⟩)
    · split at h
      · next made hmade =>
        rw [← Except.ok.inj h]
        unfold ofTypeName? at hmade
        split at hmade
        · obtain ⟨t, -, rfl⟩ := Option.map_eq_some_iff.mp hmade
          exact .inr (.inr (.inr (.inl ⟨t, rfl⟩)))
        · obtain ⟨t, -, rfl⟩ := Option.map_eq_some_iff.mp hmade
          exact .inr (.inr (.inl ⟨t, rfl⟩))
      · split at h
        · next m hm => exact .inr (.inr (.inr (.inr ⟨m, hm, (Except.ok.inj h).symm⟩)))
        · cases h
        · cases h

theorem Setting.lowered_of_parse {name value : String} {allowlist : Bool} {setting : Setting}
    (h : parse name value allowlist = .ok setting) : setting.Lowered := by
  rcases parse_cases h with ⟨f, rfl⟩ | ⟨-, rfl⟩ | ⟨t, rfl⟩ | ⟨t, rfl⟩ | ⟨m, hm, rfl⟩
  · trivial
  · exact fun entry hentry => DomainEntry.lowered_of_mem_ofValue hentry
  · trivial
  · trivial
  · exact Modifier.lowered_of_parse hm

/-! ## Rules -/

namespace Rule

/-- Rules that can be built. A modifier may have been read for another rule, so that what only an
exception may leave out can be missing from any rule. -/
inductive Built : Rule → Prop where
  | bare (pattern : String) (allowlist : Bool) : Built { pattern, allowlist }
  | option {rule made : Rule} {name value : String} :
      Built rule → rule.withOption name value = .ok made → Built made
  | modifier {rule made : Rule} {kind : ModifierKind} {value : String} {allowlist : Bool}
      {m : Modifier} :
      Built rule → Modifier.make kind value allowlist = .ok m → rule.withModifier m = .ok made →
      Built made

/-- The domains of the rule are in order, and all its names are in lowercase. -/
structure Canonical (rule : Rule) : Prop where
  permitted : Domains.Canonical rule.permittedDomains
  restricted : Domains.Canonical rule.restrictedDomains
  modifier : ∀ m, rule.modifier = some m → m.Lowered

variable {rule made : Rule}

theorem canonical_bare (pattern : String) (allowlist : Bool) :
    Canonical { pattern, allowlist } where
  permitted := Domains.Canonical.nil
  restricted := Domains.Canonical.nil
  modifier := fun _ h => by cases h

theorem canonical_withDomains {entries : List DomainEntry} (h : rule.Canonical)
    (hentries : ∀ entry ∈ entries, Text.Lowered entry.domain) :
    (rule.withDomains entries).Canonical where
  permitted := by
    refine h.permitted.insertAll fun domain hdomain => ?_
    obtain ⟨entry, hentry, hpermitted⟩ := List.mem_filterMap.mp hdomain
    cases entry with
    | permitted d =>
      cases hpermitted
      exact hentries _ hentry
    | restricted d => cases hpermitted
  restricted := by
    refine h.restricted.insertAll fun domain hdomain => ?_
    obtain ⟨entry, hentry, hrestricted⟩ := List.mem_filterMap.mp hdomain
    cases entry with
    | permitted d => cases hrestricted
    | restricted d =>
      cases hrestricted
      exact hentries _ hentry
  modifier := h.modifier

theorem canonical_withModifier {m : Modifier} (h : rule.Canonical) (hm : m.Lowered)
    (hmade : rule.withModifier m = .ok made) : made.Canonical := by
  unfold withModifier at hmade
  split at hmade
  · cases hmade
  · rw [← Except.ok.inj hmade]
    constructor
    case permitted => exact h.permitted
    case restricted => exact h.restricted
    case modifier =>
      intro other hother
      rw [← Option.some.inj hother]
      exact hm

/-- One more setting leaves a canonical rule canonical. -/
theorem canonical_withSetting {setting : Setting} (h : rule.Canonical) (hs : setting.Lowered)
    (hmade : rule.withSetting setting = .ok made) : made.Canonical := by
  cases setting with
  | flag f =>
    rw [← Except.ok.inj hmade]
    exact ⟨h.permitted, h.restricted, h.modifier⟩
  | domains entries =>
    rw [← Except.ok.inj hmade]
    exact canonical_withDomains h hs
  | permitType t =>
    rw [← Except.ok.inj hmade]
    exact ⟨h.permitted, h.restricted, h.modifier⟩
  | restrictType t =>
    rw [← Except.ok.inj hmade]
    exact ⟨h.permitted, h.restricted, h.modifier⟩
  | modifier m => exact canonical_withModifier h hs hmade

theorem canonical_withOption {name value : String} (h : rule.Canonical)
    (hmade : rule.withOption name value = .ok made) : made.Canonical := by
  obtain ⟨setting, hsetting, hadded⟩ := exists_ok_of_bind hmade
  exact canonical_withSetting h (Setting.lowered_of_parse hsetting) hadded

/-- All rules that can be built are canonical. -/
theorem Built.canonical (h : rule.Built) : rule.Canonical := by
  induction h with
  | bare pattern allowlist => exact canonical_bare pattern allowlist
  | option _ hmade ih => exact canonical_withOption ih hmade
  | modifier _ hm hmade ih => exact canonical_withModifier ih (Modifier.lowered_of_make hm) hmade

/-- Several options build a rule if none of them is refused. -/
theorem Built.withOptions {options : List (String × String)} (h : rule.Built)
    (hmade : rule.withOptions options = .ok made) : made.Built := by
  induction options generalizing rule with
  | nil =>
    rw [← Except.ok.inj hmade]
    exact h
  | cons first rest ih =>
    unfold Rule.withOptions at hmade
    rw [List.foldlM_cons] at hmade
    obtain ⟨next, hfirst, hrest⟩ := exists_ok_of_bind hmade
    exact ih (h.option hfirst) hrest

end Rule

/-! ## Loaded rules -/

theorem RuleInput.built_of_sourceRule? {input : RuleInput} {r : SourceRule}
    (h : input.sourceRule? = some r) : r.rule.Built := by
  obtain ⟨rule, hrule, rfl⟩ := Option.map_eq_some_iff.mp h
  exact (Rule.Built.bare input.pattern input.allowlist).withOptions (eq_ok_of_toOption hrule)

theorem FilterInput.built_of_mem_load {input : FilterInput} {filter : Filter}
    (h : filter ∈ input.load.filters) : ∀ r ∈ filter.rules, r.rule.Built := by
  intro r hr
  rw [List.mem_singleton.mp h] at hr
  obtain ⟨rule, -, hrule⟩ := List.mem_filterMap.mp hr
  exact RuleInput.built_of_sourceRule? hrule

end Blocklist
