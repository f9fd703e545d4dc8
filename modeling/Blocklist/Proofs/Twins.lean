import Mathlib.Data.List.Basic
import Mathlib.Data.List.Perm.Basic
import Blocklist.Proofs.Assembly

/-! # Badfilter rules and their twins

A badfilter rule is meant for one rule: the one that has the same pattern and the same options, but
for the badfilter option itself. However the two are written down, they are told to belong together
by comparing their parts.

* `Rule.negates_iff_alike`: what a badfilter rule negates, part by part;
* `Text.trimmed_padded`: blanks around a text do not matter;
* `Rule.withOptions_badfilters`: badfilter options change nothing but the one flag;
* `negates_twin_only`: the options of a rule and a badfilter option build the rule that negates it.
-/

namespace Blocklist

/-! ## Names with blanks around them -/

namespace Text

theorem dropWhile_isBlank_padded {before rest : List Char} {c : Char}
    (hbefore : ∀ b ∈ before, isBlank b = true) (hc : isBlank c = false) :
    (before ++ c :: rest).dropWhile isBlank = c :: rest := by
  rw [List.dropWhile_append_of_pos hbefore, List.dropWhile_cons_of_neg]
  rw [hc]
  exact Bool.false_ne_true

/-- Blanks before and behind a text that has none in it are taken off. -/
theorem trimmed_padded {before letters after : List Char}
    (hbefore : ∀ c ∈ before, isBlank c = true) (hletters : ∀ c ∈ letters, isBlank c = false)
    (hne : letters ≠ []) (hafter : ∀ c ∈ after, isBlank c = true) :
    trimmed (before ++ letters ++ after) = letters := by
  obtain ⟨first, rest, hfirst⟩ := List.exists_cons_of_ne_nil hne
  obtain ⟨front, last, hlast⟩ := List.eq_nil_or_concat letters |>.resolve_left hne
  have hstart : isBlank first = false := hletters first (by rw [hfirst]; exact List.mem_cons_self)
  have hend : isBlank last = false := hletters last (by rw [hlast]; simp)
  have hafter' : ∀ c ∈ after.reverse, isBlank c = true := by
    intro c hc
    exact hafter c (List.mem_reverse.mp hc)
  have hleft : (before ++ letters ++ after).dropWhile isBlank = letters ++ after := by
    rw [hfirst, List.append_assoc, List.cons_append]
    exact dropWhile_isBlank_padded hbefore hstart
  -- The text ends with its last letter, which is the first one from behind.
  have hright : (letters ++ after).reverse.dropWhile isBlank = letters.reverse := by
    rw [hlast, List.concat_eq_append, List.reverse_append, List.reverse_append]
    exact dropWhile_isBlank_padded hafter' hend
  rw [trimmed, hleft, hright, List.reverse_reverse]

/-- No blank is a letter of ASCII. -/
theorem toNat_of_isBlank {c : Char} (h : isBlank c = true) : c.toNat < 0x41 ∨ 0x7a < c.toNat := by
  obtain ⟨span, hspan, hlow, hhigh⟩ := Spans.holds_eq_true_iff.mp h
  simp only [blanks, List.mem_cons, List.not_mem_nil, or_false] at hspan
  rcases hspan with rfl | rfl | rfl | rfl | rfl | rfl | rfl | rfl | rfl | rfl <;> omega

theorem isBlank_toLower (c : Char) : isBlank c.toLower = isBlank c := by
  rw [Bool.eq_iff_iff]
  constructor
  · intro h
    have hsame : c = c.toLower := (toLower_eq_iff (toNat_of_isBlank h)).mp rfl
    rw [hsame]
    exact h
  · intro h
    rw [(toLower_eq_iff (toNat_of_isBlank h)).mpr rfl]
    exact h

end Text

/-- The name is that of a badfilter option, in small or capital letters and with any blanks around
it. -/
def IsBadfilterName (name : String) : Prop :=
  ∃ before letters after : List Char, name.toList = before ++ letters ++ after ∧
    (∀ c ∈ before, Text.isBlank c = true) ∧ letters.map Char.toLower = "badfilter".toList ∧
    ∀ c ∈ after, Text.isBlank c = true

theorem optionName_of_isBadfilterName {name : String} (h : IsBadfilterName name) :
    optionName name = "badfilter" := by
  obtain ⟨before, letters, after, hname, hbefore, hletters, hafter⟩ := h
  have hplain : ("badfilter".toList.all fun c => !Text.isBlank c) = true := by
    decide +kernel
  have hblank : ∀ c ∈ letters, Text.isBlank c = false := by
    intro c hc
    have hmem : c.toLower ∈ "badfilter".toList := by
      rw [← hletters]
      exact List.mem_map_of_mem hc
    rw [← Text.isBlank_toLower]
    simpa using List.all_eq_true.mp hplain _ hmem
  have hne : letters ≠ [] := by
    rintro rfl
    cases hletters
  rw [← String.toList_inj, optionName, Text.toList_lower, Text.toList_trim, hname,
    Text.trimmed_padded hbefore hblank hne hafter, hletters]

/-! ## Twins -/

namespace Rule

/-- The two rules agree in all but whether they are badfilter rules. -/
structure Alike (a b : Rule) : Prop where
  pattern : a.pattern = b.pattern
  allowlist : a.allowlist = b.allowlist
  flags : ∀ f, f ≠ .badfilter → a.flags.contains f = b.flags.contains f
  permittedDomains : a.permittedDomains = b.permittedDomains
  restrictedDomains : a.restrictedDomains = b.restrictedDomains
  permittedTypes : a.permittedTypes = b.permittedTypes
  restrictedTypes : a.restrictedTypes = b.restrictedTypes
  modifier : a.modifier = b.modifier

variable {rule target : Rule}

theorem isBadfilter_twin (rule : Rule) : rule.twin.isBadfilter = false := rfl

theorem alike_twin (rule : Rule) : rule.Alike rule.twin := by
  refine ⟨rfl, rfl, fun f hf => ?_, rfl, rfl, rfl, rfl, rfl⟩
  cases f with
  | badfilter => exact absurd rfl hf
  | important | matchCase | thirdParty | firstParty => rfl

/-- The twin is the one rule that is like the rule and no badfilter rule. -/
theorem Alike.twin_eq (h : rule.Alike target) (htarget : target.isBadfilter = false) :
    rule.twin = target := by
  have hflags : rule.twin.flags = target.flags := by
    refine Flags.ext_contains fun f => ?_
    cases f with
    | badfilter => exact htarget.symm
    | important => exact h.flags .important (by decide)
    | matchCase => exact h.flags .matchCase (by decide)
    | thirdParty => exact h.flags .thirdParty (by decide)
    | firstParty => exact h.flags .firstParty (by decide)
  obtain ⟨hpattern, hallowlist, -, hpermitted, hrestricted, htypes, htypes', hmodifier⟩ := h
  cases rule
  cases target
  simp_all [twin]

theorem negates_iff_alike :
    rule.negates target = true ↔
      rule.isBadfilter = true ∧ target.isBadfilter = false ∧ rule.Alike target := by
  rw [negates_iff]
  constructor
  · rintro ⟨hbad, rfl⟩
    exact ⟨hbad, rule.isBadfilter_twin, rule.alike_twin⟩
  · rintro ⟨hbad, htarget, halike⟩
    exact ⟨hbad, halike.twin_eq htarget⟩

/-! ## Badfilter options -/

/-- The rule as a badfilter rule. -/
def asBadfilter (rule : Rule) : Rule :=
  { rule with flags := rule.flags.insert .badfilter }

theorem Alike.refl (rule : Rule) : rule.Alike rule :=
  ⟨rfl, rfl, fun _ _ => rfl, rfl, rfl, rfl, rfl, rfl⟩

/-- As a badfilter rule, a rule negates what it was before and nothing else. -/
theorem negates_asBadfilter_iff (h : rule.isBadfilter = false) :
    rule.asBadfilter.negates target = true ↔ target = rule := by
  have htwin : rule.asBadfilter.twin = rule.twin := rfl
  have hbad : rule.asBadfilter.isBadfilter = true := rfl
  rw [negates_iff, htwin, (Alike.refl rule).twin_eq h]
  constructor
  · rintro ⟨-, rfl⟩
    rfl
  · rintro rfl
    exact ⟨hbad, rfl⟩

theorem withOption_badfilter {name : String} (h : IsBadfilterName name) (value : String)
    (rule : Rule) : rule.withOption name value = .ok rule.asBadfilter := by
  have hname : Text.lower (Text.trim name) = "badfilter" := optionName_of_isBadfilterName h
  have hparse : Setting.parse name value rule.allowlist = .ok (.flag .badfilter) := by
    unfold Setting.parse
    dsimp only
    rw [hname]
    rfl
  rw [withOption, hparse, ok_bind]
  rfl

/-- Badfilter options change nothing but the one flag. -/
theorem withOptions_badfilters {extras : List (String × String)} (hne : extras ≠ [])
    (hextras : ∀ o ∈ extras, IsBadfilterName o.1) (rule : Rule) :
    rule.withOptions extras = .ok rule.asBadfilter := by
  induction extras generalizing rule with
  | nil => exact absurd rfl hne
  | cons first rest ih =>
    obtain ⟨hfirst, hrest⟩ := List.forall_mem_cons.mp hextras
    rw [withOptions_cons, withOption_badfilter hfirst, ok_bind]
    cases rest with
    | nil => rfl
    | cons second more => exact ih (List.cons_ne_nil _ _) hrest rule.asBadfilter

end Rule

/-- A badfilter rule negates the rules that agree with it in all else and are no badfilter rules.
There is one such rule at most. The options that build a rule, with badfilter options anywhere among
them and in any order, build a rule that negates it and no other. -/
theorem negates_twin_only :
    (∀ a b : Rule, a.negates b = true ↔
      a.isBadfilter = true ∧ b.isBadfilter = false ∧ a.Alike b) ∧
    (∀ a b : Rule, a = b ∨ b.isBadfilter = true → a.negates b = false) ∧
    (∀ a b c : Rule, a.negates b = true → a.negates c = true → b = c) ∧
    ∀ (pattern : String) (allowlist : Bool) (options : List (String × String)) (r : Rule),
      (Rule.bare pattern allowlist).withOptions options = .ok r → r.isBadfilter = false →
      ∀ extras others : List (String × String), extras ≠ [] →
        (∀ o ∈ extras, IsBadfilterName o.1) → others.Perm (options ++ extras) →
        ∃ b, (Rule.bare pattern allowlist).withOptions others = .ok b ∧
          ∀ target, b.negates target = true ↔ target = r := by
  refine ⟨fun a b => Rule.negates_iff_alike, fun a b h => ?_, fun a b c hb hc => ?_, ?_⟩
  · rw [← Bool.not_eq_true, Rule.negates_iff_alike]
    rintro ⟨hbad, hnot, -⟩
    rcases h with rfl | hb
    · rw [hnot] at hbad
      cases hbad
    · rw [hnot] at hb
      cases hb
  · exact (Rule.negates_iff.mp hb).2.symm.trans (Rule.negates_iff.mp hc).2
  · intro pattern allowlist options r hr hplain extras others hne hextras hperm
    have hlonger : (Rule.bare pattern allowlist).withOptions (options ++ extras) =
        .ok r.asBadfilter := by
      rw [Rule.withOptions_append, hr, ok_bind]
      exact Rule.withOptions_badfilters hne hextras r
    refine ⟨r.asBadfilter, ?_, fun target => Rule.negates_asBadfilter_iff hplain⟩
    refine eq_ok_of_toOption ?_
    rw [Rule.toOption_withOptions_perm hperm, hlonger]
    rfl

/-- Options of a rule. -/
def sampleTarget : List (String × String) :=
  [("script", ""), ("domain", "a.example|b.example")]

/-- Two badfilter options, one of them with blanks around its name. -/
def sampleBadfilters : List (String × String) :=
  [("badfilter", ""), (" BadFilter\u3000", "x")]

theorem isBadfilterName_of_mem_sampleBadfilters : ∀ o ∈ sampleBadfilters, IsBadfilterName o.1 := by
  intro o ho
  simp only [sampleBadfilters, List.mem_cons, List.not_mem_nil, or_false] at ho
  rcases ho with rfl | rfl
  · exact ⟨[], "badfilter".toList, [], rfl, List.forall_mem_nil _, rfl, List.forall_mem_nil _⟩
  · exact ⟨[' '], "BadFilter".toList, ['\u3000'], rfl, List.forall_mem_singleton.mpr rfl, rfl,
      List.forall_mem_singleton.mpr rfl⟩

/-- The badfilter options stand in the middle of the others, which stand the other way round. -/
theorem negates_twin_only_sample :
    ∃ r b, (Rule.bare "||ads.example^" false).withOptions sampleTarget = .ok r ∧
      (Rule.bare "||ads.example^" false).withOptions
        [("domain", "a.example|b.example"), (" BadFilter\u3000", "x"), ("badfilter", ""),
          ("script", "")] = .ok b ∧
      b.negates r = true ∧ r.negates r = false ∧ b.negates b = false ∧
      ∀ target, b.negates target = true → target = r := by
  obtain ⟨-, hnever, -, hbuilds⟩ := negates_twin_only
  have hr : ∃ r, (Rule.bare "||ads.example^" false).withOptions sampleTarget = .ok r ∧
      r.isBadfilter = false :=
    ⟨_, rfl, rfl⟩
  obtain ⟨r, hr, hplain⟩ := hr
  have hperm : [("domain", "a.example|b.example"), (" BadFilter\u3000", "x"), ("badfilter", ""),
      ("script", "")].Perm (sampleTarget ++ sampleBadfilters) := by
    decide
  obtain ⟨b, hb, htarget⟩ := hbuilds "||ads.example^" false sampleTarget r hr hplain
    sampleBadfilters _ (List.cons_ne_nil _ _) isBadfilterName_of_mem_sampleBadfilters hperm
  exact ⟨r, b, hr, hb, (htarget r).mpr rfl, hnever r r (.inl rfl), hnever b b (.inl rfl),
    fun target => (htarget target).mp⟩

end Blocklist
