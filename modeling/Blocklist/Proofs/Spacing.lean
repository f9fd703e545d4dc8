import Mathlib.Data.List.Basic
import Mathlib.Data.List.TakeWhile
import Blocklist.Proofs.Twins

/-! # Blanks around values

Blanks at the two ends of a modifier's value say nothing, for the value is trimmed before anything
else is done with it. Header removals are the exception: their values are lowercased but not
trimmed, so that blanks around a header name become part of the name.

* `Text.trimmed_trimmed`: a trimmed text has nothing to trim;
* `Text.loweredAfter_padded`: lowercasing leaves the blanks around a text as they are;
* `Modifier.make_trim`: all modifiers but header removals are made of the trimmed value;
* `Modifier.removeHeader_of_blank`: a header removal with a blank in it is never refused;
* `parse_trim_iff`: when a value and the trimmed value make the same modifier.
-/

namespace Blocklist

namespace Text

/-! ## Trimmed texts -/

/-- No blank stands at either end of the text. -/
structure IsTrimmed (cs : List Char) : Prop where
  first : ∀ c, cs.head? = some c → isBlank c = false
  last : ∀ c, cs.getLast? = some c → isBlank c = false

/-- The text is not empty, and no blank stands at either end of it. -/
structure Tidy (s : String) : Prop where
  nonempty : s ≠ ""
  trimmed : IsTrimmed s.toList

theorem isBlank_head?_dropWhile {cs : List Char} {c : Char}
    (h : (cs.dropWhile isBlank).head? = some c) : isBlank c = false := by
  have hnot := List.head?_dropWhile_not isBlank cs
  rw [h] at hnot
  exact hnot

theorem dropWhile_eq_self_of_head? {cs : List Char}
    (h : ∀ c, cs.head? = some c → isBlank c = false) : cs.dropWhile isBlank = cs := by
  cases cs with
  | nil => rfl
  | cons c rest =>
    have hc : isBlank c = false := h c rfl
    rw [List.dropWhile_cons_of_neg]
    rw [hc]
    exact Bool.false_ne_true

/-- What is left of a text when the blanks at its two ends are gone. -/
theorem exists_padding (cs : List Char) :
    ∃ before after : List Char, cs = before ++ trimmed cs ++ after ∧
      (∀ c ∈ before, isBlank c = true) ∧ ∀ c ∈ after, isBlank c = true := by
  have hfront := List.takeWhile_append_dropWhile (p := isBlank) (l := cs)
  have hback := List.takeWhile_append_dropWhile (p := isBlank)
    (l := (cs.dropWhile isBlank).reverse)
  refine ⟨cs.takeWhile isBlank, ((cs.dropWhile isBlank).reverse.takeWhile isBlank).reverse,
    ?_, fun c hc => List.mem_takeWhile_imp hc, fun c hc => ?_⟩
  · -- From behind, the blanks at the end come first.
    have hrest : trimmed cs ++ ((cs.dropWhile isBlank).reverse.takeWhile isBlank).reverse =
        cs.dropWhile isBlank := by
      rw [trimmed, ← List.reverse_append, hback, List.reverse_reverse]
    rw [List.append_assoc, hrest, hfront]
  · exact List.mem_takeWhile_imp (List.mem_reverse.mp hc)

theorem mem_of_mem_trimmed {cs : List Char} {c : Char} (h : c ∈ trimmed cs) : c ∈ cs := by
  obtain ⟨before, after, hpadded, -, -⟩ := exists_padding cs
  rw [hpadded]
  exact List.mem_append_left _ (List.mem_append_right _ h)

theorem isTrimmed_trimmed (cs : List Char) : IsTrimmed (trimmed cs) := by
  constructor
  case first =>
    intro c hc
    -- The trimmed text is a beginning of what is left without the blanks in front.
    have hprefix : trimmed cs <+: cs.dropWhile isBlank := by
      have hsuffix := List.dropWhile_suffix (l := (cs.dropWhile isBlank).reverse) isBlank
      rw [← List.reverse_prefix, List.reverse_reverse] at hsuffix
      exact hsuffix
    obtain ⟨after, hafter⟩ := hprefix
    have hhead : (cs.dropWhile isBlank).head? = some c := by
      rw [← hafter, List.head?_append, hc]
      rfl
    exact isBlank_head?_dropWhile hhead
  case last =>
    intro c hc
    rw [trimmed, List.getLast?_reverse] at hc
    exact isBlank_head?_dropWhile hc

theorem IsTrimmed.trimmed_eq {cs : List Char} (h : IsTrimmed cs) : trimmed cs = cs := by
  have hback : cs.reverse.dropWhile isBlank = cs.reverse := by
    refine dropWhile_eq_self_of_head? fun c hc => ?_
    rw [List.head?_reverse] at hc
    exact h.last c hc
  rw [trimmed, dropWhile_eq_self_of_head? h.first, hback, List.reverse_reverse]

/-- A trimmed text has nothing to trim. -/
@[simp] theorem trimmed_trimmed (cs : List Char) : trimmed (trimmed cs) = trimmed cs :=
  (isTrimmed_trimmed cs).trimmed_eq

@[simp] theorem trim_trim (s : String) : trim (trim s) = trim s := by
  rw [← String.toList_inj, toList_trim, toList_trim, trimmed_trimmed]

/-! ## Lowercase -/

/-- The code points of all blanks. -/
def blankCodes : List Nat :=
  blanks.flatMap fun span => List.range' span.1 (span.2 + 1 - span.1)

theorem toNat_mem_blankCodes {c : Char} (h : isBlank c = true) : c.toNat ∈ blankCodes := by
  obtain ⟨span, hspan, hlow, hhigh⟩ := Spans.holds_eq_true_iff.mp h
  refine List.mem_flatMap.mpr ⟨span, hspan, ?_⟩
  rw [List.mem_range'_1]
  omega

/-- A blank has no small form but itself. It is no letter, and it ends a word. -/
theorem plain_of_mem_blankCodes : ∀ n ∈ blankCodes,
    n ≠ 0x130 ∧ n ≠ 0x3a3 ∧ caseRuns.find? (·.covers n) = none ∧
      caseIgnorables.covers n = false ∧ casedLetters.covers n = false := by
  decide +kernel

theorem smallForm_of_isBlank {c : Char} (h : isBlank c = true) : smallForm c = [c] := by
  obtain ⟨hdotted, -, hruns, -, -⟩ := plain_of_mem_blankCodes _ (toNat_mem_blankCodes h)
  have hne : c ≠ '\u0130' := by
    rintro rfl
    exact hdotted rfl
  rw [smallForm, if_neg hne, hruns]

/-- No letter is seen past a blank. -/
theorem reachesLetter_blank_cons {c : Char} (h : isBlank c = true) (cs : List Char) :
    reachesLetter (c :: cs) = false := by
  obtain ⟨-, -, -, hignorable, hletter⟩ := plain_of_mem_blankCodes _ (toNat_mem_blankCodes h)
  have hstop : ¬ caseIgnorables.holds c = true := by
    rw [Spans.holds, hignorable]
    exact Bool.false_ne_true
  rw [reachesLetter, List.dropWhile_cons_of_neg hstop]
  exact hletter

theorem reachesLetter_append_blanks {after : List Char} (h : ∀ c ∈ after, isBlank c = true)
    (cs : List Char) : reachesLetter (cs ++ after) = reachesLetter cs := by
  induction cs with
  | nil =>
    cases after with
    | nil => rfl
    | cons c rest => exact reachesLetter_blank_cons (h c List.mem_cons_self) rest
  | cons d rest ih =>
    unfold reachesLetter at ih ⊢
    by_cases hd : caseIgnorables.holds d = true
    · rw [List.cons_append, List.dropWhile_cons_of_pos hd, List.dropWhile_cons_of_pos hd]
      exact ih
    · rw [List.cons_append, List.dropWhile_cons_of_neg hd, List.dropWhile_cons_of_neg hd]

theorem loweredAfter_blank_cons {c : Char} (h : isBlank c = true) (before cs : List Char) :
    loweredAfter before (c :: cs) = c :: loweredAfter (c :: before) cs := by
  obtain ⟨-, hsigma, -⟩ := plain_of_mem_blankCodes _ (toNat_mem_blankCodes h)
  have hne : c ≠ '\u03a3' := by
    rintro rfl
    exact hsigma rfl
  rw [loweredAfter, if_neg hne, smallForm_of_isBlank h]
  rfl

theorem loweredAfter_blanks_append {blanks : List Char} (h : ∀ c ∈ blanks, isBlank c = true)
    (before cs : List Char) :
    loweredAfter before (blanks ++ cs) = blanks ++ loweredAfter (blanks.reverse ++ before) cs := by
  induction blanks generalizing before with
  | nil => rfl
  | cons c rest ih =>
    obtain ⟨hc, hrest⟩ := List.forall_mem_cons.mp h
    rw [List.cons_append, loweredAfter_blank_cons hc, ih hrest, List.reverse_cons,
      List.append_assoc, List.singleton_append, List.cons_append]

/-- Blanks before all that was read do not change what follows. -/
theorem loweredAfter_after_blanks {blanks : List Char} (h : ∀ c ∈ blanks, isBlank c = true)
    (before cs : List Char) : loweredAfter (before ++ blanks) cs = loweredAfter before cs := by
  induction cs generalizing before with
  | nil => rfl
  | cons c rest ih =>
    have hrest := ih (c :: before)
    rw [List.cons_append] at hrest
    rw [loweredAfter, loweredAfter, reachesLetter_append_blanks h, hrest]

/-- Blanks behind a text do not change its small form. -/
theorem loweredAfter_append_blanks {blanks : List Char} (h : ∀ c ∈ blanks, isBlank c = true)
    (before cs : List Char) :
    loweredAfter before (cs ++ blanks) = loweredAfter before cs ++ blanks := by
  induction cs generalizing before with
  | nil =>
    have hblanks := loweredAfter_blanks_append h before []
    rw [List.append_nil] at hblanks
    rw [List.nil_append, hblanks, loweredAfter, loweredAfter, List.append_nil, List.nil_append]
  | cons c rest ih =>
    rw [List.cons_append, loweredAfter, loweredAfter, reachesLetter_append_blanks h, ih,
      List.append_assoc]

/-- Lowercasing leaves the blanks around a text as they are. -/
theorem loweredAfter_padded {before after : List Char} (hbefore : ∀ c ∈ before, isBlank c = true)
    (hafter : ∀ c ∈ after, isBlank c = true) (cs : List Char) :
    loweredAfter [] (before ++ cs ++ after) = before ++ loweredAfter [] cs ++ after := by
  have hreverse : ∀ c ∈ before.reverse, isBlank c = true := by
    intro c hc
    exact hbefore c (List.mem_reverse.mp hc)
  have hread := loweredAfter_after_blanks hreverse []
  rw [List.nil_append] at hread
  rw [loweredAfter_append_blanks hafter, loweredAfter_blanks_append hbefore, List.append_nil, hread]

theorem exists_lowercase_padding (s : String) :
    ∃ before after : List Char, s.toList = before ++ (trim s).toList ++ after ∧
      (lowercase s).toList = before ++ (lowercase (trim s)).toList ++ after ∧
      (∀ c ∈ before, isBlank c = true) ∧ ∀ c ∈ after, isBlank c = true := by
  obtain ⟨before, after, hpadded, hbefore, hafter⟩ := exists_padding s.toList
  refine ⟨before, after, ?_, ?_, hbefore, hafter⟩
  · rw [toList_trim]
    exact hpadded
  · have hlowered := congrArg (loweredAfter []) hpadded
    rw [loweredAfter_padded hbefore hafter] at hlowered
    rw [toList_lowercase, toList_lowercase, toList_trim]
    exact hlowered

/-- The small form of a text is that of the trimmed text only if there was nothing to trim. -/
theorem trim_eq_of_lowercase_eq {s : String} (h : lowercase s = lowercase (trim s)) :
    trim s = s := by
  obtain ⟨before, after, hpadded, hlowered, -, -⟩ := exists_lowercase_padding s
  rw [h] at hlowered
  have hlength := congrArg List.length hlowered
  rw [List.length_append, List.length_append] at hlength
  have hbefore : before = [] := List.length_eq_zero_iff.mp (by omega)
  have hafter : after = [] := List.length_eq_zero_iff.mp (by omega)
  rw [hbefore, hafter, List.nil_append, List.append_nil] at hpadded
  exact String.toList_inj.mp hpadded.symm

/-- A text that can be trimmed keeps a blank in lowercase. -/
theorem exists_blank_mem_lowercase {s : String} (h : trim s ≠ s) :
    ∃ c ∈ (lowercase s).toList, isBlank c = true := by
  obtain ⟨before, after, hpadded, hlowered, hbefore, hafter⟩ := exists_lowercase_padding s
  have hsome : before ++ after ≠ [] := by
    intro hnone
    obtain ⟨rfl, rfl⟩ := List.append_eq_nil_iff.mp hnone
    rw [List.nil_append, List.append_nil] at hpadded
    exact h (String.toList_inj.mp hpadded.symm)
  obtain ⟨c, hc⟩ := List.exists_mem_of_ne_nil _ hsome
  rw [hlowered]
  rcases List.mem_append.mp hc with hc | hc
  · exact ⟨c, by simp [hc], hbefore c hc⟩
  · exact ⟨c, by simp [hc], hafter c hc⟩

end Text

/-! ## Header names with blanks -/

/-- A header whose name has a blank in it is not among those that are looked up. -/
theorem isAllowedHeader_of_blank {name : String} {c : Char} (hc : c ∈ name.toList)
    (hblank : Text.isBlank c = true) : isAllowedHeader name = true := by
  rw [isAllowedHeader, Bool.not_eq_true', ← Bool.not_eq_true, List.contains_iff_mem]
  intro hforbidden
  rw [(plain_of_mem_forbiddenHeaders hforbidden c hc).2] at hblank
  cases hblank

/-- A blank anywhere in a value is a blank in the header name. -/
theorem HeaderTarget.isAllowedHeader_of_blank {value : String} {c : Char} (hc : c ∈ value.toList)
    (hblank : Text.isBlank c = true) : isAllowedHeader (HeaderTarget.ofValue value).name = true := by
  have hplain : ("request:".toList.all fun d => !Text.isBlank d) = true := by
    decide +kernel
  have hstart : ∀ d ∈ "request:".toList, Text.isBlank d = false := by
    intro d hd
    simpa using List.all_eq_true.mp hplain d hd
  unfold HeaderTarget.ofValue
  split
  · next name hname =>
    rw [Text.after?_eq_some_iff.mp hname] at hc
    rcases List.mem_append.mp hc with hc | hc
    · rw [hstart c hc] at hblank
      cases hblank
    · have hmem : c ∈ (String.ofList name).toList := by
        rw [String.toList_ofList]
        exact hc
      exact Blocklist.isAllowedHeader_of_blank hmem hblank
  · exact Blocklist.isAllowedHeader_of_blank hc hblank

/-! ## Modifiers -/

namespace Modifier

/-- All modifiers but header removals are made of the trimmed value. -/
theorem make_trim {kind : ModifierKind} (h : kind ≠ .removeHeader) (value : String)
    (allowlist : Bool) : make kind (Text.trim value) allowlist = make kind value allowlist := by
  cases kind with
  | csp => simp only [make, Text.trim_trim]
  | removeParam => simp only [make, Text.trim_trim]
  | redirect => simp only [make, Text.trim_trim]
  | removeHeader => exact absurd rfl h

/-- Header removals tell the small forms of their values apart. -/
theorem lowercase_eq_of_make {value other : String} {allowlist : Bool}
    (h : make .removeHeader value allowlist = make .removeHeader other allowlist) :
    Text.lowercase value = Text.lowercase other := by
  unfold make at h
  dsimp only at h
  split at h
  · next hempty =>
    split at h
    · next hother =>
      have hvalue : Text.lowercase value = "" := by simpa using (Bool.and_eq_true_iff.mp hempty).2
      have hnone : Text.lowercase other = "" := by simpa using (Bool.and_eq_true_iff.mp hother).2
      rw [hvalue, hnone]
    · cases h
  · split at h
    · cases h
    · exact Modifier.removeHeader.inj (Except.ok.inj h)

theorem make_trim_iff {kind : ModifierKind} {value : String} (allowlist : Bool) :
    make kind value allowlist = make kind (Text.trim value) allowlist ↔
      (kind = .removeHeader → Text.trim value = value) := by
  constructor
  · rintro h rfl
    exact Text.trim_eq_of_lowercase_eq (lowercase_eq_of_make h)
  · intro h
    by_cases hkind : kind = .removeHeader
    · rw [h hkind]
    · exact (make_trim hkind value allowlist).symm

/-- A value that can be trimmed is not empty, and it makes a header removal that passes the check
for forbidden headers. -/
theorem removeHeader_of_blank {value : String} (h : Text.trim value ≠ value) (allowlist : Bool) :
    make .removeHeader value allowlist = .ok (.removeHeader (Text.lowercase value)) ∧
      isAllowedHeader (HeaderTarget.ofValue (Text.lowercase value)).name = true := by
  obtain ⟨c, hc, hblank⟩ := Text.exists_blank_mem_lowercase h
  have hne : Text.lowercase value ≠ "" := by
    intro hnone
    rw [hnone] at hc
    cases hc
  refine ⟨?_, HeaderTarget.isAllowedHeader_of_blank hc hblank⟩
  unfold make
  dsimp only
  rw [if_neg]
  simp [hne]

theorem parse_of_kind {name : String} {kind : ModifierKind}
    (h : ModifierKind.ofName? name = some kind) (value : String) (allowlist : Bool) :
    parse name value allowlist = (make kind value allowlist).map some := by
  unfold parse
  rw [h]

end Modifier

/-- Among the kinds of modifiers, header removals are known by their name. -/
theorem ModifierKind.eq_removeHeader_iff {name : String} {kind : ModifierKind}
    (h : ofName? name = some kind) : kind = .removeHeader ↔ name = "removeheader" := by
  constructor
  · rintro rfl
    exact (name_eq_of_ofName? h).symm
  · rintro rfl
    exact (Option.some.inj h).symm

theorem Modifier.parse_eq_trim_iff {name value : String} {allowlist : Bool} :
    parse name value allowlist = parse name (Text.trim value) allowlist ↔
      (name = "removeheader" → Text.trim value = value) := by
  cases hkind : ModifierKind.ofName? name with
  | none =>
    have hother : name ≠ "removeheader" := by
      rintro rfl
      cases hkind
    have hparse : ∀ v, parse name v allowlist = .ok none := by
      intro v
      unfold parse
      rw [hkind]
    rw [hparse, hparse]
    exact iff_of_true rfl fun hname => absurd hname hother
  | some kind =>
    rw [parse_of_kind hkind, parse_of_kind hkind, ← ModifierKind.eq_removeHeader_iff hkind,
      ← make_trim_iff allowlist]
    constructor
    · exact eq_of_map_eq fun a b => Option.some.inj
    · intro h
      rw [h]

/-! ## Rules -/

namespace Rule

variable {rule made twin : Rule} {name value : String} {kind : ModifierKind}

/-- A modifier is made of the value and put where there was none. -/
theorem withOption_of_kind_eq_ok_iff (h : ModifierKind.ofName? (optionName name) = some kind) :
    rule.withOption name value = .ok made ↔
      ∃ m, Modifier.make kind value rule.allowlist = .ok m ∧ rule.modifier = none ∧
        { rule with modifier := some m } = made := by
  rw [withOption_eq_ok_iff, Setting.parse_of_kind h]
  constructor
  · rintro ⟨setting, hsetting, hmade⟩
    obtain ⟨m, hm, rfl⟩ := exists_ok_of_map hsetting
    exact ⟨m, hm, withModifier_eq_ok_iff.mp hmade⟩
  · rintro ⟨m, hm, hmade⟩
    refine ⟨.modifier m, ?_, withModifier_eq_ok_iff.mpr hmade⟩
    rw [hm]
    rfl

/-- A badfilter rule whose modifier is written without the blanks negates the rule that has them,
except where they belong to the name of a header. -/
theorem negates_trimmed_iff (hplain : rule.isBadfilter = false) (hname : NamesModifier name)
    (hmade : rule.withOption name value = .ok made)
    (htwin : rule.asBadfilter.withOption name (Text.trim value) = .ok twin) :
    twin.negates made = true ↔ (optionName name = "removeheader" → Text.trim value = value) := by
  obtain ⟨kind, hkind⟩ := exists_kind_of_namesModifier hname
  obtain ⟨m, hm, -, rfl⟩ := (withOption_of_kind_eq_ok_iff hkind).mp hmade
  obtain ⟨m', hm', -, rfl⟩ := (withOption_of_kind_eq_ok_iff hkind).mp htwin
  have hsame : rule.twin = rule := (Alike.refl rule).twin_eq hplain
  have htrimmed : ({ rule.asBadfilter with modifier := some m' } : Rule).twin =
      { rule.twin with modifier := some m' } := rfl
  rw [negates_iff, htrimmed, hsame, ← ModifierKind.eq_removeHeader_iff hkind,
    ← Modifier.make_trim_iff rule.allowlist, hm]
  have hmake : Modifier.make kind (Text.trim value) rule.allowlist = .ok m' := hm'
  rw [hmake]
  constructor
  · rintro ⟨-, heq⟩
    have hmodifier : some m' = some m := congrArg Rule.modifier heq
    rw [Option.some.inj hmodifier]
  · intro heq
    rw [Except.ok.inj heq]
    exact ⟨rfl, rfl⟩

end Rule

/-- A modifier's value and the trimmed value are read alike, unless the value is that of a header
removal and has blanks to trim. Then it is never refused, not even for naming a forbidden header.
Nor does it matter to a badfilter rule how the value of the other rule is spaced, apart from the
same exception. -/
theorem parse_trim_iff (name value : String) (allowlist : Bool) :
    (Modifier.parse name value allowlist = Modifier.parse name (Text.trim value) allowlist ↔
      (name = "removeheader" → Text.trim value = value)) ∧
    (name = "removeheader" → Text.trim value ≠ value →
      Modifier.parse name value allowlist = .ok (some (.removeHeader (Text.lowercase value))) ∧
        isAllowedHeader (HeaderTarget.ofValue (Text.lowercase value)).name = true) ∧
    ∀ rule made twin : Rule, rule.isBadfilter = false → NamesModifier name →
      rule.withOption name value = .ok made →
      rule.asBadfilter.withOption name (Text.trim value) = .ok twin →
      (twin.negates made = true ↔ (optionName name = "removeheader" → Text.trim value = value)) := by
  refine ⟨Modifier.parse_eq_trim_iff, ?_, ?_⟩
  · rintro rfl hblank
    obtain ⟨hmake, hallowed⟩ := Modifier.removeHeader_of_blank hblank allowlist
    have hkind : ModifierKind.ofName? "removeheader" = some .removeHeader := rfl
    rw [Modifier.parse_of_kind hkind, hmake]
    exact ⟨rfl, hallowed⟩
  · intro rule made twin hplain hname hmade htwin
    exact Rule.negates_trimmed_iff hplain hname hmade htwin

/-- A rule with nothing but a modifier. -/
def sampleModified (m : Modifier) : Rule where
  pattern := "||a.example^"
  allowlist := false
  modifier := some m

/-- Blanks around a policy do not matter. Around the name of a header they do: the badfilter rule
without them negates the rule in one case and not in the other. -/
theorem parse_trim_iff_sample :
    Modifier.parse "csp" " sandbox\u3000" false =
      Modifier.parse "csp" (Text.trim " sandbox\u3000") false ∧
    (Modifier.parse "removeheader" " DNT" false =
        .ok (some (.removeHeader (Text.lowercase " DNT"))) ∧
      isAllowedHeader (HeaderTarget.ofValue (Text.lowercase " DNT")).name = true) ∧
    (sampleModified (.csp "sandbox")).asBadfilter.negates (sampleModified (.csp "sandbox")) = true ∧
    (sampleModified (.removeHeader "dnt")).asBadfilter.negates
      (sampleModified (.removeHeader " dnt")) = false := by
  obtain ⟨hcsp, -, hpolicies⟩ := parse_trim_iff "csp" " sandbox\u3000" false
  obtain ⟨-, hheader, hheaders⟩ := parse_trim_iff "removeheader" " DNT" false
  have hblank : Text.trim " DNT" ≠ " DNT" := by
    decide +kernel
  have hplain : (Rule.bare "||a.example^" false).isBadfilter = false := rfl
  have hpolicy := hpolicies (Rule.bare "||a.example^" false) (sampleModified (.csp "sandbox"))
    (sampleModified (.csp "sandbox")).asBadfilter hplain (by decide +kernel) (by decide +kernel)
    (by decide +kernel)
  have hremoval := hheaders (Rule.bare "||a.example^" false) (sampleModified (.removeHeader " dnt"))
    (sampleModified (.removeHeader "dnt")).asBadfilter hplain (by decide +kernel)
    (by decide +kernel) (by decide +kernel)
  refine ⟨hcsp.mpr fun hname => ?_, hheader rfl hblank, hpolicy.mpr fun hname => ?_, ?_⟩
  · exact absurd hname (by decide)
  · exact absurd hname (by decide +kernel)
  · rw [← Bool.not_eq_true, hremoval]
    intro hnone
    exact hblank (hnone (by decide +kernel))

/-- With a blank in front, a header that no rule may remove is removed, and an empty value is
taken. -/
theorem parse_ne_of_blank :
    Modifier.parse "removeheader" " x-frame-options" false ≠
      Modifier.parse "removeheader" (Text.trim " x-frame-options") false ∧
    (HeaderTarget.ofValue " x-frame-options").isValid = true ∧
    (HeaderTarget.ofValue (Text.trim " x-frame-options")).isValid = false ∧
    Modifier.parse "removeheader" " " false = .ok (some (.removeHeader " ")) ∧
    Modifier.parse "removeheader" (Text.trim " ") false =
      .error (.emptyModifierValue .removeHeader) := by
  decide +kernel

end Blocklist
