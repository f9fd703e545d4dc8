import Mathlib.Data.List.Basic
import Blocklist.Proofs.Erasure
import Blocklist.Proofs.Limits
import Blocklist.Proofs.Numbering

/-! # Limits on numbered drafts

The limits take rules, entries and errors apart by their ids. Since the ids of numbered drafts are
strictly increasing, this amounts to dropping some of the drafts with all that belongs to them.

* `entriesOf_number`, `errorsOf_number`: by its id, a draft finds just what it was numbered with;
* `exists_kept`: the result is made of the drafts that are kept;
* `Limits.indices_enforce_perm`: sources of cut drafts are reported by the limitations.
-/

namespace Blocklist

open Numbered

variable {next : Nat} {outcomes : List (UInt32 × Outcome)}

/-- If no two parts have the same id, looking for the id of a part finds this part only. -/
theorem filter_flatMap_of_id {α β : Type} {id : β → UInt32} {parts : List β} {part : β}
    {f : β → List α} {test : α → Bool} (distinct : parts.Pairwise fun p q => id p ≠ id q)
    (hpart : part ∈ parts) (htest : ∀ p, ∀ x ∈ f p, test x = decide (id p = id part)) :
    (parts.flatMap f).filter test = f part := by
  have hkeep : (f part).filter test = f part := by
    rw [List.filter_eq_self]
    intro x hx
    rw [htest part x hx, decide_eq_true_iff]
  have hdrop : ∀ p, id p ≠ id part → (f p).filter test = [] := by
    intro p hne
    rw [List.filter_eq_nil_iff]
    intro x hx
    rw [htest p x hx, decide_eq_true_iff]
    exact hne
  -- What is looked for is the first part or behind it, and all other parts have other ids.
  induction parts with
  | nil => cases hpart
  | cons p rest ih =>
    obtain ⟨hlater, hrest⟩ := List.pairwise_cons.mp distinct
    rw [List.flatMap_cons, List.filter_append]
    rcases List.mem_cons.mp hpart with rfl | hmem
    · have hothers : (rest.flatMap f).filter test = [] := by
        rw [List.filter_flatMap, List.flatMap_eq_nil_iff]
        intro q hq
        exact hdrop q (hlater q hq).symm
      rw [hkeep, hothers, List.append_nil]
    · rw [hdrop p (hlater part hmem), List.nil_append, ih hrest hmem]

section Numbered

variable (h : next + draftCount (outcomes.map Prod.snd) ≤ UInt32.size)
include h

theorem numberedFrom_distinct :
    (numberedFrom next outcomes).Pairwise fun a b => a.id ≠ b.id :=
  (numberedFrom_pairwise h).imp UInt32.ne_of_lt

theorem nodup_ids_number :
    ((Converted.number next outcomes).rules.map Declarative.Rule.id).Nodup := by
  rw [rules_number, List.map_map]
  exact List.pairwise_map.mpr (numberedFrom_distinct h)

theorem entriesOf_number {part : Numbered} (hpart : part ∈ numberedFrom next outcomes) :
    (Converted.number next outcomes).entriesOf part.rule = part.entries := by
  unfold Converted.entriesOf
  rw [sourceMap_number]
  refine filter_flatMap_of_id (numberedFrom_distinct h) hpart fun p source hsource => ?_
  rw [declarativeId_of_mem_entries hsource]
  rfl

theorem errorsOf_number {part : Numbered} (hpart : part ∈ numberedFrom next outcomes) :
    (Converted.number next outcomes).errorsOf part.rule = part.errors := by
  -- Only tied errors can be errors of a rule, and those are the errors of the drafts.
  have htied : (Converted.number next outcomes).errorsOf part.rule =
      ((numberedFrom next outcomes).flatMap Numbered.errors).filter
        (·.declarativeId? = some part.id) := by
    rw [← tiedErrors_number, List.filter_filter]
    refine List.filter_congr fun e _ => ?_
    show decide (e.declarativeId? = some part.id) = _
    cases e.declarativeId? <;> simp
  rw [htied]
  refine filter_flatMap_of_id (numberedFrom_distinct h) hpart fun p e he => ?_
  rw [declarativeId?_of_mem_errors he]
  exact decide_eq_decide.mpr Option.some_inj

/-- What numbered drafts become under some limits is made of those drafts that are kept. -/
theorem exists_kept (limits : Limits) :
    ∃ kept : List Numbered, kept.Sublist (numberedFrom next outcomes) ∧
      (limits.enforce (.number next outcomes)).rules = kept.map Numbered.rule ∧
      (limits.enforce (.number next outcomes)).sourceMap = kept.flatMap Numbered.entries ∧
      (limits.enforce (.number next outcomes)).errors =
        kept.flatMap Numbered.errors ++ outcomes.filterMap rejection? := by
  have hretained := Limits.retained_sublist limits (Converted.number next outcomes).rules
  conv at hretained => rhs; rw [rules_number]
  obtain ⟨kept, hsub, hrules⟩ := List.sublist_map_iff.mp hretained
  rw [Limits.enforce_eq limits _ (nodup_ids_number h)]
  refine ⟨kept, hsub, hrules, ?_, ?_⟩
  · show (limits.retained _).flatMap _ = _
    rw [hrules, List.flatMap_map]
    exact List.flatMap_congr fun part hpart => entriesOf_number h (hsub.subset hpart)
  · show (limits.retained _).flatMap _ ++ _ = _
    rw [hrules, List.flatMap_map, Converted.untiedErrors, untiedErrors_number]
    congr 1
    exact List.flatMap_congr fun part hpart => errorsOf_number h (hsub.subset hpart)

omit h in
/-- Rejections are reported without a declarative rule. -/
theorem declarativeId?_of_mem_rejections {e : ConversionError}
    (he : e ∈ outcomes.filterMap rejection?) : e.declarativeId? = none := by
  obtain ⟨⟨filterId, outcome⟩, -, hreport⟩ := List.mem_filterMap.mp he
  cases outcome with
  | reject index reason =>
    cases hreport
    rfl
  | emit draft => cases hreport

/-- The limits leave the reports on rejections alone. -/
theorem untied_enforce_number (limits : Limits) :
    (limits.enforce (.number next outcomes)).errors.filter (·.declarativeId? = none) =
      outcomes.filterMap rejection? := by
  obtain ⟨kept, -, -, -, herrors⟩ := exists_kept h limits
  have htied : (kept.flatMap Numbered.errors).filter (·.declarativeId? = none) = [] := by
    rw [List.filter_eq_nil_iff]
    intro e he
    obtain ⟨part, -, hpart⟩ := List.mem_flatMap.mp he
    rw [declarativeId?_of_mem_errors hpart]
    simp
  have huntied : (outcomes.filterMap rejection?).filter (·.declarativeId? = none) =
      outcomes.filterMap rejection? := by
    rw [List.filter_eq_self]
    intro e he
    rw [declarativeId?_of_mem_rejections he]
    rfl
  rw [herrors, List.filter_append, htied, huntied, List.nil_append]

/-- Rule by rule, the source map is complete. -/
theorem flatMap_entriesOf_number :
    (Converted.number next outcomes).rules.flatMap (Converted.number next outcomes).entriesOf =
      (Converted.number next outcomes).sourceMap := by
  conv_lhs => rw [rules_number, List.flatMap_map]
  rw [sourceMap_number]
  exact List.flatMap_congr fun part hpart => entriesOf_number h hpart

end Numbered

/-! ## Conservation under the limits -/

namespace Limits

theorem excess_eq_nil_iff (limits : Limits) (rules : List Declarative.Rule) :
    limits.excess rules = [] ↔ fits limits.rules rules.length = true := by
  rcases hlimit : limits.rules with _ | _ | n
  · simp [excess, isWithin, hlimit, select_false]
  · simp [excess, isWithin, hlimit, select_false]
  · have hlength := length_excess hlimit rules
    rw [← List.length_eq_zero_iff, hlength, fits_succ, decide_eq_true_iff]
    omega

theorem excessRegexps_eq_nil_iff (limits : Limits) (rules : List Declarative.Rule) :
    limits.excessRegexps rules = [] ↔
      fits limits.regexpRules
        ((select (fun i _ => limits.isWithin i) rules).countP Declarative.Rule.isRegex) = true := by
  rcases hlimit : limits.regexpRules with _ | _ | n
  · simp [excessRegexps, isExcessRegexp, hlimit, select_false]
  · simp [excessRegexps, isExcessRegexp, hlimit, select_false]
  · have hlength := length_excessRegexps hlimit rules
    rw [← List.length_eq_zero_iff, hlength, fits_succ, decide_eq_true_iff]
    omega

theorem report_of_fits {limit : Option Nat} {count : Nat} (h : fits limit count = true)
    (kind : LimitKind) (excluded : List UInt32) : report kind limit count excluded = [] := by
  cases limit with
  | none => rfl
  | some n => exact if_pos h

/-- A limitation names all that was cut, and without a limitation nothing was cut. -/
theorem excluded_report {limit : Option Nat} {count : Nat} {excluded : List UInt32}
    (h : fits limit count = true → excluded = []) (kind : LimitKind) :
    (report kind limit count excluded).flatMap Limitation.excluded = excluded := by
  by_cases hfits : fits limit count = true
  · rw [report_of_fits hfits, h hfits]
    rfl
  · cases limit with
    | none => exact absurd rfl hfits
    | some n =>
      unfold report
      dsimp only
      rw [if_neg hfits, List.flatMap_singleton]

variable {converted : Converted}

/-- Sources of rules that stay are in the source map, those of rules that are cut are reported. -/
theorem indices_enforce_perm (limits : Limits)
    (distinct : (converted.rules.map Declarative.Rule.id).Nodup)
    (complete : converted.rules.flatMap converted.entriesOf = converted.sourceMap) :
    ((limits.enforce converted).sourceMap.map Source.ruleIndex ++
      (limits.enforce converted).limitations.flatMap Limitation.excluded).Perm
      (converted.sourceMap.map Source.ruleIndex) := by
  have hmap : ∀ rules : List Declarative.Rule,
      (rules.flatMap converted.entriesOf).map Source.ruleIndex = converted.indicesOf rules := by
    intro rules
    rw [List.map_flatMap]
    rfl
  have hexcess : ∀ kind, (report kind limits.rules converted.rules.length
      (converted.indicesOf (limits.excess converted.rules))).flatMap Limitation.excluded =
        converted.indicesOf (limits.excess converted.rules) := by
    refine excluded_report fun hfits => ?_
    rw [(excess_eq_nil_iff limits converted.rules).mpr hfits]
    rfl
  have hregexps : ∀ kind, (report kind limits.regexpRules
      ((select (fun i _ => limits.isWithin i) converted.rules).countP Declarative.Rule.isRegex)
      (converted.indicesOf (limits.excessRegexps converted.rules))).flatMap Limitation.excluded =
        converted.indicesOf (limits.excessRegexps converted.rules) := by
    refine excluded_report fun hfits => ?_
    rw [(excessRegexps_eq_nil_iff limits converted.rules).mpr hfits]
    rfl
  -- All four lists are now made of entries of rules, and every rule is kept or cut once.
  rw [enforce_eq limits converted distinct, ← complete]
  dsimp only
  rw [hmap, hmap, List.flatMap_append, hexcess, hregexps]
  have hall := (retained_append_perm limits converted.rules).flatMap_right
    fun rule => (converted.entriesOf rule).map Source.ruleIndex
  rw [List.flatMap_append, List.flatMap_append] at hall
  exact (List.perm_append_comm.append_left _).trans hall

/-- If as many rules stay as there are, then the limits change and report nothing. -/
theorem enforce_untrimmed {limits : Limits}
    (distinct : (converted.rules.map Declarative.Rule.id).Nodup)
    (complete : converted.rules.flatMap converted.entriesOf = converted.sourceMap)
    (untrimmed : (limits.enforce converted).rules.length = converted.rules.length) :
    (limits.enforce converted).rules = converted.rules ∧
      (limits.enforce converted).sourceMap = converted.sourceMap ∧
      (limits.enforce converted).limitations = [] := by
  rw [enforce_eq limits converted distinct] at untrimmed ⊢
  dsimp only at untrimmed ⊢
  have hall : limits.retained converted.rules = converted.rules :=
    (retained_sublist limits converted.rules).eq_of_length untrimmed
  have hcuts := (retained_append_perm limits converted.rules).length_eq
  rw [List.length_append, List.length_append, hall] at hcuts
  have hexcess : limits.excess converted.rules = [] := List.length_eq_zero_iff.mp (by omega)
  have hregexps : limits.excessRegexps converted.rules = [] :=
    List.length_eq_zero_iff.mp (by omega)
  have hfits := (excess_eq_nil_iff limits converted.rules).mp hexcess
  have hfitsRegexps := (excessRegexps_eq_nil_iff limits converted.rules).mp hregexps
  refine ⟨hall, ?_, ?_⟩
  · rw [hall, complete]
  · rw [report_of_fits hfits, report_of_fits hfitsRegexps, List.append_nil]

end Limits

/-- The limits let through all declarative rules that were made. -/
def Run.Untrimmed (run : Run) : Prop :=
  run.result.rules.length = draftCount ((run.filters.flatMap FilterSections.outcomes).map Prod.snd)

theorem Options.untrimmed_runOn_iff {options : Options} {filters : List Filter} :
    (options.runOn filters).Untrimmed ↔
      (options.runOn filters).result.rules.length =
        (Converted.number firstId.toNat
          (options.outcomes (Badfilter.erase filters))).rules.length := by
  rw [rules_number, List.length_map, length_numberedFrom]
  rfl

end Blocklist
