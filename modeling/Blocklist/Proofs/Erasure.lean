import Mathlib.Data.List.Basic
import Mathlib.Data.List.Perm.Basic
import Blocklist.Batch
import Blocklist.Proofs.Grouping

/-! # Badfilter rules as erasure

What badfilter rules do to a batch can be done before the rules are grouped: `erase` drops the
badfilter rules and the rules that one of them negates, and leaves everything else where it is.

* `resolve_ofFilter`: resolving the groups of a batch gives the groups of the erased batch;
* `erase_eq_of_inserted`: it does not matter where a badfilter rule stands, nor how often;
* `convert_eq`: a conversion only sees the erased batch.
-/

namespace Blocklist

namespace Badfilter

/-- The badfilter rules of a batch, in order. -/
def negators (filters : List Filter) : List Rule :=
  filters.flatMap fun filter => (filter.rules.map SourceRule.rule).filter Rule.isBadfilter

/-- The rule is a badfilter rule or is negated by one of the given rules. -/
def isErased (negators : List Rule) (rule : Rule) : Bool :=
  rule.isBadfilter || negatedBy negators rule

/-- A batch without its badfilter rules and without the rules that the given rules negate. -/
def eraseBy (negators : List Rule) (filters : List Filter) : List Filter :=
  filters.map fun filter =>
    { filter with rules := filter.rules.filter fun r => !isErased negators r.rule }

/-- A batch without its badfilter rules and without the rules that any of them negates. All filters
stay, even those that become empty, and the order stays too. -/
def erase (filters : List Filter) : List Filter :=
  eraseBy (negators filters) filters

/-- The second batch is the first one with a rule put somewhere into one of its filters. -/
inductive Inserted (r : SourceRule) : List Filter → List Filter → Prop where
  | here (id : UInt32) (before after : List SourceRule) (rest : List Filter) :
      Inserted r (⟨id, before ++ after⟩ :: rest) (⟨id, before ++ r :: after⟩ :: rest)
  | later (filter : Filter) {rest rest' : List Filter} :
      Inserted r rest rest' → Inserted r (filter :: rest) (filter :: rest')

variable {filters : List Filter}

theorem mem_negators {rule : Rule} :
    rule ∈ negators filters ↔
      ∃ filter ∈ filters, ∃ r ∈ filter.rules, r.rule = rule ∧ rule.isBadfilter = true := by
  simp only [negators, List.mem_flatMap, List.mem_filter, List.mem_map]
  constructor
  · rintro ⟨filter, hfilter, ⟨r, hr, rfl⟩, hbad⟩
    exact ⟨filter, hfilter, r, hr, rfl, hbad⟩
  · rintro ⟨filter, hfilter, r, hr, rfl, hbad⟩
    exact ⟨filter, hfilter, ⟨r, hr, rfl⟩, hbad⟩

/-! ## Erased batches -/

theorem isBadfilter_eraseBy (bad : List Rule) (filters : List Filter) :
    ∀ filter ∈ eraseBy bad filters, ∀ r ∈ filter.rules, r.rule.isBadfilter = false := by
  intro filter hfilter r hr
  obtain ⟨original, -, rfl⟩ := List.mem_map.mp hfilter
  have hkept := (List.mem_filter.mp hr).2
  rw [isErased, Bool.not_eq_true', Bool.or_eq_false_iff] at hkept
  exact hkept.1

/-- A batch without badfilter rules is left as it is. -/
theorem erase_eq_self (h : ∀ filter ∈ filters, ∀ r ∈ filter.rules, r.rule.isBadfilter = false) :
    erase filters = filters := by
  have hnone : negators filters = [] := by
    rw [List.eq_nil_iff_forall_not_mem]
    intro rule hrule
    obtain ⟨filter, hfilter, r, hr, rfl, hbad⟩ := mem_negators.mp hrule
    rw [h filter hfilter r hr] at hbad
    exact Bool.noConfusion hbad
  have hkept : ∀ filter ∈ filters,
      { filter with rules := filter.rules.filter fun r => !isErased [] r.rule } = filter := by
    intro filter hfilter
    have hrules : filter.rules.filter (fun r => !isErased [] r.rule) = filter.rules := by
      rw [List.filter_eq_self]
      intro r hr
      simp [isErased, negatedBy, h filter hfilter r hr]
    rw [hrules]
  conv_lhs => rw [erase, hnone, eraseBy]
  rw [List.map_congr_left hkept, List.map_id']

/-- Nothing is left to erase in an erased batch. -/
@[simp] theorem erase_erase (filters : List Filter) : erase (erase filters) = erase filters :=
  erase_eq_self (isBadfilter_eraseBy (negators filters) filters)

/-- Only which rules are negated matters to an erasure. -/
theorem eraseBy_congr {bad bad' : List Rule}
    (h : ∀ filter ∈ filters, ∀ r ∈ filter.rules, r.rule.isBadfilter = false →
      negatedBy bad r.rule = negatedBy bad' r.rule) :
    eraseBy bad filters = eraseBy bad' filters := by
  refine List.map_congr_left fun filter hfilter => ?_
  have hrules : filter.rules.filter (fun r => !isErased bad r.rule) =
      filter.rules.filter fun r => !isErased bad' r.rule := by
    refine List.filter_congr fun r hr => ?_
    cases hbad : r.rule.isBadfilter with
    | true => simp [isErased, hbad]
    | false => simp [isErased, hbad, h filter hfilter r hr hbad]
  rw [hrules]

theorem negatedBy_congr {bad bad' : List Rule} (h : ∀ rule, rule ∈ bad ↔ rule ∈ bad')
    (target : Rule) : negatedBy bad target = negatedBy bad' target := by
  rw [negatedBy, negatedBy, Bool.eq_iff_iff, List.any_eq_true, List.any_eq_true]
  constructor
  · rintro ⟨rule, hrule, hnegates⟩
    exact ⟨rule, (h rule).mp hrule, hnegates⟩
  · rintro ⟨rule, hrule, hnegates⟩
    exact ⟨rule, (h rule).mpr hrule, hnegates⟩

/-! ## Badfilter rules at other places -/

namespace Inserted

variable {r : SourceRule} {larger : List Filter}

/-- Wherever a badfilter rule is put, an erasure takes it out again. -/
theorem eraseBy_eq (h : Inserted r filters larger) (hbad : r.rule.isBadfilter = true)
    (bad : List Rule) : eraseBy bad larger = eraseBy bad filters := by
  have herased : isErased bad r.rule = true := by simp [isErased, hbad]
  induction h with
  | here id before after rest => simp [eraseBy, herased]
  | later filter _ ih =>
    rw [eraseBy, eraseBy, List.map_cons, List.map_cons]
    exact congrArg _ ih

/-- Wherever a badfilter rule is put, it is one badfilter rule more. -/
theorem negators_perm (h : Inserted r filters larger) (hbad : r.rule.isBadfilter = true) :
    (negators larger).Perm (r.rule :: negators filters) := by
  induction h with
  | here id before after rest =>
    simp only [negators, List.flatMap_cons, List.map_append, List.map_cons, List.filter_append,
      List.filter_cons_of_pos hbad, List.append_assoc, List.cons_append]
    exact List.perm_middle
  | later filter _ ih =>
    rw [negators, negators, List.flatMap_cons, List.flatMap_cons]
    exact (ih.append_left _).trans List.perm_middle

end Inserted

/-- A badfilter rule may stand in any place of any filter. -/
theorem erase_eq_of_inserted {r s : SourceRule} {larger other : List Filter}
    (hbad : r.rule.isBadfilter = true) (hsame : s.rule = r.rule) (hr : Inserted r filters larger)
    (hs : Inserted s filters other) : erase larger = erase other := by
  have hbad' : s.rule.isBadfilter = true := by rw [hsame, hbad]
  have hperm : (negators larger).Perm (negators other) := by
    have h := hs.negators_perm hbad'
    rw [hsame] at h
    exact (hr.negators_perm hbad).trans h.symm
  calc erase larger = eraseBy (negators larger) filters := hr.eraseBy_eq hbad _
    _ = eraseBy (negators other) filters :=
      eraseBy_congr fun _ _ r _ _ => negatedBy_congr (fun _ => hperm.mem_iff) r.rule
    _ = erase other := (hs.eraseBy_eq hbad' _).symm

/-- A badfilter rule makes no difference if it repeats another one or negates nothing. -/
theorem erase_eq_of_idle {r : SourceRule} {larger : List Filter}
    (hbad : r.rule.isBadfilter = true) (hr : Inserted r filters larger)
    (hidle : r.rule ∈ negators filters ∨
      ∀ filter ∈ filters, ∀ target ∈ filter.rules, r.rule.negates target.rule = false) :
    erase larger = erase filters := by
  rw [erase, hr.eraseBy_eq hbad, erase]
  refine eraseBy_congr fun filter hfilter target htarget _ => ?_
  have hperm := hr.negators_perm hbad
  rcases hidle with hrepeated | hnothing
  · -- There are the same badfilter rules as before, though one of them is there once more.
    refine negatedBy_congr (fun rule => ?_) target.rule
    rw [hperm.mem_iff, List.mem_cons]
    exact ⟨fun h => h.elim (fun heq => heq ▸ hrepeated) id, Or.inr⟩
  · -- There is one badfilter rule more, and it has no say on the rules of the batch.
    calc negatedBy (negators larger) target.rule
        = negatedBy (r.rule :: negators filters) target.rule :=
          negatedBy_congr (fun _ => hperm.mem_iff) target.rule
      _ = negatedBy (negators filters) target.rule := by
          rw [negatedBy, List.any_cons, hnothing filter hfilter target htarget, Bool.false_or]
          rfl

/-! ## Resolution -/

theorem rulesOf_ofFilter (filters : List Filter) :
    rulesOf (filters.map GroupedFilter.ofFilter) = negators filters := by
  rw [rulesOf, negators, List.flatMap_map]
  refine List.flatMap_congr fun filter _ => ?_
  rw [GroupedFilter.ofFilter, GroupedRules.get_ofRules, List.filter_map]
  simp [Group.of_eq_badFilter_iff, Function.comp_def]

/-- A filter without its badfilter group is grouped from the rules that are no badfilter rules. -/
theorem withoutBadfilters_ofFilter (filter : Filter) :
    withoutBadfilters (.ofFilter filter) =
      .ofFilter { filter with rules := filter.rules.filter fun r => !r.rule.isBadfilter } := by
  rw [withoutBadfilters, GroupedFilter.ofFilter, GroupedFilter.ofFilter,
    GroupedRules.take_badFilter_snd]

theorem withoutNegated_ofFilter (bad : List Rule) (filter : Filter) :
    withoutNegated bad (.ofFilter filter) =
      .ofFilter { filter with rules := filter.rules.filter fun r => !negatedBy bad r.rule } := by
  rw [withoutNegated, GroupedFilter.ofFilter, GroupedFilter.ofFilter, GroupedRules.ofRules_filter]

/-- What is left of the groups of a batch are the groups of what an erasure leaves of it. -/
theorem resolve_ofFilter (filters : List Filter) :
    (resolve (filters.map .ofFilter)).1 = (erase filters).map .ofFilter := by
  simp only [resolve, rulesOf_ofFilter, erase, eraseBy, List.map_map]
  refine List.map_congr_left fun filter _ => ?_
  simp only [Function.comp_apply, withoutBadfilters_ofFilter, withoutNegated_ofFilter,
    List.filter_filter, isErased, Bool.not_or]
  congr 3
  funext r
  exact Bool.and_comm _ _

/-- The statistics count the rules that an erasure takes out, both kinds with multiplicity. -/
theorem stats_ofFilter (filters : List Filter) :
    (resolve (filters.map .ofFilter)).2 =
      { badfilters := (filters.flatMap Filter.rules).countP fun r => r.rule.isBadfilter
        negated := (filters.flatMap Filter.rules).countP fun r =>
          !r.rule.isBadfilter && negatedBy (negators filters) r.rule } := by
  have hbad : (negators filters).length =
      (filters.flatMap Filter.rules).countP fun r => r.rule.isBadfilter := by
    induction filters with
    | nil => rfl
    | cons filter rest ih =>
      rw [negators, List.flatMap_cons, List.length_append, ← negators, ih, List.flatMap_cons,
        List.countP_append, ← List.countP_eq_length_filter, List.countP_map]
      rfl
  -- The rules are counted group by group, that is, in another order than in the filter.
  have hperm : ((filters.map GroupedFilter.ofFilter).map withoutBadfilters).flatMap
        (fun filter => filter.groups.toList) |>.Perm
      ((filters.flatMap Filter.rules).filter fun r => !r.rule.isBadfilter) := by
    rw [List.map_map, List.flatMap_map, List.filter_flatMap]
    refine List.Perm.flatMap_left _ fun filter _ => ?_
    rw [Function.comp_apply, withoutBadfilters_ofFilter]
    exact GroupedRules.toList_ofRules_perm _
  have hnegated : negatedIn (negators filters)
        ((filters.map GroupedFilter.ofFilter).map withoutBadfilters) =
      (filters.flatMap Filter.rules).countP fun r =>
        !r.rule.isBadfilter && negatedBy (negators filters) r.rule := by
    rw [negatedIn, hperm.countP_eq, List.countP_filter]
    exact congrArg (fun p => List.countP p _) (funext fun r => Bool.and_comm _ _)
  simp only [resolve, rulesOf_ofFilter, hbad, hnegated]

theorem get_badFilter_of_mem_resolve {grouped : List GroupedFilter} {filter : GroupedFilter}
    (h : filter ∈ (resolve grouped).1) : filter.groups.get .badFilter = [] := by
  simp only [resolve, List.map_map] at h
  obtain ⟨original, -, rfl⟩ := List.mem_map.mp h
  simp [withoutNegated, withoutBadfilters, GroupedRules.take]

/-- After a resolution there is nothing to resolve. -/
theorem resolve_resolve (grouped : List GroupedFilter) :
    resolve (resolve grouped).1 = ((resolve grouped).1, ⟨0, 0⟩) := by
  have hbad : rulesOf (resolve grouped).1 = [] := by
    rw [rulesOf, List.flatMap_eq_nil_iff]
    intro filter hfilter
    rw [get_badFilter_of_mem_resolve hfilter, List.map_nil]
  have hsame : ∀ filter ∈ (resolve grouped).1, withoutBadfilters filter = filter := by
    intro filter hfilter
    have hgroups : (filter.groups.take .badFilter).2 = filter.groups := by
      ext1 g
      by_cases hg : g = .badFilter
      · subst hg
        simp [GroupedRules.take, get_badFilter_of_mem_resolve hfilter]
      · simp [GroupedRules.take, hg]
    rw [withoutBadfilters, hgroups]
  have hnone : ∀ filter : GroupedFilter, withoutNegated [] filter = filter := by
    intro filter
    have hgroups : filter.groups.map (·.filter fun r => !negatedBy [] r.rule) = filter.groups := by
      ext1 g
      simp [negatedBy]
    rw [withoutNegated, hgroups]
  have hzero : negatedIn [] (resolve grouped).1 = 0 := by
    rw [negatedIn, List.countP_eq_zero]
    intro r _
    simp [negatedBy]
  generalize (resolve grouped).1 = left at hbad hsame hzero
  have hleft : left.map (withoutNegated []) = left := by
    rw [List.map_congr_left fun filter _ => hnone filter, List.map_id']
  rw [resolve, hbad, List.map_congr_left hsame, List.map_id']
  simp only [hleft, hzero, List.length_nil]

/-! ## Conversions -/

end Badfilter

open Badfilter

/-- The sections of filters that have not been grouped yet. -/
def Options.sections (options : Options) (filters : List Filter) : List FilterSections :=
  filters.map fun filter => .ofFilter options.resourcesPath (.ofFilter filter)

/-- Outcomes of filters that have not been grouped yet, each with the id of its filter. -/
def Options.outcomes (options : Options) (filters : List Filter) : List (UInt32 × Outcome) :=
  (options.sections filters).flatMap FilterSections.outcomes

/-- The record of a conversion of the batch, provided that there are enough ids for it. -/
def Options.runOn (options : Options) (filters : List Filter) : Run where
  badfilters := (resolve (filters.map .ofFilter)).2
  filters := options.sections (erase filters)
  result := options.limits.enforce (.number firstId.toNat (options.outcomes (erase filters)))

/-- What a conversion numbers are the outcomes of the erased batch. -/
theorem convert_eq (options : Options) (filters : List Filter) :
    convert options filters =
      if firstId.toNat + draftCount ((options.outcomes (erase filters)).map Prod.snd) <
          UInt32.size then .ok (options.runOn filters)
      else .error .idsExhausted := by
  have hsections : (resolve (filters.map .ofFilter)).1.map
      (FilterSections.ofFilter options.resourcesPath) = options.sections (erase filters) := by
    rw [resolve_ofFilter, List.map_map]
    rfl
  simp only [convert, hsections, numberFrom, Options.outcomes]
  split
  case isTrue hids => exact (if_pos hids).symm
  case isFalse hids => exact (if_neg hids).symm

/-- A conversion that does not run out of ids gives a result. -/
theorem convert_eq_ok {options : Options} {filters : List Filter}
    (enough : convert options filters ≠ .error .idsExhausted) :
    convert options filters = .ok (options.runOn filters) ∧
      firstId.toNat + draftCount ((options.outcomes (erase filters)).map Prod.snd) ≤
        UInt32.size := by
  rw [convert_eq] at enough ⊢
  by_cases hids : firstId.toNat + draftCount ((options.outcomes (erase filters)).map Prod.snd) <
      UInt32.size
  · exact ⟨if_pos hids, Nat.le_of_lt hids⟩
  · exact absurd (if_neg hids) enough

/-- Two batches that agree when their badfilter rules are resolved have the same result. -/
theorem result_convert_congr (options : Options) {filters other : List Filter}
    (h : erase filters = erase other) :
    (convert options filters).map Run.result = (convert options other).map Run.result := by
  have hresult : (options.runOn filters).result = (options.runOn other).result := by
    unfold Options.runOn
    rw [h]
  rw [convert_eq, convert_eq, h]
  split
  · exact congrArg Except.ok hresult
  · rfl

/-- Badfilter rules are erasure: a batch and what an erasure leaves of it have the same result, so
that it does not matter where a badfilter rule stands, whether it is repeated, or whether it is
there at all if it negates nothing. The statistics count what an erasure takes out, and nothing is
left to resolve after a resolution. -/
theorem badfilters_erase (options : Options) (filters : List Filter) :
    (convert options filters).map Run.result =
      (convert options (erase filters)).map Run.result ∧
    (∀ (r s : SourceRule) (larger other : List Filter),
      r.rule.isBadfilter = true → s.rule = r.rule →
      Inserted r filters larger → Inserted s filters other →
      (convert options larger).map Run.result = (convert options other).map Run.result) ∧
    (∀ (r : SourceRule) (larger : List Filter),
      r.rule.isBadfilter = true → Inserted r filters larger →
      (r.rule ∈ negators filters ∨
        ∀ filter ∈ filters, ∀ target ∈ filter.rules, r.rule.negates target.rule = false) →
      (convert options larger).map Run.result = (convert options filters).map Run.result) ∧
    (resolve (filters.map .ofFilter)).2 =
      { badfilters := (filters.flatMap Filter.rules).countP fun r => r.rule.isBadfilter
        negated := (filters.flatMap Filter.rules).countP fun r =>
          !r.rule.isBadfilter && negatedBy (negators filters) r.rule } ∧
    ∀ grouped : List GroupedFilter,
      (∀ filter ∈ (resolve grouped).1, filter.groups.get .badFilter = []) ∧
      resolve (resolve grouped).1 = ((resolve grouped).1, ⟨0, 0⟩) := by
  refine ⟨?_, ?_, ?_, stats_ofFilter filters, fun grouped => ⟨?_, resolve_resolve grouped⟩⟩
  · have herased : erase filters = erase (erase filters) := (erase_erase filters).symm
    exact result_convert_congr options herased
  · intro r s larger other hbad hsame hr hs
    have hmoved : erase larger = erase other := erase_eq_of_inserted hbad hsame hr hs
    exact result_convert_congr options hmoved
  · intro r larger hbad hr hidle
    have hleft : erase larger = erase filters := erase_eq_of_idle hbad hr hidle
    exact result_convert_congr options hleft
  · intro filter hfilter
    exact get_badFilter_of_mem_resolve hfilter

/-- A blocking rule, or the badfilter rule that negates it. -/
def sampleBlock (index : UInt32) (pattern : String) (badfilter : Bool) : SourceRule where
  index
  rule := { pattern, allowlist := false, flags := { badfilter } }

/-- A rule that adds a policy. -/
def samplePolicy (index : UInt32) (policy : String) : SourceRule where
  index
  rule := { pattern := "||a.example^", allowlist := false, modifier := some (.csp policy) }

/-- Rules of which two are merged and the last one has no declarative rule. -/
def sampleFirst : List SourceRule :=
  [sampleBlock 0 "||ads.example^" false, sampleBlock 1 "/banner/" false, samplePolicy 2 "sandbox",
    samplePolicy 3 "img-src https:", sampleBlock 4 "||*.example^" false]

/-- Rules of which the last one loses a domain. -/
def sampleSecond : List SourceRule :=
  [sampleBlock 1 "||ads.example^" false,
    ⟨2, { pattern := "/popup/", allowlist := false, permittedDomains := ["a.example", "b.*"] }⟩]

/-- Two filters with a rule that the badfilter rule of the second one negates in both. -/
def sampleBatch : List Filter :=
  [⟨7, sampleFirst⟩, ⟨8, sampleBlock 0 "||ads.example^" true :: sampleSecond⟩]

/-- The badfilter rule may stand in the other filter. If it is there already, or if it negates
nothing, it adds nothing. -/
theorem badfilters_erase_sample :
    erase sampleBatch = [⟨7, sampleFirst.tail⟩, ⟨8, sampleSecond.tail⟩] ∧
    (resolve (sampleBatch.map .ofFilter)).2 = ⟨1, 2⟩ ∧
    (convert {} [⟨7, sampleFirst ++ [sampleBlock 5 "||ads.example^" true]⟩, ⟨8, sampleSecond⟩]).map
      Run.result = (convert {} sampleBatch).map Run.result ∧
    (convert {} (⟨7, sampleFirst ++ [sampleBlock 5 "||ads.example^" true]⟩ ::
      sampleBatch.tail)).map Run.result = (convert {} sampleBatch).map Run.result ∧
    (convert {} (⟨7, sampleFirst ++ [sampleBlock 5 "||cdn.example^" true]⟩ ::
      sampleBatch.tail)).map Run.result = (convert {} sampleBatch).map Run.result := by
  refine ⟨by decide, by decide, ?_, ?_, ?_⟩
  · exact (badfilters_erase {} [⟨7, sampleFirst⟩, ⟨8, sampleSecond⟩]).2.1
      (sampleBlock 5 "||ads.example^" true) (sampleBlock 0 "||ads.example^" true) _ _ rfl rfl
      (.here 7 sampleFirst [] [⟨8, sampleSecond⟩])
      (.later ⟨7, sampleFirst⟩ (.here 8 [] sampleSecond []))
  · exact (badfilters_erase {} sampleBatch).2.2.1 (sampleBlock 5 "||ads.example^" true) _ rfl
      (.here 7 sampleFirst [] sampleBatch.tail) (.inl (by decide))
  · exact (badfilters_erase {} sampleBatch).2.2.1 (sampleBlock 5 "||cdn.example^" true) _ rfl
      (.here 7 sampleFirst [] sampleBatch.tail) (.inr (by decide))

end Blocklist
