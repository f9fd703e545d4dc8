import Mathlib.Data.List.Basic
import Blocklist.Proofs.WellFormed

/-! # Which resource types a declarative rule admits

The options of a rule permit some resource types and restrict others. A condition names either what
it is for or what it is not for, and a group may add types of its own.

* `Rule.typeLists_of_permitted`, `Rule.typeLists_of_not_permitted`: the two lists of a condition;
* `Group.admits_finish_iff`: what a condition admits is what the group covers for the rule;
* `Rule.Cancels.verdict`: a rule whose permitted types are all restricted is rejected;
* `Options.unsupported_mem_errors`: a rule that its group rejects is reported.
-/

namespace Blocklist

open Badfilter

/-! ## Rejections -/

theorem Options.mem_outcomes {options : Options} {filters : List Filter} {filter : Filter}
    (hfilter : filter ∈ filters) {group : Group} {outcome : Outcome}
    (h : outcome ∈ group.outcomes options.resourcesPath
      (filter.rules.filter fun r => Group.of r.rule = group)) :
    (filter.id, outcome) ∈ options.outcomes filters := by
  rw [← GroupedRules.get_ofRules] at h
  have hsections : FilterSections.ofFilter options.resourcesPath (.ofFilter filter) ∈
      options.sections filters := List.mem_map_of_mem hfilter
  have hall : group ∈ Group.all := by
    cases group <;> decide
  have hsection := List.mem_map_of_mem (f := fun group => Section.mk group
    ((GroupedRules.ofRules filter.rules).get group).length
    (group.outcomes options.resourcesPath ((GroupedRules.ofRules filter.rules).get group))) hall
  exact List.mem_flatMap.mpr ⟨_, hsections, List.mem_flatMap.mpr
    ⟨_, hsection, List.mem_map_of_mem h⟩⟩

/-- What the group of a rule rejects is reported, with the position of the rule. -/
theorem Options.unsupported_mem_errors {options : Options} {filters : List Filter}
    (hids : firstId.toNat + draftCount ((options.outcomes (erase filters)).map Prod.snd) ≤
      UInt32.size)
    {filter : Filter} (hfilter : filter ∈ erase filters) {r : SourceRule} (hr : r ∈ filter.rules)
    {reason : Rejection}
    (h : (Group.of r.rule).verdict options.resourcesPath r = .error reason) :
    .unsupported filter.id r.index reason.message ∈ (options.runOn filters).result.errors := by
  have hgroup : r ∈ filter.rules.filter fun s => Group.of s.rule = Group.of r.rule :=
    List.mem_filter.mpr ⟨hr, decide_eq_true rfl⟩
  have hreject := Options.mem_outcomes hfilter (Group.reject_mem_outcomes hgroup h)
  have hunsupported : .unsupported filter.id r.index reason.message ∈
      (options.outcomes (erase filters)).filterMap rejection? :=
    List.mem_filterMap.mpr ⟨_, hreject, rfl⟩
  rw [← untied_enforce_number hids options.limits] at hunsupported
  exact List.mem_of_mem_filter hunsupported

/-! ## Type lists -/

namespace Rule

variable {rule : Rule} {condition : Declarative.Condition}

/-- A rule that permits types names those of them that it does not restrict. There are some. -/
theorem typeLists_of_permitted (h : rule.condition = .ok condition)
    (hpermitted : rule.permittedTypes ≠ .empty) :
    condition.resourceTypes = some (rule.permittedTypes \ rule.restrictedTypes).toList ∧
      condition.excludedResourceTypes = none ∧
      ∃ t ∈ rule.permittedTypes, t ∉ rule.restrictedTypes := by
  have hparts := conditions_of_condition_eq_ok h
  have hsome : ¬ rule.permittedTypes.isEmpty = true := by
    rw [TypeSet.isEmpty_iff]
    exact hpermitted
  have htypes := hparts.resourceTypes
  have hexcluded := hparts.excludedResourceTypes
  unfold resourceTypes at htypes
  unfold excludedResourceTypes at hexcluded
  rw [if_neg hsome] at htypes hexcluded
  dsimp only at htypes
  split at htypes
  · cases htypes
  · next hne =>
    refine ⟨(Except.ok.inj htypes).symm, hexcluded.symm, ?_⟩
    obtain ⟨t, ht⟩ := List.exists_mem_of_ne_nil _ hne
    rw [TypeSet.mem_toList, TypeSet.mem_sdiff] at ht
    exact ⟨t, ht⟩

/-- A rule that permits no type names the types that it restricts. -/
theorem typeLists_of_not_permitted (h : rule.condition = .ok condition)
    (hpermitted : rule.permittedTypes = .empty) :
    condition.resourceTypes = none ∧
      condition.excludedResourceTypes = someUnlessEmpty rule.restrictedTypes.toList := by
  have hparts := conditions_of_condition_eq_ok h
  have hnone : rule.permittedTypes.isEmpty = true := TypeSet.isEmpty_iff.mpr hpermitted
  have htypes := hparts.resourceTypes
  have hexcluded := hparts.excludedResourceTypes
  unfold resourceTypes at htypes
  unfold excludedResourceTypes at hexcluded
  rw [if_pos hnone] at htypes hexcluded
  exact ⟨(Except.ok.inj htypes).symm, hexcluded.symm⟩

end Rule

theorem Csp.resourceTypes_documentTypes (condition : Declarative.Condition) :
    (documentTypes condition).resourceTypes =
      some (condition.resourceTypes.getD [.mainFrame, .subFrame]) := by
  unfold documentTypes
  split
  · next hnone => rw [hnone]; rfl
  · next types hsome => rw [hsome]; rfl

theorem Csp.excludedResourceTypes_documentTypes (condition : Declarative.Condition) :
    (documentTypes condition).excludedResourceTypes = condition.excludedResourceTypes := by
  unfold documentTypes
  split <;> rfl

theorem Group.excludedResourceTypes_finish (group : Group) (condition : Declarative.Condition) :
    (group.finish condition).excludedResourceTypes = condition.excludedResourceTypes := by
  cases group with
  | csp => exact Csp.excludedResourceTypes_documentTypes condition
  | regular | removeParam | removeHeader | badFilter => rfl

theorem isSome_someUnlessEmpty_toList {types : TypeSet} :
    (someUnlessEmpty types.toList).isSome = true ↔ types ≠ .empty := by
  rw [Ne, ← TypeSet.toList_eq_nil_iff]
  cases types.toList <;> simp [someUnlessEmpty]

/-- Both lists are there if policies are added for a rule that permits no type but restricts
some. -/
theorem Group.both_typeLists_iff (group : Group) {rule : Rule} {condition : Declarative.Condition}
    (h : rule.condition = .ok condition) :
    ((group.finish condition).resourceTypes.isSome = true ∧
        (group.finish condition).excludedResourceTypes.isSome = true) ↔
      group = .csp ∧ rule.permittedTypes = .empty ∧ rule.restrictedTypes ≠ .empty := by
  rw [group.excludedResourceTypes_finish]
  by_cases hpermitted : rule.permittedTypes = .empty
  · obtain ⟨htypes, hexcluded⟩ := Rule.typeLists_of_not_permitted h hpermitted
    rw [hexcluded, isSome_someUnlessEmpty_toList]
    -- Only policies come with types of their own.
    cases group with
    | csp => simp [Group.finish, Csp.resourceTypes_documentTypes, hpermitted]
    | regular | removeParam | removeHeader | badFilter => simp [Group.finish, htypes]
  · obtain ⟨-, hexcluded, -⟩ := Rule.typeLists_of_permitted h hpermitted
    simp [hexcluded, hpermitted]

/-! ## Types that are admitted -/

theorem Declarative.Condition.admits_iff {condition : Declarative.Condition} {t : ResourceType} :
    condition.admits t = true ↔
      (∀ types, condition.resourceTypes = some types → t ∈ types) ∧
      (∀ types, condition.excludedResourceTypes = some types → t ∉ types) := by
  unfold Declarative.Condition.admits
  cases condition.resourceTypes <;> cases condition.excludedResourceTypes <;> simp

/-- The group is for requests of type `t`. Policies are for documents only. -/
def Group.IsFor (group : Group) (t : ResourceType) : Prop :=
  group = .csp → t ∈ [ResourceType.mainFrame, .subFrame]

/-- The type is one that the rule permits, or one that the group is for if it permits none, and the
rule does not restrict it. -/
def Group.Covers (group : Group) (rule : Rule) (t : ResourceType) : Prop :=
  (if rule.permittedTypes = .empty then group.IsFor t else t ∈ rule.permittedTypes) ∧
    t ∉ rule.restrictedTypes

/-- The rule permits no type by itself and restricts all that the group is for. -/
def Group.Exhausts (group : Group) (rule : Rule) : Prop :=
  rule.permittedTypes = .empty ∧ ∀ t, group.IsFor t → t ∈ rule.restrictedTypes

theorem not_mem_someUnlessEmpty_iff {types : TypeSet} {t : ResourceType} :
    (∀ excluded, someUnlessEmpty types.toList = some excluded → t ∉ excluded) ↔ t ∉ types := by
  rw [← TypeSet.mem_toList]
  constructor
  · intro h ht
    exact h _ (someUnlessEmpty_eq_some_iff.mpr ⟨List.ne_nil_of_mem ht, rfl⟩) ht
  · intro ht excluded hexcluded
    rw [← (someUnlessEmpty_eq_some_iff.mp hexcluded).2]
    exact ht

section Conditions

variable {group : Group} {rule : Rule} {condition : Declarative.Condition}

/-- A condition admits what the group covers for the rule. -/
theorem Group.admits_finish_iff (h : rule.condition = .ok condition) (t : ResourceType) :
    (group.finish condition).admits t = true ↔ group.Covers rule t := by
  unfold Group.Covers
  rw [Declarative.Condition.admits_iff, group.excludedResourceTypes_finish]
  by_cases hpermitted : rule.permittedTypes = .empty
  · obtain ⟨htypes, hexcluded⟩ := Rule.typeLists_of_not_permitted h hpermitted
    rw [hexcluded, not_mem_someUnlessEmpty_iff, if_pos hpermitted]
    cases group with
    | csp => simp [Group.finish, Group.IsFor, Csp.resourceTypes_documentTypes, htypes]
    | regular | removeParam | removeHeader | badFilter =>
      simp [Group.finish, Group.IsFor, htypes]
  · obtain ⟨htypes, hexcluded, -⟩ := Rule.typeLists_of_permitted h hpermitted
    have hfinish : (group.finish condition).resourceTypes = condition.resourceTypes := by
      cases group with
      | csp =>
        show (Csp.documentTypes condition).resourceTypes = _
        rw [Csp.resourceTypes_documentTypes, htypes]
        rfl
      | regular | removeParam | removeHeader | badFilter => rfl
    rw [hfinish, htypes, hexcluded, if_neg hpermitted]
    simp

/-- Of a rule with a condition nothing is covered only if it restricts all that there is. -/
theorem Group.not_covers_iff (h : rule.condition = .ok condition) :
    (∀ t, ¬ group.Covers rule t) ↔ group.Exhausts rule := by
  by_cases hpermitted : rule.permittedTypes = .empty
  · simp only [Covers, Exhausts, hpermitted, if_true, true_and, not_and, not_not]
  · -- A rule that permits types has one left, or it would have no condition.
    obtain ⟨-, -, t, ht, hrestricted⟩ := Rule.typeLists_of_permitted h hpermitted
    constructor
    · intro hnone
      refine absurd ⟨?_, hrestricted⟩ (hnone t)
      rw [if_neg hpermitted]
      exact ht
    · intro hexhausted
      exact absurd hexhausted.1 hpermitted

end Conditions

/-! ## Rules without types -/

/-- The rule without its restricted types. -/
def Rule.unrestricted (rule : Rule) : Rule :=
  { rule with restrictedTypes := .empty }

/-- The source rule without its restricted types. -/
def SourceRule.unrestricted (r : SourceRule) : SourceRule :=
  { r with rule := r.rule.unrestricted }

theorem SourceRule.modifier_unrestricted (r : SourceRule) :
    r.unrestricted.rule.modifier = r.rule.modifier := rfl

theorem SourceRule.allowlist_unrestricted (r : SourceRule) :
    r.unrestricted.rule.allowlist = r.rule.allowlist := rfl

/-- All types that the rule permits are restricted too. -/
structure Rule.Cancels (rule : Rule) : Prop where
  permitted : rule.permittedTypes ≠ .empty
  restricted : ∀ t ∈ rule.permittedTypes, t ∈ rule.restrictedTypes

theorem Rule.Cancels.resourceTypes {rule : Rule} (h : rule.Cancels) :
    rule.resourceTypes = .error .noResourceType := by
  have hsome : ¬ rule.permittedTypes.isEmpty = true := by
    rw [TypeSet.isEmpty_iff]
    exact h.permitted
  have hnone : (rule.permittedTypes \ rule.restrictedTypes).toList = [] := by
    rw [List.eq_nil_iff_forall_not_mem]
    intro t ht
    rw [TypeSet.mem_toList, TypeSet.mem_sdiff] at ht
    exact ht.2 (h.restricted t ht.1)
  unfold Rule.resourceTypes
  rw [if_neg hsome]
  exact if_pos hnone

/-- The first of two results is an error: there is no resource type, or the second one is the same
error. -/
def FailsLike {α β : Type} (x : Except Rejection α) (y : Except Rejection β) : Prop :=
  ∃ reason, x = .error reason ∧ (reason = .noResourceType ∨ y = .error reason)

namespace FailsLike

variable {α β γ δ : Type} {x : Except Rejection α} {y : Except Rejection β}

theorem error (reason : Rejection) :
    FailsLike (.error reason : Except Rejection α) (.error reason : Except Rejection β) :=
  ⟨reason, rfl, .inr rfl⟩

/-- Errors that are passed on keep the relation. -/
theorem mono (h : FailsLike x y) {x' : Except Rejection γ} {y' : Except Rejection δ}
    (hx : ∀ reason, x = .error reason → x' = .error reason)
    (hy : ∀ reason, y = .error reason → y' = .error reason) : FailsLike x' y' := by
  obtain ⟨reason, hfails, hreason⟩ := h
  exact ⟨reason, hx reason hfails, hreason.imp_right (hy reason)⟩

theorem bind (h : FailsLike x y) (f : α → Except Rejection γ) (g : β → Except Rejection δ) :
    FailsLike (x.bind f) (y.bind g) := by
  apply h.mono
  · rintro reason rfl
    rfl
  · rintro reason rfl
    rfl

theorem map (h : FailsLike x y) (f : α → γ) (g : β → δ) : FailsLike (x.map f) (y.map g) := by
  apply h.mono
  · rintro reason rfl
    rfl
  · rintro reason rfl
    rfl

end FailsLike

namespace Rule.Cancels

/-- A rule that cancels its types has no condition. Unless it has none for another reason, which
does not depend on the restricted types, it is said to match no resource types. -/
theorem condition {rule : Rule} (h : rule.Cancels) :
    FailsLike rule.condition rule.unrestricted.condition := by
  have haddress : AddressFilter.ofRule rule.unrestricted = AddressFilter.ofRule rule := rfl
  have hinitiators : rule.unrestricted.initiators = rule.initiators := rfl
  have hexcluded : rule.unrestricted.excludedInitiators = rule.excludedInitiators := rfl
  unfold Rule.condition
  rw [haddress, hinitiators, hexcluded]
  -- The types are looked at last.
  cases AddressFilter.ofRule rule with
  | error reason => exact .error reason
  | ok filter =>
    cases rule.initiators with
    | error reason => exact .error reason
    | ok initiators =>
      cases rule.excludedInitiators with
      | error reason => exact .error reason
      | ok excluded =>
        rw [h.resourceTypes]
        exact ⟨.noResourceType, rfl, .inl rfl⟩

variable {r : SourceRule}

theorem regular_draft (h : r.rule.Cancels) (resources : Option String) :
    FailsLike (Regular.draft resources r) (Regular.draft resources r.unrestricted) := by
  have haction : Regular.action resources r.unrestricted.rule =
    Regular.action resources r.rule := rfl
  unfold Regular.draft
  rw [haction]
  cases Regular.action resources r.rule with
  | error reason => exact .error reason
  | ok action => exact h.condition.bind _ _

theorem csp_contribution (h : r.rule.Cancels) :
    FailsLike (Csp.contribution r) (Csp.contribution r.unrestricted) := by
  unfold Csp.contribution
  rw [r.modifier_unrestricted, r.allowlist_unrestricted]
  split
  · split
    · exact .error _
    · exact h.condition.map _ _
  · exact .error _

theorem removeParam_contribution (h : r.rule.Cancels) :
    FailsLike (RemoveParam.contribution r) (RemoveParam.contribution r.unrestricted) := by
  unfold RemoveParam.contribution
  rw [r.modifier_unrestricted, r.allowlist_unrestricted]
  split
  · split
    · exact .error _
    · split
      · exact .error _
      · exact .error _
      · exact h.condition.map _ _
      · exact h.condition.map _ _
  · exact .error _

theorem removeHeader_contribution (h : r.rule.Cancels) :
    FailsLike (RemoveHeader.contribution r) (RemoveHeader.contribution r.unrestricted) := by
  unfold RemoveHeader.contribution
  rw [r.modifier_unrestricted, r.allowlist_unrestricted]
  split
  · dsimp only
    split
    · exact .error _
    · split
      · exact .error _
      · split
        · exact .error _
        · exact h.condition.map _ _
  · exact .error _

/-- A group rejects a rule that cancels its types, for that reason or for another one. -/
theorem verdict (h : r.rule.Cancels) (resources : Option String) {group : Group}
    (hgroup : group ≠ .badFilter) :
    FailsLike (group.verdict resources r) (group.verdict resources r.unrestricted) := by
  cases group with
  | regular => exact (h.regular_draft resources).map _ _
  | csp => exact h.csp_contribution.map _ _
  | removeParam => exact h.removeParam_contribution.map _ _
  | removeHeader => exact h.removeHeader_contribution.map _ _
  | badFilter => exact absurd rfl hgroup

end Rule.Cancels

/-! ## Conversions -/

/-- A declarative rule has both lists of types just if it adds policies for rules that permit no
type but restrict some. -/
theorem convert_typeLists (options : Options) (filters : List Filter)
    (enough : convert options filters ≠ .error .idsExhausted) :
    ∃ run, convert options filters = .ok run ∧ ∀ rule ∈ run.result.rules,
      Nonempty (Lineage options filters run.result rule) ∧
      ∀ l : Lineage options filters run.result rule,
        (rule.condition.resourceTypes.isSome = true ∧
            rule.condition.excludedResourceTypes.isSome = true) ↔
          l.group = .csp ∧ ∀ r ∈ l.contributors,
            r.rule.permittedTypes = .empty ∧ r.rule.restrictedTypes ≠ .empty := by
  obtain ⟨hrun, hids⟩ := convert_eq_ok enough
  refine ⟨options.runOn filters, hrun, fun rule hrule => ?_⟩
  refine ⟨Options.nonempty_lineage hids hrule, fun l => ?_⟩
  -- It does not matter which of the rules is looked at, for they share the condition.
  have hlists : ∀ r ∈ l.contributors, (rule.condition.resourceTypes.isSome = true ∧
      rule.condition.excludedResourceTypes.isSome = true ↔
        l.group = .csp ∧ r.rule.permittedTypes = .empty ∧ r.rule.restrictedTypes ≠ .empty) := by
    intro r hr
    obtain ⟨condition, hcondition, hfinish⟩ := l.condition r hr
    rw [hfinish]
    exact l.group.both_typeLists_iff hcondition
  constructor
  · intro hboth
    obtain ⟨s, hs⟩ := List.exists_mem_of_ne_nil _ l.nonempty
    exact ⟨((hlists s hs).mp hboth).1, fun r hr => ((hlists r hr).mp hboth).2⟩
  · rintro ⟨hgroup, hrestricting⟩
    obtain ⟨s, hs⟩ := List.exists_mem_of_ne_nil _ l.nonempty
    exact (hlists s hs).mpr ⟨hgroup, hrestricting s hs⟩

/-- A policy for all requests but those for images, and one for documents. -/
def sampleRestriction : FilterInput where
  filterId := 7
  rules :=
    [{ index := 0, pattern := "||a.example^", options := ["csp=script-src 'none'", "~image"] },
     { index := 1, pattern := "||b.example^", options := ["csp=script-src 'none'", "document"] }]

theorem convert_typeLists_sample :
    ∃ run, convert {} sampleRestriction.load.filters = .ok run ∧ ∀ rule ∈ run.result.rules,
      ∃ l : Lineage {} sampleRestriction.load.filters run.result rule,
        (rule.condition.resourceTypes.isSome = true ∧
            rule.condition.excludedResourceTypes.isSome = true) ↔
          l.group = .csp ∧ ∀ r ∈ l.contributors,
            r.rule.permittedTypes = .empty ∧ r.rule.restrictedTypes ≠ .empty := by
  have enough : convert {} sampleRestriction.load.filters ≠ .error .idsExhausted := by
    decide +kernel
  obtain ⟨run, hrun, hrules⟩ := convert_typeLists {} sampleRestriction.load.filters enough
  refine ⟨run, hrun, fun rule hrule => ?_⟩
  obtain ⟨⟨l⟩, hlists⟩ := hrules rule hrule
  exact ⟨l, hlists l⟩

/-- The two lists are not exclusive: the first policy has both. -/
theorem typeLists_of_sampleRestriction :
    (convert {} sampleRestriction.load.filters).toOption.map (fun run =>
        run.result.rules.map fun rule =>
          (rule.condition.resourceTypes, rule.condition.excludedResourceTypes)) =
      some [(some [.mainFrame, .subFrame], some [.image]), (some [.mainFrame], none)] := by
  decide +kernel

/-- A declarative rule admits the types that its group covers for the rules that it is made of. It
admits none just if these permit no type and restrict all that the group is for. Rules that permit
types but restrict them all are reported. -/
theorem convert_admits (options : Options) (filters : List Filter)
    (enough : convert options filters ≠ .error .idsExhausted) :
    ∃ run, convert options filters = .ok run ∧
      (∀ rule ∈ run.result.rules, Nonempty (Lineage options filters run.result rule) ∧
        ∀ l : Lineage options filters run.result rule,
          (∀ r ∈ l.contributors, ∀ t, rule.condition.admits t = true ↔ l.group.Covers r.rule t) ∧
          ((∀ t, rule.condition.admits t = false) ↔
            ∀ r ∈ l.contributors, l.group.Exhausts r.rule)) ∧
      ∀ filter ∈ erase filters, ∀ r ∈ filter.rules, r.rule.Cancels →
        ∃ reason : Rejection,
          .unsupported filter.id r.index reason.message ∈ run.result.errors ∧
          (reason = .noResourceType ∨
            (Group.of r.rule).verdict options.resourcesPath r.unrestricted = .error reason) := by
  obtain ⟨hrun, hids⟩ := convert_eq_ok enough
  refine ⟨options.runOn filters, hrun, fun rule hrule => ?_, fun filter hfilter r hr hcancels => ?_⟩
  · refine ⟨Options.nonempty_lineage hids hrule, fun l => ?_⟩
    have hcovers : ∀ r ∈ l.contributors, ∀ t,
        rule.condition.admits t = true ↔ l.group.Covers r.rule t := by
      intro r hr t
      obtain ⟨condition, hcondition, hfinish⟩ := l.condition r hr
      rw [hfinish]
      exact Group.admits_finish_iff hcondition t
    have hexhausts : ∀ r ∈ l.contributors,
        ((∀ t, rule.condition.admits t = false) ↔ l.group.Exhausts r.rule) := by
      intro r hr
      obtain ⟨condition, hcondition, -⟩ := l.condition r hr
      rw [← Group.not_covers_iff hcondition]
      refine forall_congr' fun t => ?_
      rw [← hcovers r hr t, Bool.not_eq_true]
    refine ⟨hcovers, fun hnone r hr => (hexhausts r hr).mp hnone, fun hall => ?_⟩
    obtain ⟨s, hs⟩ := List.exists_mem_of_ne_nil _ l.nonempty
    exact (hexhausts s hs).mpr (hall s hs)
  · -- No badfilter rules are left to be in a group that reports nothing.
    have hgroup : Group.of r.rule ≠ .badFilter := by
      rw [Ne, Group.of_eq_badFilter_iff, Bool.not_eq_true]
      exact isBadfilter_eraseBy (negators filters) filters filter hfilter r hr
    obtain ⟨reason, hverdict, hreason⟩ := hcancels.verdict options.resourcesPath hgroup
    exact ⟨reason, Options.unsupported_mem_errors hids hfilter hr hverdict, hreason⟩

theorem convert_admits_sample :
    (convert { resourcesPath := some "/res" } sampleMixture.load.filters).toOption.map (fun run =>
        (run.result.rules.map fun rule => (ResourceType.all.filter rule.condition.admits).length,
          run.result.errors)) =
      some ([1, 11, 13, 13, 2, 13, 13, 13],
        [.degraded 1 7 0 "unsupported domains dropped: a.*",
          .unsupported 7 9 "rule matches no resource types",
          .unsupported 7 10 "unsupported regular expression"]) ∧
    ∃ run, convert { resourcesPath := some "/res" } sampleMixture.load.filters = .ok run ∧
      ∀ rule ∈ run.result.rules,
        ∃ l : Lineage { resourcesPath := some "/res" } sampleMixture.load.filters run.result rule,
          ∀ r ∈ l.contributors, ∀ t,
            rule.condition.admits t = true ↔ l.group.Covers r.rule t := by
  obtain ⟨run, hrun, hrules, -⟩ := convert_admits _ _ sampleMixture_converts
  refine ⟨by decide +kernel, run, hrun, fun rule hrule => ?_⟩
  obtain ⟨⟨l⟩, hadmits⟩ := hrules rule hrule
  exact ⟨l, (hadmits l).1⟩

/-- A blocking rule that restricts all types, and a policy that restricts all documents. -/
def sampleExhausted : FilterInput where
  filterId := 7
  rules :=
    [{ index := 0, pattern := "||a.example^",
       options := ["~document", "~subdocument", "~stylesheet", "~script", "~image", "~font",
         "~object", "~xmlhttprequest", "~ping", "~csp_report", "~media", "~websocket", "~other"] },
     { index := 1, pattern := "||a.example^",
       options := ["csp=script-src 'none'", "~document", "~subdocument"] }]

/-- Not every declarative rule admits a type: these two admit none, and no error is reported. -/
theorem admits_of_sampleExhausted :
    (convert {} sampleExhausted.load.filters).toOption.map (fun run =>
        (run.result.rules.map fun rule => ResourceType.all.filter rule.condition.admits,
          run.result.errors)) =
      some ([[], []], []) := by
  decide +kernel

end Blocklist
