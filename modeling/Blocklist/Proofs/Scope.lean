import Mathlib.Data.List.Basic
import Mathlib.Logic.Basic
import Blocklist.Proofs.Conditions

/-! # The scope that a condition stands for

The condition of a rule leaves out some of what the rule says, so that rules which differ can have
the same condition. Whatever they differ in, they have the same scope then, and rules that are
merged because they share a key may well be merged. This holds for any predicate in the place of
`Regex.accepts`.

* `Rule.withoutTypes_eq_iff`: all but the two type lists of a condition tell where its rule holds;
* `Rule.typeLists_eq_iff`: the two type lists tell which types the rule admits;
* `MergingGroup.key_eq_iff`: rules are merged just if they have one scope and one priority;
* `condition_tells_scope`: two rules have one condition just if they have one scope and write it
  down in the same way.
-/

namespace Blocklist

/-- The condition without its type lists. -/
def Declarative.Condition.withoutTypes (condition : Declarative.Condition) :
    Declarative.Condition :=
  { condition with resourceTypes := none, excludedResourceTypes := none }

theorem Declarative.Condition.eq_iff {c c' : Declarative.Condition} :
    c = c' ↔ c.withoutTypes = c'.withoutTypes ∧ c.resourceTypes = c'.resourceTypes ∧
      c.excludedResourceTypes = c'.excludedResourceTypes := by
  constructor
  · rintro rfl
    exact ⟨rfl, rfl, rfl⟩
  · rintro ⟨hrest, htypes, hexcluded⟩
    cases c
    cases c'
    simp_all [withoutTypes]

theorem Declarative.Condition.withoutTypes_eq_iff {c c' : Declarative.Condition} :
    c.withoutTypes = c'.withoutTypes ↔
      (c.urlFilter = c'.urlFilter ∧ c.regexFilter = c'.regexFilter) ∧
        c.caseSensitive = c'.caseSensitive ∧ c.initiators = c'.initiators ∧
        c.excludedInitiators = c'.excludedInitiators ∧ c.domainType = c'.domainType := by
  simp [withoutTypes, and_assoc]

/-- A group changes no more than the types. -/
theorem MergingGroup.withoutTypes_finish (g : MergingGroup) (condition : Declarative.Condition) :
    (g.finish condition).withoutTypes = condition.withoutTypes := by
  cases g with
  | csp =>
    show (Csp.documentTypes condition).withoutTypes = condition.withoutTypes
    unfold Csp.documentTypes
    split <;> rfl
  | removeParam | removeHeader => rfl

namespace Rule

/-! ## Scopes -/

/-- The rule holds for one party and not for the other. -/
def IsOnlyFor (rule : Rule) : Declarative.DomainType → Prop
  | .thirdParty => rule.flags.thirdParty = true ∧ rule.flags.firstParty = false
  | .firstParty => rule.flags.firstParty = true ∧ rule.flags.thirdParty = false

/-- The rule admits requests for the type. -/
def Admits (rule : Rule) (t : ResourceType) : Prop :=
  (rule.permittedTypes = .empty ∨ t ∈ rule.permittedTypes) ∧ t ∉ rule.restrictedTypes

/-- The permitted domains that stand for themselves. -/
def plainDomains (rule : Rule) : List String :=
  rule.permittedDomains.filter fun domain => ¬ ".*".toList <:+ domain.toList

/-- The two rules hold for the same addresses, on the same pages and for the same parties. -/
structure SamePlaces (r s : Rule) : Prop where
  pattern : r.pattern = s.pattern ∨ r.pattern ∈ ["", "*"] ∧ s.pattern ∈ ["", "*"]
  matchCase : r.flags.matchCase = s.flags.matchCase
  restricted : r.restrictedDomains = s.restrictedDomains
  permitted : r.plainDomains = s.plainDomains
  /-- Both or none of them hold on all pages that they do not restrict. -/
  anywhere : r.permittedDomains = [] ↔ s.permittedDomains = []
  parties : ∀ party, r.IsOnlyFor party ↔ s.IsOnlyFor party

/-- The two rules hold in the same places and for the same types. -/
structure SameScope (r s : Rule) : Prop extends SamePlaces r s where
  types : ∀ t, r.Admits t ↔ s.Admits t

variable {r s : Rule} {c c' : Declarative.Condition}

/-! ## Places -/

theorem domainType_eq_some_iff {party : Declarative.DomainType} :
    r.domainType = some party ↔ r.IsOnlyFor party := by
  unfold domainType IsOnlyFor
  cases party <;> cases r.flags.thirdParty <;> cases r.flags.firstParty <;> simp

theorem domainType_eq_iff (hr : r.condition = .ok c) (hs : s.condition = .ok c') :
    c.domainType = c'.domainType ↔ ∀ party, r.IsOnlyFor party ↔ s.IsOnlyFor party := by
  rw [(flags_of_condition hr).2, (flags_of_condition hs).2]
  constructor
  · intro h party
    rw [← domainType_eq_some_iff, ← domainType_eq_some_iff, h]
  · intro h
    refine Option.ext fun party => ?_
    exact domainType_eq_some_iff.trans ((h party).trans domainType_eq_some_iff.symm)

/-- The patterns of two rules tell whether their conditions have the same address filter. -/
theorem Expresses.filters_eq_iff (hr : r.Expresses c) (hs : s.Expresses c') :
    (c.urlFilter = c'.urlFilter ∧ c.regexFilter = c'.regexFilter) ↔
      (r.pattern = s.pattern ∨ r.pattern ∈ ["", "*"] ∧ s.pattern ∈ ["", "*"]) := by
  have hany : ∀ pattern : String, pattern ∈ ["", "*"] ↔ pattern = "" ∨ pattern = "*" := by
    intro pattern
    simp
  rw [hany, hany]
  constructor
  · rintro ⟨hurl, hregex⟩
    exact hr.pattern_eq hs hurl hregex
  · intro hpattern
    obtain ⟨filter, hfilter, hurl, hregex⟩ := hr.address
    obtain ⟨other, hother, hurl', hregex'⟩ := hs.address
    have hsame : filter = other := by
      rcases hpattern with heq | ⟨hrany, hsany⟩
      · rw [← heq] at hother
        exact hfilter.unique hother
      · exact (hfilter.unique (.any hrany)).trans ((Pattern.AsksFor.any hsany).unique hother)
    rw [hurl, hregex, hurl', hregex', hsame]
    exact ⟨rfl, rfl⟩

theorem Expresses.caseSensitive_eq_iff (hr : r.Expresses c) (hs : s.Expresses c') :
    c.caseSensitive = c'.caseSensitive ↔ r.flags.matchCase = s.flags.matchCase := by
  rw [hr.caseSensitive, hs.caseSensitive]
  cases r.flags.matchCase <;> cases s.flags.matchCase <;> simp

theorem Expresses.excludedInitiators_eq_iff (hr : r.Expresses c) (hs : s.Expresses c') :
    c.excludedInitiators = c'.excludedInitiators ↔ r.restrictedDomains = s.restrictedDomains := by
  rw [hr.excludedInitiators, hs.excludedInitiators]
  by_cases hnone : r.restrictedDomains = []
  · by_cases hnone' : s.restrictedDomains = []
    · simp [hnone, hnone']
    · simp [hnone, hnone', Ne.symm hnone']
  · by_cases hnone' : s.restrictedDomains = []
    · simp [hnone, hnone']
    · simp [hnone, hnone']

theorem Expresses.initiators_eq_iff (hr : r.Expresses c) (hs : s.Expresses c') :
    c.initiators = c'.initiators ↔
      r.plainDomains = s.plainDomains ∧ (r.permittedDomains = [] ↔ s.permittedDomains = []) := by
  rw [hr.initiators, hs.initiators]
  by_cases hnone : r.permittedDomains = []
  · by_cases hnone' : s.permittedDomains = []
    · simp [hnone, hnone', plainDomains]
    · simp [hnone, hnone']
  · by_cases hnone' : s.permittedDomains = []
    · simp [hnone, hnone']
    · simp [hnone, hnone', plainDomains]

/-- All but the two type lists of a condition tell where its rule holds. -/
theorem withoutTypes_eq_iff (hr : r.condition = .ok c) (hs : s.condition = .ok c') :
    c.withoutTypes = c'.withoutTypes ↔ r.SamePlaces s := by
  have hexpresses := expresses_of_condition hr
  have hexpresses' := expresses_of_condition hs
  rw [Declarative.Condition.withoutTypes_eq_iff, hexpresses.filters_eq_iff hexpresses',
    hexpresses.caseSensitive_eq_iff hexpresses', hexpresses.initiators_eq_iff hexpresses',
    hexpresses.excludedInitiators_eq_iff hexpresses', domainType_eq_iff hr hs]
  constructor
  · rintro ⟨hpattern, hcase, ⟨hpermitted, hanywhere⟩, hrestricted, hparties⟩
    exact ⟨hpattern, hcase, hrestricted, hpermitted, hanywhere, hparties⟩
  · rintro ⟨hpattern, hcase, hrestricted, hpermitted, hanywhere, hparties⟩
    exact ⟨hpattern, hcase, ⟨hpermitted, hanywhere⟩, hrestricted, hparties⟩

/-! ## Types -/

/-- A rule that permits types is one whose condition names them. -/
theorem isSome_resourceTypes_iff (h : r.condition = .ok c) :
    c.resourceTypes.isSome = true ↔ r.permittedTypes ≠ .empty := by
  by_cases hpermitted : r.permittedTypes = .empty
  · rw [(typeLists_of_not_permitted h hpermitted).1]
    simp [hpermitted]
  · rw [(typeLists_of_permitted h hpermitted).1]
    simp [hpermitted]

/-- The two type lists of a condition tell which types its rule admits and whether it permits
any. -/
theorem typeLists_eq_iff (hr : r.condition = .ok c) (hs : s.condition = .ok c') :
    (c.resourceTypes = c'.resourceTypes ∧ c.excludedResourceTypes = c'.excludedResourceTypes) ↔
      (∀ t, r.Admits t ↔ s.Admits t) ∧ (r.permittedTypes = .empty ↔ s.permittedTypes = .empty) := by
  constructor
  · rintro ⟨htypes, hexcluded⟩
    refine ⟨fun t => ?_, ?_⟩
    · have hadmits : c.admits t = c'.admits t := by
        rw [Declarative.Condition.admits, Declarative.Condition.admits, htypes, hexcluded]
      have hleft : c.admits t = true ↔ r.Admits t := (expresses_of_condition hr).admits t
      have hright : c'.admits t = true ↔ s.Admits t := (expresses_of_condition hs).admits t
      rw [← hleft, ← hright, hadmits]
    · have hsome := isSome_resourceTypes_iff hr
      rw [htypes, isSome_resourceTypes_iff hs] at hsome
      exact not_iff_not.mp hsome.symm
  · rintro ⟨hadmits, hnone⟩
    by_cases hpermitted : r.permittedTypes = .empty
    · -- Both rules admit what they do not restrict.
      have hpermitted' := hnone.mp hpermitted
      have hsame : r.restrictedTypes = s.restrictedTypes := by
        refine TypeSet.ext fun t => ?_
        have ht := hadmits t
        simp only [Admits, hpermitted, hpermitted', true_or, true_and] at ht
        exact not_iff_not.mp ht
      obtain ⟨htypes, hexcluded⟩ := typeLists_of_not_permitted hr hpermitted
      obtain ⟨htypes', hexcluded'⟩ := typeLists_of_not_permitted hs hpermitted'
      rw [htypes, htypes', hexcluded, hexcluded', hsame]
      exact ⟨rfl, rfl⟩
    · -- Both rules admit what they permit and do not restrict.
      have hpermitted' : s.permittedTypes ≠ .empty := fun h => hpermitted (hnone.mpr h)
      have hsame : r.permittedTypes \ r.restrictedTypes = s.permittedTypes \ s.restrictedTypes := by
        refine TypeSet.ext fun t => ?_
        have ht := hadmits t
        simp only [Admits, hpermitted, hpermitted', false_or] at ht
        rw [TypeSet.mem_sdiff, TypeSet.mem_sdiff]
        exact ht
      obtain ⟨htypes, hexcluded, -⟩ := typeLists_of_permitted hr hpermitted
      obtain ⟨htypes', hexcluded', -⟩ := typeLists_of_permitted hs hpermitted'
      rw [htypes, htypes', hexcluded, hexcluded', hsame]
      exact ⟨rfl, rfl⟩

/-- Two rules have one condition just if they have one scope and write it down in the same way. -/
theorem condition_eq_iff (hr : r.condition = .ok c) (hs : s.condition = .ok c') :
    c = c' ↔ r.SameScope s ∧ (r.permittedTypes = .empty ↔ s.permittedTypes = .empty) := by
  rw [Declarative.Condition.eq_iff, withoutTypes_eq_iff hr hs, typeLists_eq_iff hr hs]
  constructor
  · rintro ⟨hplaces, htypes, hnone⟩
    exact ⟨⟨hplaces, htypes⟩, hnone⟩
  · rintro ⟨hscope, hnone⟩
    exact ⟨hscope.toSamePlaces, hscope.types, hnone⟩

end Rule

/-! ## Keys -/

/-- A key is made of the final condition and the priority of a rule. -/
theorem MergingGroup.of_key {g : MergingGroup} {r : SourceRule}
    {key : Declarative.Condition × UInt32} (h : g.key r = .ok key) :
    ∃ condition, r.rule.condition = .ok condition ∧ key = (g.finish condition, r.rule.priority) := by
  have hof : ∀ {α : Type} {c : Contribution α}, c.IsOf g.finish r → c.key = key →
      ∃ condition, r.rule.condition = .ok condition ∧
        key = (g.finish condition, r.rule.priority) := by
    intro α c hc hkey
    obtain ⟨condition, hcondition, hfinal⟩ := hc.condition
    refine ⟨condition, hcondition, ?_⟩
    rw [← hkey, ← hfinal, ← hc.priority]
    rfl
  cases g with
  | csp =>
    obtain ⟨c, hc, hkey⟩ := exists_ok_of_map h
    exact hof (Csp.isOf_of_contribution hc) hkey
  | removeParam =>
    obtain ⟨c, hc, hkey⟩ := exists_ok_of_map h
    exact hof (RemoveParam.isOf_of_contribution hc) hkey
  | removeHeader =>
    obtain ⟨c, hc, hkey⟩ := exists_ok_of_map h
    exact hof (RemoveHeader.isOf_of_contribution hc) hkey

/-- Of two rules on domains or on none, the priority tells whether they permit types. -/
theorem Rule.permittedTypes_iff_of_priority {r s : Rule}
    (hdomains : r.permittedDomains = [] ↔ s.permittedDomains = [])
    (hpriority : r.priority = s.priority) :
    r.permittedTypes = .empty ↔ s.permittedTypes = .empty := by
  unfold Rule.priority at hpriority
  simp only [hdomains] at hpriority
  rw [← TypeSet.isEmpty_iff, ← TypeSet.isEmpty_iff]
  -- The other parts of the two sums are too large to make up for the types.
  generalize r.permittedTypes.isEmpty = none₁ at *
  generalize s.permittedTypes.isEmpty = none₂ at *
  generalize r.allowlist = allow₁ at *
  generalize s.allowlist = allow₂ at *
  generalize r.flags.important = important₁ at *
  generalize s.flags.important = important₂ at *
  by_cases hnone : s.permittedDomains = []
  · rw [if_pos hnone] at hpriority
    revert none₁ none₂ allow₁ allow₂ important₁ important₂
    decide
  · rw [if_neg hnone] at hpriority
    revert none₁ none₂ allow₁ allow₂ important₁ important₂
    decide

theorem MergingGroup.finish_of_isSome (g : MergingGroup) {condition : Declarative.Condition}
    (h : condition.resourceTypes.isSome = true) : g.finish condition = condition := by
  cases g with
  | csp =>
    show Csp.documentTypes condition = condition
    unfold Csp.documentTypes
    split
    · next hnone =>
      rw [hnone] at h
      cases h
    · rfl
  | removeParam | removeHeader => rfl

/-- Where both or none of two rules permit types, a group keeps their conditions apart. -/
theorem MergingGroup.eq_of_finish_eq (g : MergingGroup) {r s : Rule}
    {c c' : Declarative.Condition} (hr : r.condition = .ok c) (hs : s.condition = .ok c')
    (htypes : r.permittedTypes = .empty ↔ s.permittedTypes = .empty)
    (h : g.finish c = g.finish c') : c = c' := by
  by_cases hnone : r.permittedTypes = .empty
  · have hlists := Rule.typeLists_of_not_permitted hr hnone
    have hlists' := Rule.typeLists_of_not_permitted hs (htypes.mp hnone)
    have hexcluded : c.excludedResourceTypes = c'.excludedResourceTypes := by
      rw [← g.group.excludedResourceTypes_finish c, ← g.group.excludedResourceTypes_finish c',
        g.finish_group, h]
    have hrest : c.withoutTypes = c'.withoutTypes := by
      rw [← g.withoutTypes_finish c, h, g.withoutTypes_finish c']
    exact Declarative.Condition.eq_iff.mpr ⟨hrest, hlists.1.trans hlists'.1.symm, hexcluded⟩
  · have hsome := (Rule.isSome_resourceTypes_iff hr).mpr hnone
    have hsome' := (Rule.isSome_resourceTypes_iff hs).mpr fun hempty => hnone (htypes.mpr hempty)
    rw [g.finish_of_isSome hsome, g.finish_of_isSome hsome'] at h
    exact h

/-- Rules of a group are merged just if they have one scope and one priority. -/
theorem MergingGroup.key_eq_iff {g : MergingGroup} {a b : SourceRule}
    {key key' : Declarative.Condition × UInt32} (ha : g.key a = .ok key) (hb : g.key b = .ok key') :
    key = key' ↔ a.rule.SameScope b.rule ∧ a.rule.priority = b.rule.priority := by
  obtain ⟨c, hc, rfl⟩ := of_key ha
  obtain ⟨c', hc', rfl⟩ := of_key hb
  constructor
  · intro h
    obtain ⟨hfinal, hpriority⟩ := Prod.mk.inj h
    have hplaces : a.rule.SamePlaces b.rule := by
      rw [← Rule.withoutTypes_eq_iff hc hc', ← g.withoutTypes_finish c, hfinal,
        g.withoutTypes_finish c']
    have htypes := Rule.permittedTypes_iff_of_priority hplaces.anywhere hpriority
    have hsame := g.eq_of_finish_eq hc hc' htypes hfinal
    exact ⟨((Rule.condition_eq_iff hc hc').mp hsame).1, hpriority⟩
  · rintro ⟨hscope, hpriority⟩
    have htypes := Rule.permittedTypes_iff_of_priority hscope.anywhere hpriority
    have hsame := (Rule.condition_eq_iff hc hc').mpr ⟨hscope, htypes⟩
    rw [hsame, hpriority]

/-- Two rules with a condition each have the same condition just if they have the same scope and
both or none of them permit types. Rules of one group are merged just if they have the same scope
and the same priority. -/
theorem condition_tells_scope :
    (∀ (r s : Rule) (c c' : Declarative.Condition),
      r.condition = .ok c → s.condition = .ok c' →
      (c = c' ↔ r.SameScope s ∧ (r.permittedTypes = .empty ↔ s.permittedTypes = .empty))) ∧
    ∀ (g : MergingGroup) (a b : SourceRule) (key key' : Declarative.Condition × UInt32),
      g.key a = .ok key → g.key b = .ok key' →
      (key = key' ↔ a.rule.SameScope b.rule ∧ a.rule.priority = b.rule.priority) := by
  constructor
  · intro r s c c' hr hs
    exact Rule.condition_eq_iff hr hs
  · intro g a b key key' ha hb
    exact MergingGroup.key_eq_iff ha hb

/-- A rule on scripts in the pages of two domains, one of which is dropped. It permits images too,
but restricts them, and it is for both parties. -/
def sampleWordy : Rule where
  pattern := "*"
  allowlist := false
  flags := { matchCase := true, thirdParty := true, firstParty := true }
  permittedDomains := ["a.*", "b.example"]
  restrictedDomains := ["c.b.example"]
  permittedTypes := .single .script ∪ .single .image
  restrictedTypes := .single .image

/-- The same in other words. -/
def sampleTerse : Rule where
  pattern := ""
  allowlist := false
  flags := { matchCase := true }
  permittedDomains := ["b.example", "d.*"]
  restrictedDomains := ["c.b.example"]
  permittedTypes := .single .script

/-- A policy rule with the types. -/
def sampleSandbox (index : UInt32) (permittedTypes : TypeSet) : SourceRule where
  index
  rule :=
    { pattern := "||a.example^"
      allowlist := false
      permittedTypes
      modifier := some (.csp "sandbox") }

/-- The two wordings have one condition and one scope. A policy for all documents is not merged with
one that permits just the documents, whose priority is higher. -/
theorem condition_tells_scope_sample :
    (∃ condition, sampleWordy.condition = .ok condition ∧ sampleTerse.condition = .ok condition ∧
      sampleWordy.SameScope sampleTerse) ∧
    ∃ key key', MergingGroup.csp.key (sampleSandbox 0 .empty) = .ok key ∧
      MergingGroup.csp.key (sampleSandbox 1 (.single .mainFrame ∪ .single .subFrame)) = .ok key' ∧
      key.1 = key'.1 ∧ key ≠ key' := by
  obtain ⟨hscope, hkeys⟩ := condition_tells_scope
  have hconditions : ∀ rule ∈ [sampleWordy, sampleTerse], rule.condition = .ok
      { caseSensitive := some true
        initiators := some ["b.example"]
        excludedInitiators := some ["c.b.example"]
        resourceTypes := some [.script] } := by
    decide +kernel
  have hwordy := hconditions sampleWordy (by decide)
  have hterse := hconditions sampleTerse (by decide)
  have hsame := (hscope sampleWordy sampleTerse _ _ hwordy hterse).mp rfl
  have hpolicies : ∀ r ∈ [sampleSandbox 0 .empty,
      sampleSandbox 1 (.single .mainFrame ∪ .single .subFrame)], MergingGroup.csp.key r = .ok
        ({ urlFilter := some "||a.example^", resourceTypes := some [.mainFrame, .subFrame] },
          r.rule.priority) := by
    decide +kernel
  have hall := hpolicies (sampleSandbox 0 .empty) (by decide)
  have htyped := hpolicies (sampleSandbox 1 (.single .mainFrame ∪ .single .subFrame)) (by decide)
  refine ⟨⟨_, hwordy, hterse, hsame.1⟩, _, _, hall, htyped, rfl, fun heq => ?_⟩
  have hpriority := ((hkeys .csp _ _ _ _ hall htyped).mp heq).2
  exact absurd hpriority (by decide)

end Blocklist
