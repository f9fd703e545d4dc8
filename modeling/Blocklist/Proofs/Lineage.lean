import Mathlib.Data.List.Basic
import Blocklist.Proofs.Integrity
import Blocklist.Proofs.Merging

/-! # Where declarative rules come from

Every declarative rule of a result was made by one group of one filter of the batch, out of rules
that have its condition and its priority.

* `Csp.policy?_of_contribution` and its siblings: the part of the action that a rule asks for;
* `Group.exists_madeOf`: a draft is made of rules of its group, none of which is rejected;
* `Options.exists_lineage`: a declarative rule of a result has a lineage.
-/

namespace Blocklist

open Badfilter

/-! ## Parts of the action -/

namespace Rule

/-- The policy that the rule adds. -/
def policy? (rule : Rule) : Option String :=
  match rule.modifier with
  | some (.csp policy) => some policy
  | _ => none

/-- The parameter that the rule removes, or `none` in place of it for the whole query. -/
def param? (rule : Rule) : Option (Option String) :=
  match rule.modifier with
  | some (.removeParam value) =>
    match ParamSelection.ofValue value with
    | .all => some none
    | .name param => some (some param)
    | .inverted _ | .regex _ => none
  | _ => none

/-- The header that the rule removes, if it names one that may be removed. -/
def headerTarget? (rule : Rule) : Option HeaderTarget :=
  match rule.modifier with
  | some (.removeHeader value) =>
    if (HeaderTarget.ofValue value).isValid ∧ (HeaderTarget.ofValue value).name ≠ "" then
      some (HeaderTarget.ofValue value)
    else none
  | _ => none

end Rule

/-- A contribution carries the part that it was made with. -/
theorem Contribution.item_of_map {α : Type} (finish : Declarative.Condition → Declarative.Condition)
    {r : SourceRule} {c : Contribution α} {item : α}
    (h : (r.rule.condition.map fun condition => .ofRule r (finish condition) item) = .ok c) :
    c.item = item := by
  obtain ⟨condition, -, rfl⟩ := exists_ok_of_map h
  rfl

theorem Csp.policy?_of_contribution {r : SourceRule} {c : Contribution String}
    (h : contribution r = .ok c) : r.rule.policy? = some c.item := by
  unfold contribution at h
  split at h
  · next policy hmodifier =>
    split at h
    · cases h
    · rw [Contribution.item_of_map documentTypes h, Rule.policy?, hmodifier]
  · cases h

theorem RemoveParam.param?_of_contribution {r : SourceRule} {c : Contribution (Option String)}
    (h : contribution r = .ok c) : r.rule.param? = some c.item := by
  unfold contribution at h
  split at h
  · next value hmodifier =>
    split at h
    · cases h
    · -- Only the whole query and a single parameter bring something.
      split at h
      · cases h
      · cases h
      · next hall =>
        rw [Contribution.item_of_map id h]
        simp only [Rule.param?, hmodifier, hall]
      · next param hname =>
        rw [Contribution.item_of_map id h]
        simp only [Rule.param?, hmodifier, hname]
  · cases h

theorem RemoveHeader.headerTarget?_of_contribution {r : SourceRule}
    {c : Contribution HeaderTarget} (h : contribution r = .ok c) :
    r.rule.headerTarget? = some c.item := by
  unfold contribution at h
  split at h
  · next value hmodifier =>
    dsimp only at h
    split at h
    · cases h
    · split at h
      · cases h
      · next hvalid =>
        split at h
        · cases h
        · next hname =>
          have hremovable : (HeaderTarget.ofValue value).isValid = true := by simpa using hvalid
          rw [Contribution.item_of_map id h]
          simp only [Rule.headerTarget?, hmodifier]
          exact if_pos ⟨hremovable, hname⟩
  · cases h

/-! ## Drafts -/

/-- What a group makes of the condition of a rule. -/
def Group.finish : Group → Declarative.Condition → Declarative.Condition
  | .csp => Csp.documentTypes
  | _ => id

theorem MergingGroup.finish_group (g : MergingGroup) : g.group.finish = g.finish := by
  cases g <;> rfl

/-- The action that a group gives to a declarative rule which is made of some rules. -/
inductive Group.Acts (resources : Option String) (contributors : List SourceRule) :
    Group → Declarative.Action → Prop where
  | regular {r : SourceRule} {action : Declarative.Action} (single : contributors = [r])
      (acts : Regular.action resources r.rule = .ok action) :
      Acts resources contributors .regular action
  | csp {policies : List String}
      (parts : contributors.map (·.rule.policy?) = policies.map some) :
      Acts resources contributors .csp (Csp.action policies)
  | removeParam {params : List (Option String)}
      (parts : contributors.map (·.rule.param?) = params.map some) :
      Acts resources contributors .removeParam (RemoveParam.action params)
  | removeHeader {targets : List HeaderTarget}
      (parts : contributors.map (·.rule.headerTarget?) = targets.map some) :
      Acts resources contributors .removeHeader (RemoveHeader.action targets)

/-- Where each rule of a list has its part, any of them has one. -/
theorem exists_part {α : Type} {part? : Rule → Option α} {contributors : List SourceRule}
    {items : List α} (parts : contributors.map (part? ·.rule) = items.map some) {r : SourceRule}
    (hr : r ∈ contributors) : ∃ item ∈ items, part? r.rule = some item := by
  have hpart : part? r.rule ∈ items.map some := by
    rw [← parts]
    exact List.mem_map_of_mem hr
  obtain ⟨item, hitem, heq⟩ := List.mem_map.mp hpart
  exact ⟨item, hitem, heq.symm⟩

/-- What the parts of some rules come to can be said of the rules themselves. -/
theorem filterMap_parts {α β : Type} {part? : Rule → Option α} {f : SourceRule → Option β}
    {k : α → Option β} (hk : ∀ r item, part? r.rule = some item → f r = k item)
    {contributors : List SourceRule} {items : List α}
    (parts : contributors.map (part? ·.rule) = items.map some) :
    contributors.filterMap f = items.filterMap k := by
  induction contributors generalizing items with
  | nil =>
    rw [List.map_nil] at parts
    rw [List.map_eq_nil_iff.mp parts.symm]
    rfl
  | cons r rest ih =>
    cases items with
    | nil => cases parts
    | cons item items =>
      rw [List.map_cons, List.map_cons, List.cons.injEq] at parts
      rw [List.filterMap_cons, List.filterMap_cons, hk r item parts.1, ih parts.2]

/-- The draft is what a group makes of some rules. -/
structure Draft.MadeOf (resources : Option String) (group : Group)
    (contributors : List SourceRule) (draft : Draft) : Prop where
  nonempty : contributors ≠ []
  sources : draft.sources = contributors.map SourceRule.index
  condition : ∀ r ∈ contributors, ∃ condition, r.rule.condition = .ok condition ∧
    draft.condition = group.finish condition
  priority : ∀ r ∈ contributors, draft.priority = r.rule.priority
  action : group.Acts resources contributors draft.action

theorem Regular.madeOf_of_draft {resources : Option String} {r : SourceRule} {d : Draft}
    (h : draft resources r = .ok d) : d.MadeOf resources .regular [r] := by
  obtain ⟨haction, hcondition, hpriority, hsources, -⟩ := of_draft_eq_ok h
  constructor
  case nonempty => exact List.cons_ne_nil _ _
  case sources => exact hsources
  case condition =>
    intro s hs
    rw [List.mem_singleton.mp hs]
    exact ⟨d.condition, hcondition, rfl⟩
  case priority =>
    intro s hs
    rw [List.mem_singleton.mp hs]
    exact hpriority
  case action => exact .regular rfl haction

section Merged

variable {α : Type} {contribution : SourceRule → Except Rejection (Contribution α)}
  {action : List α → Declarative.Action} {rules : List SourceRule} {g : MergingGroup}
  {part? : Rule → Option α}

/-- A draft of merged rules is made of the rules that have the key of its bucket. -/
theorem MergingGroup.madeOf_of_mem_collect {resources : Option String}
    (hkey : ∀ r, g.key r = (contribution r).map Contribution.key)
    (hof : ∀ r c, contribution r = .ok c → c.IsOf g.finish r)
    (hpart : ∀ r c, contribution r = .ok c → part? r.rule = some c.item)
    (hacts : ∀ (contributors : List SourceRule) (items : List α),
      contributors.map (part? ·.rule) = items.map some →
        g.group.Acts resources contributors (action items))
    {b : Bucket α} (hb : b ∈ Bucket.collect (rules.filterMap fun r => (contribution r).toOption)) :
    (b.draft action).MadeOf resources g.group (g.contributors b.key rules) := by
  have hindices := filterMap_members hkey (f := fun c => some c.index) (k := fun r => some r.index)
    (fun r c hc => congrArg some (hof r c hc).index) hb
  have hitems := filterMap_members hkey (f := fun c => some (some c.item))
    (k := fun r => some (part? r.rule)) (fun r c hc => congrArg some (hpart r c hc).symm) hb
  rw [List.filterMap_eq_map', List.filterMap_eq_map'] at hindices hitems
  -- The rules with the key are those whose contributions are in the bucket.
  have hcontribution : ∀ r ∈ g.contributors b.key rules,
      ∃ c, contribution r = .ok c ∧ c.key = b.key := by
    intro r hr
    have hhas := of_decide_eq_true (List.mem_filter.mp hr).2
    rw [hkey] at hhas
    exact exists_ok_of_map (eq_ok_of_toOption hhas)
  constructor
  case nonempty =>
    intro hnone
    rw [hnone] at hindices
    exact List.cons_ne_nil _ _ hindices
  case sources => exact hindices
  case condition =>
    intro r hr
    obtain ⟨c, hc, hsame⟩ := hcontribution r hr
    obtain ⟨condition, hcondition, hfinal⟩ := (hof r c hc).condition
    refine ⟨condition, hcondition, ?_⟩
    rw [g.finish_group, ← hfinal]
    exact (congrArg Prod.fst hsame).symm
  case priority =>
    intro r hr
    obtain ⟨c, hc, hsame⟩ := hcontribution r hr
    rw [← (hof r c hc).priority]
    exact (congrArg Prod.snd hsame).symm
  case action =>
    refine hacts _ _ ?_
    rw [← hitems, Bucket.items, List.map_map]
    rfl

end Merged

/-- A rule with a key is one that its group converts. -/
theorem MergingGroup.verdict_of_mem_contributors (g : MergingGroup) (resources : Option String)
    {key : Declarative.Condition × UInt32} {rules : List SourceRule} {r : SourceRule}
    (hr : r ∈ g.contributors key rules) : g.group.verdict resources r = .ok () := by
  have hhas := of_decide_eq_true (List.mem_filter.mp hr).2
  have hkey : g.key r = .ok key := eq_ok_of_toOption hhas
  cases g with
  | csp =>
    obtain ⟨c, hc, -⟩ := exists_ok_of_map hkey
    exact congrArg (Except.map fun _ => ()) hc
  | removeParam =>
    obtain ⟨c, hc, -⟩ := exists_ok_of_map hkey
    exact congrArg (Except.map fun _ => ()) hc
  | removeHeader =>
    obtain ⟨c, hc, -⟩ := exists_ok_of_map hkey
    exact congrArg (Except.map fun _ => ()) hc

/-- A draft of merged rules is made of the rules that have its condition and its priority. -/
theorem MergingGroup.madeOf_of_mem_outcomes (g : MergingGroup) {resources : Option String}
    {rules : List SourceRule} {draft : Draft}
    (h : .emit draft ∈ g.group.outcomes resources rules) :
    draft.MadeOf resources g.group
      (g.contributors (draft.condition, draft.priority) rules) := by
  cases g with
  | csp =>
    obtain ⟨b, hb, rfl⟩ := exists_bucket_of_mem_mergedOutcomes h
    exact MergingGroup.madeOf_of_mem_collect (g := .csp) (fun _ => rfl)
      (fun _ _ => Csp.isOf_of_contribution) (fun _ _ => Csp.policy?_of_contribution)
      (fun _ _ => .csp) hb
  | removeParam =>
    obtain ⟨b, hb, rfl⟩ := exists_bucket_of_mem_mergedOutcomes h
    exact MergingGroup.madeOf_of_mem_collect (g := .removeParam) (fun _ => rfl)
      (fun _ _ => RemoveParam.isOf_of_contribution)
      (fun _ _ => RemoveParam.param?_of_contribution) (fun _ _ => .removeParam) hb
  | removeHeader =>
    obtain ⟨b, hb, rfl⟩ := exists_bucket_of_mem_mergedOutcomes h
    exact MergingGroup.madeOf_of_mem_collect (g := .removeHeader) (fun _ => rfl)
      (fun _ _ => RemoveHeader.isOf_of_contribution)
      (fun _ _ => RemoveHeader.headerTarget?_of_contribution) (fun _ _ => .removeHeader) hb

theorem MergingGroup.exists_madeOf (g : MergingGroup) {resources : Option String}
    {rules : List SourceRule} {draft : Draft}
    (h : .emit draft ∈ g.group.outcomes resources rules) :
    ∃ contributors, contributors.Sublist rules ∧ draft.MadeOf resources g.group contributors ∧
      ∀ r ∈ contributors, g.group.verdict resources r = .ok () :=
  ⟨_, List.filter_sublist, g.madeOf_of_mem_outcomes h,
    fun _ hr => g.verdict_of_mem_contributors resources hr⟩

/-- A draft among the outcomes of a group is made of rules of the group that it converts. -/
theorem Group.exists_madeOf {resources : Option String} {group : Group} {rules : List SourceRule}
    {draft : Draft} (h : .emit draft ∈ group.outcomes resources rules) :
    ∃ contributors, contributors.Sublist rules ∧ draft.MadeOf resources group contributors ∧
      ∀ r ∈ contributors, group.verdict resources r = .ok () := by
  cases group with
  | regular =>
    obtain ⟨r, hr, hdraft⟩ := Regular.exists_rule_of_mem_outcomes h
    refine ⟨[r], List.singleton_sublist.mpr hr, Regular.madeOf_of_draft hdraft, fun s hs => ?_⟩
    rw [List.mem_singleton.mp hs]
    exact congrArg (Except.map fun _ => ()) hdraft
  | csp => exact MergingGroup.csp.exists_madeOf h
  | removeParam => exact MergingGroup.removeParam.exists_madeOf h
  | removeHeader => exact MergingGroup.removeHeader.exists_madeOf h
  | badFilter => cases h

/-- What a group that merges its rules makes of them. Each declarative rule has an action that is
made of the rules with its key. -/
theorem MergingGroup.exists_convertGroup (g : MergingGroup) {resources : Option String}
    {filterId start : UInt32} {rules : List SourceRule}
    (enough : convertGroup resources g.group filterId start rules ≠ .error .idsExhausted) :
    ∃ converted next, convertGroup resources g.group filterId start rules = .ok (converted, next) ∧
      converted.MergedByKey g filterId rules ∧
      ∀ rule ∈ converted.rules,
        g.contributors rule.key rules ≠ [] ∧
        g.group.Acts resources (g.contributors rule.key rules) rule.action := by
  have resolved : g.group = .badFilter → rules = [] := by
    intro h
    cases g <;> cases h
  rw [convertGroup_eq resolved] at enough ⊢
  by_cases hids : start.toNat + draftCount (((g.group.outcomes resources rules).map fun outcome =>
      (filterId, outcome)).map Prod.snd) < UInt32.size
  · have hmerged := g.mergedByKey_number resources filterId (Nat.le_of_lt hids)
    refine ⟨_, _, numberFrom_eq_ok hids, hmerged, fun rule hrule => ?_⟩
    rw [rules_number] at hrule
    obtain ⟨part, hpart, rfl⟩ := List.mem_map.mp hrule
    obtain ⟨outcome, houtcome, heq⟩ := List.mem_map.mp (mem_of_mem_numberedFrom hpart)
    rw [(Prod.mk.inj heq).2] at houtcome
    have made := g.madeOf_of_mem_outcomes houtcome
    exact ⟨made.nonempty, made.action⟩
  · exact absurd (numberFrom_eq_error hids) enough

/-! ## Results -/

/-- Where a declarative rule of a result comes from. -/
structure Lineage (options : Options) (filters : List Filter) (result : ConversionResult)
    (rule : Declarative.Rule) where
  /-- The filter, without what badfilter rules take out of it. -/
  filter : Filter
  /-- The group of the filter that made the rule. -/
  group : Group
  /-- The rules that it is made of, in the order of the filter. -/
  contributors : List SourceRule
  filter_mem : filter ∈ erase filters
  nonempty : contributors ≠ []
  sublist : contributors.Sublist (filter.rules.filter fun r => Group.of r.rule = group)
  /-- In the source map, they are the sources of the rule. -/
  entries : result.sourceMap.filter (·.declarativeId = rule.id) =
    contributors.map fun r => r.entry filter.id rule.id
  condition : ∀ r ∈ contributors, ∃ condition, r.rule.condition = .ok condition ∧
    rule.condition = group.finish condition
  priority : ∀ r ∈ contributors, rule.priority = r.rule.priority
  action : group.Acts options.resourcesPath contributors rule.action

/-- A numbered draft that is kept is made of rules of the group at its place. -/
theorem Options.exists_madeOf {options : Options} {filters : List Filter} {next : Nat}
    {part : Place × Numbered} (h : part ∈ numberPlaced next (options.placed filters)) :
    ∃ filter ∈ filters, part.2.filterId = filter.id ∧ ∃ contributors : List SourceRule,
      contributors.Sublist (filter.rules.filter fun r => Group.of r.rule = part.1.group) ∧
      part.2.draft.MadeOf options.resourcesPath part.1.group contributors ∧
      ∀ r ∈ contributors, part.1.group.verdict options.resourcesPath r = .ok () := by
  obtain ⟨entry, hentry, hplaced⟩ := List.mem_flatMap.mp (mem_of_mem_numberPlaced h)
  obtain ⟨group, -, hgroup⟩ := List.mem_flatMap.mp hplaced
  obtain ⟨outcome, houtcome, heq⟩ := List.mem_map.mp hgroup
  obtain ⟨hplace, hemit⟩ := Prod.mk.inj heq
  rw [hemit, GroupedRules.get_ofRules] at houtcome
  have hfilter : entry.1 ∈ filters := by
    rw [← List.zipIdx_map_fst 0 filters]
    exact List.mem_map_of_mem hentry
  refine ⟨entry.1, hfilter, ?_, ?_⟩
  · rw [filterId_of_mem_numberPlaced h, ← hplace]
  · rw [← hplace]
    exact Group.exists_madeOf houtcome

/-- Every declarative rule of a result has a lineage of rules that its group converts. -/
theorem Options.exists_lineage {options : Options} {filters : List Filter}
    (hids : firstId.toNat + draftCount ((options.outcomes (erase filters)).map Prod.snd) ≤
      UInt32.size)
    {rule : Declarative.Rule} (h : rule ∈ (options.runOn filters).result.rules) :
    ∃ l : Lineage options filters (options.runOn filters).result rule,
      ∀ r ∈ l.contributors, l.group.verdict options.resourcesPath r = .ok () := by
  obtain ⟨kept, hsub, hrules, hsources, -⟩ := exists_kept hids options.limits
  obtain ⟨parts, hparts, hkept⟩ := exists_parts hsub
  have hrules' : (options.runOn filters).result.rules = kept.map Numbered.rule := hrules
  rw [hrules', hkept, List.map_map] at h
  obtain ⟨part, hpart, rfl⟩ := List.mem_map.mp h
  obtain ⟨filter, hfilter, hid, contributors, hcontributors, made, hverdict⟩ :=
    Options.exists_madeOf (hparts.subset hpart)
  have distinct : kept.Pairwise fun p q => p.id ≠ q.id :=
    (numberedFrom_distinct hids).sublist hsub
  have hmem : part.2 ∈ kept := by
    rw [hkept]
    exact List.mem_map_of_mem hpart
  have hentries : (options.runOn filters).result.sourceMap.filter
      (·.declarativeId = part.2.id) = part.2.entries := by
    show ((options.limits.enforce _).sourceMap).filter _ = _
    rw [hsources]
    refine filter_flatMap_of_id distinct hmem fun p source hsource => ?_
    rw [Numbered.declarativeId_of_mem_entries hsource]
  refine ⟨{ filter, contributors
            group := part.1.group
            filter_mem := hfilter
            nonempty := made.nonempty
            sublist := hcontributors
            entries := ?_
            condition := made.condition
            priority := made.priority
            action := made.action }, hverdict⟩
  show (options.runOn filters).result.sourceMap.filter (·.declarativeId = part.2.id) = _
  rw [hentries, Numbered.entries, made.sources, hid, List.map_map]
  rfl

/-- Every declarative rule of a result has a lineage. -/
theorem Options.nonempty_lineage {options : Options} {filters : List Filter}
    (hids : firstId.toNat + draftCount ((options.outcomes (erase filters)).map Prod.snd) ≤
      UInt32.size)
    {rule : Declarative.Rule} (h : rule ∈ (options.runOn filters).result.rules) :
    Nonempty (Lineage options filters (options.runOn filters).result rule) := by
  obtain ⟨l, -⟩ := Options.exists_lineage hids h
  exact ⟨l⟩

end Blocklist
