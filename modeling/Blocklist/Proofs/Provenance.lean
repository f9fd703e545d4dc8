import Mathlib.Data.List.Basic
import Mathlib.Data.List.Perm.Basic
import Blocklist.Proofs.Erasure
import Blocklist.Proofs.Grouping
import Blocklist.Proofs.Numbering
import Blocklist.Proofs.Outcomes

/-! # Where outcomes come from

Filters may share an id and rules may share a position, so the ids in a result do not say which rule
of a batch is meant. Here every outcome of a batch is put beside the place that it comes from.

* `outcomes_eq_placed`: the places are beside what a conversion numbers;
* `origins_placed_perm`: the outcomes account for each rule of the batch at its own place;
* `placed_pairwise`: they come filter by filter, and group by group inside a filter.
-/

namespace Blocklist

/-- A group of a filter that stands at some position of a batch. -/
structure Place where
  position : Nat
  filterId : UInt32
  group : Group
  deriving Repr, DecidableEq

/-- A rule of a batch. -/
structure Origin where
  place : Place
  index : UInt32
  deriving Repr, DecidableEq

/-- How many groups are converted before the group. -/
def Group.rank (group : Group) : Nat :=
  Group.all.idxOf group

/-- The first place is not behind the second one in the order of conversion. -/
def Place.le (a b : Place) : Prop :=
  a.position < b.position ∨ a.position = b.position ∧ a.group.rank ≤ b.group.rank

theorem Place.le_refl (place : Place) : place.le place :=
  Or.inr ⟨rfl, Nat.le_refl _⟩

namespace Origin

/-- The ids by which a result names the rule. -/
def ids (origin : Origin) : UInt32 × UInt32 :=
  (origin.place.filterId, origin.index)

/-- The rules that an outcome at some place is about. -/
def ofOutcome (part : Place × Outcome) : List Origin :=
  part.2.indices.map (Origin.mk part.1)

/-- The rules that a draft at some place is made of. -/
def ofDraft (part : Place × Draft) : List Origin :=
  part.2.sources.map (Origin.mk part.1)

/-- The rules of a filter at some position. -/
def ofFilter (filter : Filter) (position : Nat) : List Origin :=
  filter.rules.map fun r => ⟨⟨position, filter.id, Group.of r.rule⟩, r.index⟩

end Origin

/-- The rules of a batch. -/
def origins (filters : List Filter) : List Origin :=
  filters.zipIdx.flatMap fun entry => Origin.ofFilter entry.1 entry.2

namespace Options

/-- Outcomes of a group of a filter, each with its place. -/
def placedGroup (options : Options) (filter : Filter) (position : Nat) (group : Group) :
    List (Place × Outcome) :=
  (group.outcomes options.resourcesPath ((GroupedRules.ofRules filter.rules).get group)).map
    fun outcome => (⟨position, filter.id, group⟩, outcome)

/-- Outcomes of a filter, each with its place. -/
def placedFilter (options : Options) (filter : Filter) (position : Nat) : List (Place × Outcome) :=
  Group.all.flatMap (options.placedGroup filter position)

/-- Outcomes of a batch, each with its place. -/
def placed (options : Options) (filters : List Filter) : List (Place × Outcome) :=
  filters.zipIdx.flatMap fun entry => options.placedFilter entry.1 entry.2

variable (options : Options)

theorem outcomes_placedFilter (filter : Filter) (position : Nat) :
    (options.placedFilter filter position).map (fun part => (part.1.filterId, part.2)) =
      (FilterSections.ofFilter options.resourcesPath (.ofFilter filter)).outcomes := by
  unfold placedFilter FilterSections.outcomes FilterSections.ofFilter GroupedFilter.ofFilter
  rw [List.map_flatMap, List.flatMap_map]
  refine List.flatMap_congr fun group _ => ?_
  unfold placedGroup
  rw [List.map_map]
  rfl

/-- Without the places, these are the outcomes that a conversion numbers. -/
theorem outcomes_eq_placed (filters : List Filter) :
    options.outcomes filters =
      (options.placed filters).map fun part => (part.1.filterId, part.2) := by
  have hfilters : filters.flatMap (fun filter =>
      (FilterSections.ofFilter options.resourcesPath (.ofFilter filter)).outcomes) =
      filters.zipIdx.flatMap fun entry =>
        (FilterSections.ofFilter options.resourcesPath (.ofFilter entry.1)).outcomes := by
    conv_lhs => rw [← List.zipIdx_map_fst 0 filters, List.flatMap_map]
  unfold Options.outcomes Options.sections placed
  rw [List.flatMap_map, hfilters, List.map_flatMap]
  refine List.flatMap_congr fun entry _ => ?_
  rw [outcomes_placedFilter]

/-! ## Accounting -/

/-- The outcomes of a group account for the rules of the filter that belong to the group. -/
theorem origins_placedGroup_perm {filter : Filter} (position : Nat) (group : Group)
    (h : ∀ r ∈ filter.rules, r.rule.isBadfilter = false) :
    ((options.placedGroup filter position group).flatMap Origin.ofOutcome).Perm
      (((GroupedRules.ofRules filter.rules).get group).map fun r =>
        ⟨⟨position, filter.id, Group.of r.rule⟩, r.index⟩) := by
  -- The badfilter group has no outcomes, so it must not have rules either.
  have hnone : group = .badFilter → (GroupedRules.ofRules filter.rules).get group = [] := by
    intro hgroup
    rw [GroupedRules.get_ofRules, List.filter_eq_nil_iff]
    intro r hr hof
    rw [hgroup, decide_eq_true_iff, Group.of_eq_badFilter_iff, h r hr] at hof
    exact Bool.noConfusion hof
  have hplace : ((GroupedRules.ofRules filter.rules).get group).map (fun r =>
      (⟨⟨position, filter.id, Group.of r.rule⟩, r.index⟩ : Origin)) =
      (((GroupedRules.ofRules filter.rules).get group).map SourceRule.index).map
        (Origin.mk ⟨position, filter.id, group⟩) := by
    rw [List.map_map]
    refine List.map_congr_left fun r hr => ?_
    rw [GroupedRules.get_ofRules, List.mem_filter, decide_eq_true_iff] at hr
    rw [hr.2]
    rfl
  have hperm := Group.indices_outcomes_perm options.resourcesPath hnone
  unfold placedGroup
  rw [hplace, List.flatMap_map]
  show ((group.outcomes options.resourcesPath _).flatMap fun outcome =>
    outcome.indices.map (Origin.mk ⟨position, filter.id, group⟩)).Perm _
  rw [← List.map_flatMap]
  exact hperm.map _

theorem origins_placedFilter_perm {filter : Filter} (position : Nat)
    (h : ∀ r ∈ filter.rules, r.rule.isBadfilter = false) :
    ((options.placedFilter filter position).flatMap Origin.ofOutcome).Perm
      (Origin.ofFilter filter position) := by
  unfold placedFilter Origin.ofFilter
  rw [List.flatMap_assoc]
  have hgroups := List.Perm.flatMap_left Group.all fun group _ =>
    origins_placedGroup_perm options position group h
  refine hgroups.trans ?_
  rw [← List.map_flatMap]
  exact (GroupedRules.toList_ofRules_perm filter.rules).map _

/-- The outcomes of a batch without badfilter rules account for each of its rules once. -/
theorem origins_placed_perm {filters : List Filter}
    (h : ∀ filter ∈ filters, ∀ r ∈ filter.rules, r.rule.isBadfilter = false) :
    ((options.placed filters).flatMap Origin.ofOutcome).Perm (origins filters) := by
  unfold placed origins
  rw [List.flatMap_assoc]
  refine List.Perm.flatMap_left _ fun entry hentry => ?_
  have hfilter : entry.1 ∈ filters := by
    rw [← List.zipIdx_map_fst 0 filters]
    exact List.mem_map_of_mem hentry
  exact origins_placedFilter_perm options entry.2 (h entry.1 hfilter)

/-! ## Order -/

theorem place_of_mem_placedGroup {filter : Filter} {position : Nat} {group : Group}
    {part : Place × Outcome} (h : part ∈ options.placedGroup filter position group) :
    part.1 = ⟨position, filter.id, group⟩ := by
  obtain ⟨outcome, -, rfl⟩ := List.mem_map.mp h
  rfl

theorem position_of_mem_placedFilter {filter : Filter} {position : Nat} {part : Place × Outcome}
    (h : part ∈ options.placedFilter filter position) : part.1.position = position := by
  obtain ⟨group, -, hpart⟩ := List.mem_flatMap.mp h
  rw [place_of_mem_placedGroup options hpart]

theorem placedFilter_pairwise (filter : Filter) (position : Nat) :
    (options.placedFilter filter position).Pairwise fun a b => a.1.le b.1 := by
  have hranks : Group.all.Pairwise fun g h => g.rank ≤ h.rank := by decide
  unfold placedFilter
  rw [List.pairwise_flatMap]
  constructor
  · intro group _
    refine List.pairwise_of_forall_mem_list fun a ha b hb => ?_
    rw [place_of_mem_placedGroup options ha, place_of_mem_placedGroup options hb]
    exact Place.le_refl _
  · refine hranks.imp fun {g h} hrank a ha b hb => ?_
    rw [place_of_mem_placedGroup options ha, place_of_mem_placedGroup options hb]
    exact Or.inr ⟨rfl, hrank⟩

/-- Outcomes come in the order of conversion. -/
theorem placed_pairwise (filters : List Filter) :
    (options.placed filters).Pairwise fun a b => a.1.le b.1 := by
  have hpositions : filters.zipIdx.Pairwise fun a b => a.2 < b.2 := by
    rw [← List.pairwise_map, List.zipIdx_map_snd]
    exact List.pairwise_lt_range'
  unfold placed
  rw [List.pairwise_flatMap]
  constructor
  · intro entry _
    exact placedFilter_pairwise options entry.1 entry.2
  · refine hpositions.imp fun {x y} hlt a ha b hb => ?_
    rw [← position_of_mem_placedFilter options ha, ← position_of_mem_placedFilter options hb] at hlt
    exact Or.inl hlt

/-! ## Drafts -/

/-- Outcomes that are drafts have a source, and they report on their sources only. -/
theorem grounded_of_mem_placed {filters : List Filter} {place : Place} {draft : Draft}
    (h : (place, .emit draft) ∈ options.placed filters) : draft.Grounded := by
  obtain ⟨entry, -, hfilter⟩ := List.mem_flatMap.mp h
  obtain ⟨group, -, hgroup⟩ := List.mem_flatMap.mp hfilter
  obtain ⟨outcome, houtcome, heq⟩ := List.mem_map.mp hgroup
  have hemit : outcome = .emit draft := (Prod.mk.inj heq).2
  rw [hemit] at houtcome
  exact Group.grounded_of_mem_outcomes houtcome

end Options

/-- The sources of drafts are among the rules that the outcomes are about. -/
theorem Origin.ofDraft_sublist_ofOutcome (outcomes : List (Place × Outcome)) :
    ((draftsOf outcomes).flatMap ofDraft).Sublist (outcomes.flatMap ofOutcome) := by
  induction outcomes with
  | nil => exact List.Sublist.refl _
  | cons part rest ih =>
    obtain ⟨place, outcome⟩ := part
    cases outcome with
    | reject index reason => exact ih.trans (List.sublist_append_right _ _)
    | emit draft => exact ih.append_left _

/-! ## Numbered drafts at their places -/

/-- The drafts among outcomes, with ids from `next` upwards, each with its place. -/
def numberPlaced (next : Nat) : List (Place × Outcome) → List (Place × Numbered)
  | [] => []
  | (_, .reject ..) :: rest => numberPlaced next rest
  | (place, .emit draft) :: rest =>
    (place, ⟨place.filterId, UInt32.ofNat next, draft⟩) :: numberPlaced (next + 1) rest

/-- The entries of a numbered draft, each with the rule of the batch that it is about. -/
def placedEntries (part : Place × Numbered) : List (Source × Origin) :=
  part.2.draft.sources.map fun index => (⟨part.2.filterId, index, part.2.id⟩, ⟨part.1, index⟩)

theorem fst_placedEntries (part : Place × Numbered) :
    (placedEntries part).map Prod.fst = part.2.entries := by
  rw [placedEntries, List.map_map]
  rfl

theorem snd_placedEntries (part : Place × Numbered) :
    (placedEntries part).map Prod.snd = Origin.ofDraft (part.1, part.2.draft) := by
  rw [placedEntries, List.map_map]
  rfl

/-- Places do not matter to the ids. -/
theorem snd_numberPlaced (next : Nat) (outcomes : List (Place × Outcome)) :
    (numberPlaced next outcomes).map Prod.snd =
      numberedFrom next (outcomes.map fun part => (part.1.filterId, part.2)) := by
  induction next, outcomes using numberPlaced.induct with
  | case1 => rfl
  | case2 next place index reason rest ih => exact ih
  | case3 next place draft rest ih => exact congrArg _ ih

theorem drafts_numberPlaced (next : Nat) (outcomes : List (Place × Outcome)) :
    (numberPlaced next outcomes).map (fun part => (part.1, part.2.draft)) = draftsOf outcomes := by
  induction next, outcomes using numberPlaced.induct with
  | case1 => rfl
  | case2 next place index reason rest ih => exact ih
  | case3 next place draft rest ih => exact congrArg _ ih

theorem mem_of_mem_numberPlaced {next : Nat} {outcomes : List (Place × Outcome)}
    {part : Place × Numbered} (h : part ∈ numberPlaced next outcomes) :
    (part.1, .emit part.2.draft) ∈ outcomes := by
  have hdraft : (part.1, part.2.draft) ∈ draftsOf outcomes := by
    rw [← drafts_numberPlaced next]
    exact List.mem_map_of_mem h
  exact mem_draftsOf.mp hdraft

theorem filterId_of_mem_numberPlaced {next : Nat} {outcomes : List (Place × Outcome)}
    {part : Place × Numbered} (h : part ∈ numberPlaced next outcomes) :
    part.2.filterId = part.1.filterId := by
  induction next, outcomes using numberPlaced.induct with
  | case1 => cases h
  | case2 next place index reason rest ih => exact ih h
  | case3 next place draft rest ih =>
    rcases List.mem_cons.mp h with rfl | hrest
    · rfl
    · exact ih hrest

/-- Numbered drafts come in the order of conversion. -/
theorem numberPlaced_pairwise (options : Options) (filters : List Filter) (next : Nat) :
    (numberPlaced next (options.placed filters)).Pairwise fun a b => a.1.le b.1 := by
  have hdrafts : (draftsOf (options.placed filters)).Pairwise fun a b => a.1.le b.1 := by
    unfold draftsOf
    refine (options.placed_pairwise filters).filterMap _ fun a b hle x hx y hy => ?_
    obtain ⟨_, -, rfl⟩ := Option.map_eq_some_iff.mp hx
    obtain ⟨_, -, rfl⟩ := Option.map_eq_some_iff.mp hy
    exact hle
  rw [← drafts_numberPlaced next, List.pairwise_map] at hdrafts
  exact hdrafts

end Blocklist
