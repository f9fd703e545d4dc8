import Mathlib.Algebra.GroupWithZero.Nat
import Mathlib.Data.List.Basic
import Blocklist.Proofs.Erasure
import Blocklist.Proofs.Numbering

/-! # Handing out ids in turn

A conversion numbers all drafts of a batch at once. Here the ids are handed out one by one instead,
by a cursor that is checked each time it moves, first for the outcomes of a group and then for the
groups of a batch.

* `number_append`, `number_add`: a sum is numbered part by part, and a later start adds to all ids;
* `foldlM_numberNext`: the cursor of one part goes on where that of the part before has stopped;
* `foldlM_convertNext`: the groups of a batch hand the cursor on, and none of them can fail but for
  the ids;
* `emitInTurn_eq`, `convert_eq_convertInTurn`: in turn or at once, the result is the same;
* `ids_dense`: the ids have no gaps, and when they do not suffice.
-/

namespace Blocklist

open Badfilter

/-! ## Ids that are increased -/

/-- The rule with a larger id. -/
def Declarative.Rule.shift (n : UInt32) (rule : Declarative.Rule) : Declarative.Rule :=
  { rule with id := n + rule.id }

/-- The entry of a rule with a larger id. -/
def Source.shift (n : UInt32) (source : Source) : Source :=
  { source with declarativeId := n + source.declarativeId }

/-- The error of a rule with a larger id. An error that belongs to no rule stays as it is. -/
def ConversionError.shift (n : UInt32) : ConversionError → ConversionError
  | unsupported filterId index reason => unsupported filterId index reason
  | degraded id filterId index reason => degraded (n + id) filterId index reason

namespace Converted

/-- All ids of declarative rules increased, wherever they stand. -/
def shift (n : UInt32) (converted : Converted) : Converted where
  rules := converted.rules.map (.shift n)
  sourceMap := converted.sourceMap.map (.shift n)
  errors := converted.errors.map (.shift n)

@[simp] theorem empty_append (a : Converted) : ({} : Converted) ++ a = a := rfl

@[simp] theorem append_empty (a : Converted) : a ++ ({} : Converted) = a := by
  show (⟨a.rules ++ [], a.sourceMap ++ [], a.errors ++ []⟩ : Converted) = a
  rw [List.append_nil, List.append_nil, List.append_nil]

theorem append_assoc (a b c : Converted) : a ++ b ++ c = a ++ (b ++ c) := by
  show (⟨a.rules ++ b.rules ++ c.rules, a.sourceMap ++ b.sourceMap ++ c.sourceMap,
    a.errors ++ b.errors ++ c.errors⟩ : Converted) =
      ⟨a.rules ++ (b.rules ++ c.rules), a.sourceMap ++ (b.sourceMap ++ c.sourceMap),
        a.errors ++ (b.errors ++ c.errors)⟩
  rw [List.append_assoc, List.append_assoc, List.append_assoc]

theorem shift_append (n : UInt32) (a b : Converted) :
    (a ++ b).shift n = a.shift n ++ b.shift n := by
  show (⟨(a.rules ++ b.rules).map _, (a.sourceMap ++ b.sourceMap).map _,
    (a.errors ++ b.errors).map _⟩ : Converted) = _
  rw [List.map_append, List.map_append, List.map_append]
  rfl

theorem shift_withId (n id filterId : UInt32) (draft : Draft) :
    (draft.withId filterId id).shift n = draft.withId filterId (n + id) := by
  unfold shift Draft.withId
  rw [List.map_map, List.map_map]
  rfl

end Converted

theorem draftCount_append (xs ys : List Outcome) :
    draftCount (xs ++ ys) = draftCount xs + draftCount ys := by
  unfold draftCount
  rw [List.filterMap_append, List.length_append]

/-- A sum of outcomes is numbered part by part. -/
theorem number_append (next : Nat) (xs ys : List (UInt32 × Outcome)) :
    Converted.number next (xs ++ ys) =
      Converted.number next xs ++
        Converted.number (next + draftCount (xs.map Prod.snd)) ys := by
  induction next, xs using numberedFrom.induct with
  | case1 next => exact (Converted.empty_append _).symm
  | case2 next filterId index reason rest ih =>
    simp only [List.cons_append, Converted.number, List.map_cons, draftCount_reject, ih,
      Converted.append_assoc]
  | case3 next filterId draft rest ih =>
    have hnext : next + 1 + draftCount (rest.map Prod.snd) =
        next + (draftCount (rest.map Prod.snd) + 1) := by
      omega
    simp only [List.cons_append, Converted.number, List.map_cons, draftCount_emit, ih, hnext,
      Converted.append_assoc]

/-- Numbering from a later id on adds to all ids. -/
theorem number_add (n m : Nat) (outcomes : List (UInt32 × Outcome)) :
    Converted.number (n + m) outcomes =
      (Converted.number m outcomes).shift (UInt32.ofNat n) := by
  induction m, outcomes using numberedFrom.induct with
  | case1 m => rfl
  | case2 m filterId index reason rest ih =>
    simp only [Converted.number, Converted.shift_append, ih]
    rfl
  | case3 m filterId draft rest ih =>
    have hid : UInt32.ofNat (n + m) = UInt32.ofNat n + UInt32.ofNat m := UInt32.ofNat_add n m
    simp only [Converted.number, Converted.shift_append, Converted.shift_withId, ← ih, hid,
      Nat.add_assoc]

/-! ## The cursor -/

theorem numberFrom_eq_ok {start : UInt32} {outcomes : List (UInt32 × Outcome)}
    (h : start.toNat + draftCount (outcomes.map Prod.snd) < UInt32.size) :
    numberFrom start outcomes =
      .ok (.number start.toNat outcomes,
        UInt32.ofNat (start.toNat + draftCount (outcomes.map Prod.snd))) :=
  if_pos h

theorem numberFrom_eq_error {start : UInt32} {outcomes : List (UInt32 × Outcome)}
    (h : ¬ start.toNat + draftCount (outcomes.map Prod.snd) < UInt32.size) :
    numberFrom start outcomes = .error .idsExhausted :=
  if_neg h

/-- Numbers one more part with the ids from the cursor on, and puts it behind what is there. -/
def numberNext (state : Converted × UInt32) (outcomes : List (UInt32 × Outcome)) :
    Except Failure (Converted × UInt32) :=
  (numberFrom state.2 outcomes).map fun made => (state.1 ++ made.1, made.2)

theorem numberNext_nil (state : Converted × UInt32) : numberNext state [] = .ok state := by
  obtain ⟨done, next⟩ := state
  have hids : next.toNat + draftCount [] < UInt32.size := next.toNat_lt
  have hnext : UInt32.ofNat (next.toNat + 0) = next := UInt32.ofNat_toNat
  unfold numberNext
  rw [numberFrom_eq_ok hids]
  simp only [Except.map, Converted.number, Converted.append_empty, List.map_nil, draftCount_nil,
    hnext]

/-- The cursor of a sum is that of its second part, which starts where the first one stops. -/
theorem numberNext_append (state : Converted × UInt32) (xs ys : List (UInt32 × Outcome)) :
    numberNext state (xs ++ ys) = (numberNext state xs).bind fun made => numberNext made ys := by
  obtain ⟨done, start⟩ := state
  have hsum : draftCount ((xs ++ ys).map Prod.snd) =
      draftCount (xs.map Prod.snd) + draftCount (ys.map Prod.snd) := by
    rw [List.map_append, draftCount_append]
  unfold numberNext
  by_cases hxs : start.toNat + draftCount (xs.map Prod.snd) < UInt32.size
  · have hnext : (UInt32.ofNat (start.toNat + draftCount (xs.map Prod.snd))).toNat =
        start.toNat + draftCount (xs.map Prod.snd) := UInt32.toNat_ofNat_of_lt' hxs
    rw [numberFrom_eq_ok hxs]
    by_cases hall : start.toNat + draftCount ((xs ++ ys).map Prod.snd) < UInt32.size
    · have hys : (UInt32.ofNat (start.toNat + draftCount (xs.map Prod.snd))).toNat +
          draftCount (ys.map Prod.snd) < UInt32.size := by
        omega
      rw [numberFrom_eq_ok hall]
      simp only [Except.map, Except.bind]
      rw [numberFrom_eq_ok hys, hnext, number_append, hsum, Nat.add_assoc]
      simp only [Converted.append_assoc]
    · have hys : ¬ (UInt32.ofNat (start.toNat + draftCount (xs.map Prod.snd))).toNat +
          draftCount (ys.map Prod.snd) < UInt32.size := by
        omega
      rw [numberFrom_eq_error hall]
      simp only [Except.map, Except.bind]
      rw [numberFrom_eq_error hys]
  · -- The first part already takes more ids than there are.
    have hall : ¬ start.toNat + draftCount ((xs ++ ys).map Prod.snd) < UInt32.size := by omega
    rw [numberFrom_eq_error hxs, numberFrom_eq_error hall]
    rfl

/-- Parts that are numbered in turn are numbered as if they were one. -/
theorem foldlM_numberNext {α : Type} (part : α → List (UInt32 × Outcome)) (parts : List α)
    (state : Converted × UInt32) :
    parts.foldlM (fun state p => numberNext state (part p)) state =
      numberNext state (parts.flatMap part) := by
  induction parts generalizing state with
  | nil => exact (numberNext_nil state).symm
  | cons p rest ih =>
    rw [List.foldlM_cons, List.flatMap_cons, numberNext_append]
    exact congrArg _ (funext ih)

/-- Takes in one outcome of a filter. A draft uses up the id at the cursor, and there has to be an
id after it. A rejection uses up none. -/
def emitNext (state : Converted × UInt32) :
    UInt32 × Outcome → Except Failure (Converted × UInt32)
  | (filterId, .reject index reason) =>
    .ok (state.1 ++ { errors := [.unsupported filterId index reason.message] }, state.2)
  | (filterId, .emit draft) =>
    if state.2.toNat + 1 = UInt32.size then .error .idsExhausted
    else .ok (state.1 ++ draft.withId filterId state.2, state.2 + 1)

/-- Takes in outcomes one by one. -/
def emitInTurn (start : UInt32) (outcomes : List (UInt32 × Outcome)) :
    Except Failure (Converted × UInt32) :=
  outcomes.foldlM emitNext ({}, start)

/-- One step of the cursor numbers one outcome. -/
theorem emitNext_eq (state : Converted × UInt32) (part : UInt32 × Outcome) :
    emitNext state part = numberNext state [part] := by
  obtain ⟨done, next⟩ := state
  obtain ⟨filterId, outcome⟩ := part
  unfold numberNext
  cases outcome with
  | reject index reason =>
    have hids : next.toNat + draftCount ([(filterId, Outcome.reject index reason)].map Prod.snd) <
        UInt32.size := next.toNat_lt
    have hnext : UInt32.ofNat (next.toNat + 0) = next := UInt32.ofNat_toNat
    rw [numberFrom_eq_ok hids]
    simp only [emitNext, Except.map, Converted.number, Converted.append_empty, List.map_cons,
      List.map_nil, draftCount_reject, draftCount_nil, hnext]
  | emit draft =>
    have hcount : draftCount ([(filterId, Outcome.emit draft)].map Prod.snd) = 1 := rfl
    have hlt : next.toNat < UInt32.size := next.toNat_lt
    by_cases hlast : next.toNat + 1 = UInt32.size
    · have hids : ¬ next.toNat + draftCount ([(filterId, Outcome.emit draft)].map Prod.snd) <
          UInt32.size := by
        omega
      rw [numberFrom_eq_error hids]
      exact if_pos hlast
    · have hids : next.toNat + draftCount ([(filterId, Outcome.emit draft)].map Prod.snd) <
          UInt32.size := by
        omega
      have hnext : UInt32.ofNat (next.toNat + 1) = next + 1 := by
        rw [UInt32.ofNat_add, UInt32.ofNat_toNat]
        rfl
      rw [numberFrom_eq_ok hids, hcount, hnext]
      simp only [emitNext, if_neg hlast, Except.map, Converted.number, UInt32.ofNat_toNat,
        Converted.append_empty]

/-- All outcomes at once are numbered as they are one by one. -/
theorem emitInTurn_eq (start : UInt32) (outcomes : List (UInt32 × Outcome)) :
    emitInTurn start outcomes = numberFrom start outcomes := by
  have hstep : emitNext = fun state part => numberNext state [part] := by
    funext state part
    exact emitNext_eq state part
  have hparts : outcomes.flatMap (fun part => [part]) = outcomes := by
    rw [← List.map_eq_flatMap, List.map_id']
  unfold emitInTurn
  rw [hstep, foldlM_numberNext, hparts]
  unfold numberNext
  simp only [Converted.empty_append]
  cases numberFrom start outcomes <;> rfl

/-! ## Groups and batches -/

theorem convertGroup_eq {group : Group} {rules : List SourceRule}
    (resolved : group = .badFilter → rules = []) (resources : Option String)
    (filterId start : UInt32) :
    convertGroup resources group filterId start rules =
      numberFrom start
        ((group.outcomes resources rules).map fun outcome => (filterId, outcome)) := by
  unfold convertGroup
  exact if_neg fun h => h.2 (resolved h.1)

/-- The rules of one group of a filter, with the id of the filter. -/
structure GroupOfFilter where
  filterId : UInt32
  group : Group
  rules : List SourceRule

namespace GroupOfFilter

/-- Outcomes of the rules, each with the id of the filter. -/
def outcomes (resources : Option String) (part : GroupOfFilter) : List (UInt32 × Outcome) :=
  (part.group.outcomes resources part.rules).map fun outcome => (part.filterId, outcome)

/-- Converts one more group with the ids from the cursor on. -/
def convertNext (resources : Option String) (state : Converted × UInt32) (part : GroupOfFilter) :
    Except Failure (Converted × UInt32) :=
  (convertGroup resources part.group part.filterId state.2 part.rules).map fun made =>
    (state.1 ++ made.1, made.2)

/-- The groups of a batch in the order of conversion. -/
def ofBatch (filters : List GroupedFilter) : List GroupOfFilter :=
  filters.flatMap fun filter =>
    Group.all.map fun group => ⟨filter.id, group, filter.groups.get group⟩

theorem flatMap_outcomes_ofBatch (resources : Option String) (filters : List GroupedFilter) :
    (ofBatch filters).flatMap (outcomes resources) =
      (filters.map (FilterSections.ofFilter resources)).flatMap FilterSections.outcomes := by
  unfold ofBatch
  rw [List.flatMap_assoc, List.flatMap_map]
  refine List.flatMap_congr fun filter _ => ?_
  unfold FilterSections.outcomes FilterSections.ofFilter
  rw [List.flatMap_map, List.flatMap_map]
  rfl

/-- Every rule belongs to the group, and none is a badfilter rule. -/
def Sorted (part : GroupOfFilter) : Prop :=
  ∀ r ∈ part.rules, Group.of r.rule = part.group ∧ r.rule.isBadfilter = false

theorem sorted_of_mem_ofBatch {filters : List Filter}
    (hbad : ∀ filter ∈ filters, ∀ r ∈ filter.rules, r.rule.isBadfilter = false)
    {part : GroupOfFilter} (h : part ∈ ofBatch (filters.map .ofFilter)) : part.Sorted := by
  obtain ⟨grouped, hgrouped, hpart⟩ := List.mem_flatMap.mp h
  obtain ⟨filter, hfilter, rfl⟩ := List.mem_map.mp hgrouped
  obtain ⟨group, -, rfl⟩ := List.mem_map.mp hpart
  intro r hr
  obtain ⟨hmem, hof⟩ := GroupedRules.mem_get_ofRules.mp hr
  exact ⟨hof, hbad filter hfilter r hmem⟩

/-- If the badfilter rules are resolved, a group is converted as any part is numbered. -/
theorem convertNext_eq {resources : Option String} {part : GroupOfFilter}
    (resolved : part.group = .badFilter → part.rules = []) (state : Converted × UInt32) :
    convertNext resources state part = numberNext state (part.outcomes resources) := by
  unfold convertNext
  rw [convertGroup_eq resolved]
  rfl

/-- Groups that are converted one after the other are numbered as if they were one part. -/
theorem foldlM_convertNext {resources : Option String} {parts : List GroupOfFilter}
    (resolved : ∀ part ∈ parts, part.group = .badFilter → part.rules = [])
    (state : Converted × UInt32) :
    parts.foldlM (convertNext resources) state =
      numberNext state (parts.flatMap (outcomes resources)) := by
  rw [← foldlM_numberNext]
  induction parts generalizing state with
  | nil => rfl
  | cons part rest ih =>
    have hrest := ih fun p hp => resolved p (List.mem_cons_of_mem part hp)
    rw [List.foldlM_cons, List.foldlM_cons, convertNext_eq (resolved part List.mem_cons_self)]
    exact congrArg _ (funext hrest)

/-- After a resolution no badfilter rule is left in any group. -/
theorem resolved_of_mem_ofBatch {grouped : List GroupedFilter} {part : GroupOfFilter}
    (h : part ∈ ofBatch (resolve grouped).1) : part.group = .badFilter → part.rules = [] := by
  obtain ⟨filter, hfilter, hpart⟩ := List.mem_flatMap.mp h
  obtain ⟨group, -, rfl⟩ := List.mem_map.mp hpart
  rintro rfl
  exact get_badFilter_of_mem_resolve hfilter

end GroupOfFilter

open GroupOfFilter

/-- The outcomes of a batch are those of its groups. -/
theorem Options.outcomes_eq_flatMap (options : Options) (filters : List Filter) :
    options.outcomes filters =
      (ofBatch (filters.map .ofFilter)).flatMap (GroupOfFilter.outcomes options.resourcesPath) := by
  rw [flatMap_outcomes_ofBatch, List.map_map]
  rfl

/-- Converts the groups of a batch one after the other. Each gets the ids that the one before has
left, and the first that cannot be converted ends the conversion. -/
def convertInTurn (options : Options) (filters : List Filter) : Except Failure Converted :=
  let groups := ofBatch (resolve (filters.map .ofFilter)).1
  (groups.foldlM (convertNext options.resourcesPath) ({}, firstId)).map Prod.fst

/-- Number of declarative rules that the groups of a batch become before any limit is enforced. -/
def emittedRules (options : Options) (filters : List Filter) : Nat :=
  ((ofBatch (resolve (filters.map .ofFilter)).1).map fun part =>
    draftCount (part.group.outcomes options.resourcesPath part.rules)).sum

theorem convertInTurn_eq (options : Options) (filters : List Filter) :
    convertInTurn options filters =
      (numberFrom firstId ((ofBatch (resolve (filters.map .ofFilter)).1).flatMap
        (outcomes options.resourcesPath))).map Prod.fst := by
  unfold convertInTurn
  dsimp only
  rw [foldlM_convertNext fun part => resolved_of_mem_ofBatch]
  unfold numberNext
  cases numberFrom firstId ((ofBatch (resolve (filters.map .ofFilter)).1).flatMap
    (outcomes options.resourcesPath)) <;> rfl

/-- A batch that is converted at once has the result of one that is converted group by group. -/
theorem convert_eq_convertInTurn (options : Options) (filters : List Filter) :
    (convert options filters).map Run.result =
      (convertInTurn options filters).map options.limits.enforce := by
  rw [convertInTurn_eq, flatMap_outcomes_ofBatch]
  unfold convert
  dsimp only
  cases numberFrom firstId (((resolve (filters.map .ofFilter)).1.map
    (FilterSections.ofFilter options.resourcesPath)).flatMap FilterSections.outcomes) <;> rfl

theorem draftCount_flatMap_outcomes (resources : Option String) (parts : List GroupOfFilter) :
    draftCount ((parts.flatMap (outcomes resources)).map Prod.snd) =
      (parts.map fun part => draftCount (part.group.outcomes resources part.rules)).sum := by
  induction parts with
  | nil => rfl
  | cons part rest ih =>
    have hpart : (part.outcomes resources).map Prod.snd =
        part.group.outcomes resources part.rules := by
      unfold outcomes
      rw [List.map_map]
      exact List.map_id' _
    rw [List.flatMap_cons, List.map_append, draftCount_append, ih, hpart, List.map_cons,
      List.sum_cons]

theorem emittedRules_eq (options : Options) (filters : List Filter) :
    emittedRules options filters =
      draftCount ((options.outcomes (erase filters)).map Prod.snd) := by
  unfold emittedRules Options.outcomes Options.sections
  rw [← draftCount_flatMap_outcomes, flatMap_outcomes_ofBatch, resolve_ofFilter, List.map_map]
  rfl

/-- A group can be converted unless it is one of unresolved badfilter rules or the ids do not
suffice. -/
theorem convertGroup_eq_unresolved_iff {resources : Option String} {group : Group}
    {filterId start : UInt32} {rules : List SourceRule} :
    convertGroup resources group filterId start rules = .error .unresolvedBadfilters ↔
      group = .badFilter ∧ rules ≠ [] := by
  constructor
  · intro h
    by_contra hresolved
    rw [not_and_not_right] at hresolved
    rw [convertGroup_eq hresolved] at h
    unfold numberFrom at h
    dsimp only at h
    split at h <;> cases h
  · intro h
    exact if_pos h

/-- If the ids suffice, the ids of a group follow each other from the start on, and the start only
adds to what would be there from zero on. -/
theorem convertGroup_eq_ok {group : Group} {rules : List SourceRule}
    (resolved : group = .badFilter → rules = []) (resources : Option String)
    (filterId : UInt32) {start : UInt32}
    (enough : start.toNat + draftCount (group.outcomes resources rules) < UInt32.size) :
    ∃ converted next, convertGroup resources group filterId start rules = .ok (converted, next) ∧
      converted.rules.map (·.id.toNat) =
        List.range' start.toNat (draftCount (group.outcomes resources rules)) ∧
      next.toNat = start.toNat + draftCount (group.outcomes resources rules) ∧
      ∃ base, (convertGroup resources group filterId 0 rules).map Prod.fst = .ok base ∧
        converted = base.shift start := by
  have hcount : draftCount (((group.outcomes resources rules).map fun outcome =>
      (filterId, outcome)).map Prod.snd) = draftCount (group.outcomes resources rules) := by
    rw [List.map_map]
    exact congrArg draftCount (List.map_id' _)
  have hzero : (0 : UInt32).toNat + draftCount (((group.outcomes resources rules).map
      fun outcome => (filterId, outcome)).map Prod.snd) < UInt32.size := by
    rw [hcount, UInt32.toNat_zero]
    omega
  rw [← hcount] at enough ⊢
  rw [convertGroup_eq resolved, convertGroup_eq resolved, numberFrom_eq_ok enough,
    numberFrom_eq_ok hzero]
  refine ⟨_, _, rfl, ?_, UInt32.toNat_ofNat_of_lt' enough, _, rfl, ?_⟩
  · rw [rules_number, List.map_map]
    exact ids_numberedFrom (Nat.le_of_lt enough)
  · have hshift := number_add start.toNat 0
      ((group.outcomes resources rules).map fun outcome => (filterId, outcome))
    rwa [UInt32.ofNat_toNat] at hshift

/-- The ids of a group are handed out one by one and without gaps. They suffice if and only if the
id after the last one is an id too. In a batch the groups hand the cursor on, and the only thing
that can go wrong is that there are more declarative rules than ids. -/
theorem ids_dense :
    (∀ (resources : Option String) (group : Group) (filterId start : UInt32)
        (rules : List SourceRule), (group = .badFilter → rules = []) →
      let outcomes := group.outcomes resources rules
      let k := draftCount outcomes
      convertGroup resources group filterId start rules =
        emitInTurn start (outcomes.map fun outcome => (filterId, outcome)) ∧
      (start.toNat + k ≤ 4294967295 →
        ∃ converted next, convertGroup resources group filterId start rules =
            .ok (converted, next) ∧
          converted.rules.map (·.id.toNat) = List.range' start.toNat k ∧
          next.toNat = start.toNat + k ∧
          ∃ base, (convertGroup resources group filterId 0 rules).map Prod.fst = .ok base ∧
            converted = base.shift start) ∧
      (4294967295 < start.toNat + k →
        convertGroup resources group filterId start rules = .error .idsExhausted)) ∧
    (∀ (resources : Option String) (group : Group) (filterId start : UInt32)
        (rules : List SourceRule),
      convertGroup resources group filterId start rules = .error .unresolvedBadfilters ↔
        group = .badFilter ∧ rules ≠ []) ∧
    ∀ (options : Options) (filters : List Filter),
      (convert options filters).map Run.result =
        (convertInTurn options filters).map options.limits.enforce ∧
      convertInTurn options filters ≠ .error .unresolvedBadfilters ∧
      convert options filters ≠ .error .unresolvedBadfilters ∧
      (convert options filters = .error .idsExhausted ↔
        4294967294 < emittedRules options filters) := by
  refine ⟨fun resources group filterId start rules resolved => ⟨?_, fun hids => ?_, fun hids => ?_⟩,
    fun resources group filterId start rules => convertGroup_eq_unresolved_iff,
    fun options filters => ⟨convert_eq_convertInTurn options filters, ?_, ?_, ?_⟩⟩
  · rw [emitInTurn_eq, convertGroup_eq resolved]
  · have enough : start.toNat + draftCount (group.outcomes resources rules) < UInt32.size :=
      Nat.lt_succ_of_le hids
    exact convertGroup_eq_ok resolved resources filterId enough
  · have hlabels : ((group.outcomes resources rules).map fun outcome =>
        (filterId, outcome)).map Prod.snd = group.outcomes resources rules := by
      rw [List.map_map]
      exact List.map_id' _
    rw [convertGroup_eq resolved]
    refine numberFrom_eq_error ?_
    rw [hlabels]
    exact Nat.not_lt.mpr hids
  · rw [convertInTurn_eq]
    unfold numberFrom
    dsimp only
    split <;> exact fun h => by cases h
  · rw [convert_eq]
    split <;> exact fun h => by cases h
  · rw [emittedRules_eq, convert_eq]
    have hfirst : firstId.toNat = 1 := rfl
    have hsize : UInt32.size = 4294967296 := rfl
    by_cases hids : firstId.toNat +
        draftCount ((options.outcomes (erase filters)).map Prod.snd) < UInt32.size
    · rw [if_pos hids]
      constructor
      · exact fun h => by cases h
      · intro hover
        omega
    · rw [if_neg hids]
      exact ⟨fun _ => by omega, fun _ => rfl⟩

/-- Two policies that are merged into one declarative rule, and a rule that is rejected. -/
def samplePolicies : List SourceRule :=
  [samplePolicy 2 "sandbox", sampleBlock 4 "||ads.example^" false, samplePolicy 3 "img-src https:"]

/-- One id is used up. It can be the last but one, and it cannot be the last. -/
theorem ids_dense_sample :
    draftCount (Group.csp.outcomes none samplePolicies) = 1 ∧
    (∃ converted next, convertGroup none .csp 7 4294967294 samplePolicies = .ok (converted, next) ∧
      converted.rules.map (·.id.toNat) = [4294967294] ∧ next.toNat = 4294967295 ∧
      ∃ base, (convertGroup none .csp 7 0 samplePolicies).map Prod.fst = .ok base ∧
        converted = base.shift 4294967294) ∧
    convertGroup none .csp 7 4294967295 samplePolicies = .error .idsExhausted ∧
    emittedRules {} sampleBatch = 3 ∧ convert {} sampleBatch ≠ .error .idsExhausted := by
  have hone : draftCount (Group.csp.outcomes none samplePolicies) = 1 := by decide +kernel
  have hthree : emittedRules {} sampleBatch = 3 := by decide +kernel
  have resolved : Group.csp = .badFilter → samplePolicies = [] := fun h => by cases h
  have hfits := (ids_dense.1 none .csp 7 4294967294 samplePolicies resolved).2.1
  have hover := (ids_dense.1 none .csp 7 4294967295 samplePolicies resolved).2.2
  rw [hone] at hfits hover
  refine ⟨hone, hfits (by decide), hover (by decide), hthree, ?_⟩
  intro hfail
  have hmany := (ids_dense.2.2 {} sampleBatch).2.2.2.mp hfail
  omega

end Blocklist
