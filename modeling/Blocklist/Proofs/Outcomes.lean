import Mathlib.Data.List.Basic
import Mathlib.Data.List.Perm.Basic
import Blocklist.Conversion.OfGroup
import Blocklist.Proofs.Fallible

/-! # What becomes of the rules of a group

Every rule of a group is a source of exactly one outcome: it is rejected, or it goes into one draft.
The groups that merge rules defer their drafts, so that this is said up to the order.

* `Bucket.members_collect_perm`: buckets hold each contribution once;
* `Csp.isOf_of_contribution` and its siblings: what a rule brings into its bucket;
* `Group.indices_outcomes_perm`: the outcomes of a group account for its rules;
* `Group.grounded_of_mem_outcomes`: a draft has a source, and it reports on its sources only;
* `Group.reject_mem_outcomes`: a rule that its group does not convert is rejected.
-/

namespace Blocklist

/-- Positions of the source rules that the outcome is about. -/
def Outcome.indices : Outcome → List UInt32
  | reject index _ => [index]
  | emit draft => draft.sources

/-- The draft has a source, and its reports are about its sources. -/
structure Draft.Grounded (draft : Draft) : Prop where
  sourced : draft.sources ≠ []
  noted : ∀ note ∈ draft.notes, note.1 ∈ draft.sources

/-! ## Buckets -/

namespace Bucket

variable {α : Type}

/-- A contribution that goes into one of some buckets is one member more. -/
theorem members_add_perm (c : Contribution α) (buckets : List (Bucket α)) :
    ((add c buckets).flatMap members).Perm (c :: buckets.flatMap members) := by
  induction buckets with
  | nil => exact List.Perm.refl _
  | cons b rest ih =>
    unfold add
    -- The contribution goes to the end of this bucket, or one of the later buckets takes it.
    by_cases hkey : b.first.key = c.key
    · rw [if_pos hkey]
      have hlast : members { b with more := b.more ++ [c] } = b.members ++ [c] := rfl
      rw [List.flatMap_cons, List.flatMap_cons, hlast, List.append_assoc]
      exact List.perm_middle
    · rw [if_neg hkey, List.flatMap_cons, List.flatMap_cons]
      exact (ih.append_left b.members).trans List.perm_middle

theorem members_foldl_add_perm (contributions : List (Contribution α)) (buckets : List (Bucket α)) :
    ((contributions.foldl (fun buckets c => add c buckets) buckets).flatMap members).Perm
      (contributions ++ buckets.flatMap members) := by
  -- The buckets are general, since they grow from one contribution to the next.
  induction contributions generalizing buckets with
  | nil => exact List.Perm.refl _
  | cons c rest ih =>
    rw [List.foldl_cons]
    have hadded := (members_add_perm c buckets).append_left rest
    exact (ih (add c buckets)).trans (hadded.trans List.perm_middle)

/-- Sorting contributions into buckets loses none of them and doubles none. -/
theorem members_collect_perm (contributions : List (Contribution α)) :
    ((collect contributions).flatMap members).Perm contributions := by
  have h := members_foldl_add_perm contributions []
  rwa [List.flatMap_nil, List.append_nil] at h

theorem grounded_draft (action : List α → Declarative.Action) (b : Bucket α) :
    (b.draft action).Grounded where
  sourced := List.cons_ne_nil _ _
  noted := by
    intro note hnote
    obtain ⟨c, hc, hreport⟩ := List.mem_filterMap.mp hnote
    have hindex : note.1 = c.index := by
      unfold Contribution.note? at hreport
      split at hreport
      · cases hreport
      · rw [← Option.some.inj hreport]
    rw [hindex]
    exact List.mem_map_of_mem hc

end Bucket

section Merged

variable {α : Type} {contribution : SourceRule → Except Rejection (Contribution α)}
  {action : List α → Declarative.Action} {rules : List SourceRule}

/-- Every rule is either rejected or contributes to a merged rule. -/
theorem rejections_append_contributions_perm
    (h : ∀ r c, contribution r = .ok c → c.index = r.index) (rules : List SourceRule) :
    ((rules.filterMap fun r =>
        match contribution r with
        | .error reason => some (Outcome.reject r.index reason)
        | .ok _ => none).flatMap Outcome.indices ++
      (rules.filterMap fun r => (contribution r).toOption).map Contribution.index).Perm
      (rules.map SourceRule.index) := by
  induction rules with
  | nil => exact List.Perm.refl _
  | cons r rest ih =>
    cases hr : contribution r with
    | error reason =>
      simp only [List.filterMap_cons, hr, Except.toOption, List.flatMap_cons, Outcome.indices,
        List.map_cons, List.cons_append]
      exact ih.cons r.index
    | ok c =>
      have hindex : c.index = r.index := h r c hr
      simp only [List.filterMap_cons, hr, Except.toOption, List.map_cons, hindex]
      exact List.perm_middle.trans (ih.cons r.index)

theorem indices_mergedOutcomes_perm (h : ∀ r c, contribution r = .ok c → c.index = r.index) :
    ((mergedOutcomes contribution action rules).flatMap Outcome.indices).Perm
      (rules.map SourceRule.index) := by
  -- The drafts come from the buckets, which hold the contributions in another order.
  have hmerged : ∀ contributions : List (Contribution α),
      (((Bucket.collect contributions).map fun b => Outcome.emit (b.draft action)).flatMap
        Outcome.indices).Perm (contributions.map Contribution.index) := by
    intro contributions
    rw [List.flatMap_map]
    show ((Bucket.collect contributions).flatMap fun b => b.members.map Contribution.index).Perm _
    rw [← List.map_flatMap]
    exact (Bucket.members_collect_perm contributions).map Contribution.index
  unfold mergedOutcomes
  rw [List.flatMap_append]
  exact ((hmerged _).append_left _).trans (rejections_append_contributions_perm h rules)

/-- A draft among merged outcomes is that of a bucket. -/
theorem exists_bucket_of_mem_mergedOutcomes {draft : Draft}
    (h : .emit draft ∈ mergedOutcomes contribution action rules) :
    ∃ b ∈ Bucket.collect (rules.filterMap fun r => (contribution r).toOption),
      draft = b.draft action := by
  rcases List.mem_append.mp h with hrejection | hmerged
  · obtain ⟨r, -, hr⟩ := List.mem_filterMap.mp hrejection
    cases hcontribution : contribution r with
    | error reason => simp [hcontribution] at hr
    | ok c => simp [hcontribution] at hr
  · obtain ⟨b, hb, hdraft⟩ := List.mem_map.mp hmerged
    exact ⟨b, hb, (Outcome.emit.inj hdraft).symm⟩

theorem grounded_of_mem_mergedOutcomes {draft : Draft}
    (h : .emit draft ∈ mergedOutcomes contribution action rules) : draft.Grounded := by
  obtain ⟨b, -, rfl⟩ := exists_bucket_of_mem_mergedOutcomes h
  exact b.grounded_draft action

/-- A rule that does not contribute is rejected. -/
theorem reject_mem_mergedOutcomes {r : SourceRule} (hr : r ∈ rules) {reason : Rejection}
    (h : contribution r = .error reason) :
    .reject r.index reason ∈ mergedOutcomes contribution action rules := by
  refine List.mem_append_left _ (List.mem_filterMap.mpr ⟨r, hr, ?_⟩)
  rw [h]

end Merged

/-! ## Groups -/

/-- What a rule brings along, apart from its part of the action. The group may still change the
condition of the rule before it is merged. -/
structure Contribution.IsOf {α : Type} (finish : Declarative.Condition → Declarative.Condition)
    (r : SourceRule) (c : Contribution α) : Prop where
  condition : ∃ condition, r.rule.condition = .ok condition ∧ c.condition = finish condition
  priority : c.priority = r.rule.priority
  dropped : c.dropped = r.rule.droppedDomains
  index : c.index = r.index

theorem Contribution.isOf_ofRule {α : Type} {r : SourceRule} {condition : Declarative.Condition}
    (h : r.rule.condition = .ok condition)
    (finish : Declarative.Condition → Declarative.Condition) (item : α) :
    (Contribution.ofRule r (finish condition) item).IsOf finish r where
  condition := ⟨condition, h, rfl⟩
  priority := rfl
  dropped := rfl
  index := rfl

/-- A contribution that is made from the condition of a rule is one of the rule. -/
theorem Contribution.isOf_of_map {α : Type} {r : SourceRule} {c : Contribution α}
    {finish : Declarative.Condition → Declarative.Condition} {item : α}
    (h : (r.rule.condition.map fun condition => .ofRule r (finish condition) item) = .ok c) :
    c.IsOf finish r := by
  obtain ⟨condition, hcondition, rfl⟩ := exists_ok_of_map h
  exact isOf_ofRule hcondition finish item

theorem Csp.isOf_of_contribution {r : SourceRule} {c : Contribution String}
    (h : contribution r = .ok c) : c.IsOf documentTypes r := by
  unfold contribution at h
  split at h
  · split at h
    · cases h
    · exact Contribution.isOf_of_map h
  · cases h

theorem RemoveParam.isOf_of_contribution {r : SourceRule} {c : Contribution (Option String)}
    (h : contribution r = .ok c) : c.IsOf id r := by
  unfold contribution at h
  split at h
  · split at h
    · cases h
    · split at h
      · cases h
      · cases h
      · exact Contribution.isOf_of_map h
      · exact Contribution.isOf_of_map h
  · cases h

theorem RemoveHeader.isOf_of_contribution {r : SourceRule} {c : Contribution HeaderTarget}
    (h : contribution r = .ok c) : c.IsOf id r := by
  unfold contribution at h
  split at h
  · dsimp only at h
    split at h
    · cases h
    · split at h
      · cases h
      · split at h
        · cases h
        · exact Contribution.isOf_of_map h
  · cases h

namespace Regular

variable {resources : Option String}

/-- A draft is made of the action and the condition of its one rule. -/
theorem of_draft_eq_ok {r : SourceRule} {d : Draft} (h : draft resources r = .ok d) :
    action resources r.rule = .ok d.action ∧ r.rule.condition = .ok d.condition ∧
      d.priority = r.rule.priority ∧ d.sources = [r.index] ∧
      ∀ note ∈ d.notes, note.1 = r.index := by
  unfold draft at h
  obtain ⟨act, haction, hrest⟩ := exists_ok_of_bind h
  obtain ⟨condition, hcondition, hmade⟩ := exists_ok_of_bind hrest
  cases hmade
  refine ⟨haction, hcondition, rfl, rfl, fun note hnote => ?_⟩
  dsimp only at hnote
  split at hnote
  · cases hnote
  · rw [List.mem_singleton.mp hnote]

/-- A draft among the outcomes is that of a rule. -/
theorem exists_rule_of_mem_outcomes {rules : List SourceRule} {d : Draft}
    (h : .emit d ∈ outcomes resources rules) : ∃ r ∈ rules, draft resources r = .ok d := by
  obtain ⟨r, hmem, hr⟩ := List.mem_map.mp h
  cases hdraft : draft resources r with
  | error reason => simp [hdraft] at hr
  | ok made =>
    simp only [hdraft, Outcome.emit.injEq] at hr
    exact ⟨r, hmem, by rw [hdraft, hr]⟩

theorem indices_outcomes (resources : Option String) (rules : List SourceRule) :
    (outcomes resources rules).flatMap Outcome.indices = rules.map SourceRule.index := by
  unfold outcomes
  rw [List.flatMap_map, List.map_eq_flatMap]
  refine List.flatMap_congr fun r _ => ?_
  cases hr : draft resources r with
  | error reason => rfl
  | ok d =>
    obtain ⟨-, -, -, hsources, -⟩ := of_draft_eq_ok hr
    exact hsources

theorem grounded_of_mem_outcomes {rules : List SourceRule} {d : Draft}
    (h : .emit d ∈ outcomes resources rules) : d.Grounded := by
  obtain ⟨r, -, hdraft⟩ := exists_rule_of_mem_outcomes h
  obtain ⟨-, -, -, hsources, hnotes⟩ := of_draft_eq_ok hdraft
  constructor
  · rw [hsources]
    exact List.cons_ne_nil _ _
  · intro note hnote
    rw [hsources, hnotes note hnote]
    exact List.mem_singleton_self _

end Regular

namespace Group

variable {resources : Option String} {group : Group} {rules : List SourceRule}

/-- The outcomes of a group account for each of its rules once. Badfilter rules have no outcome. -/
theorem indices_outcomes_perm (resources : Option String)
    (h : group = .badFilter → rules = []) :
    ((group.outcomes resources rules).flatMap Outcome.indices).Perm
      (rules.map SourceRule.index) := by
  cases group with
  | regular => exact List.Perm.of_eq (Regular.indices_outcomes resources rules)
  | csp =>
    refine indices_mergedOutcomes_perm fun r c h => ?_
    exact (Csp.isOf_of_contribution h).index
  | removeParam =>
    refine indices_mergedOutcomes_perm fun r c h => ?_
    exact (RemoveParam.isOf_of_contribution h).index
  | removeHeader =>
    refine indices_mergedOutcomes_perm fun r c h => ?_
    exact (RemoveHeader.isOf_of_contribution h).index
  | badFilter =>
    rw [h rfl]
    exact List.Perm.refl _

theorem grounded_of_mem_outcomes {draft : Draft}
    (h : .emit draft ∈ group.outcomes resources rules) : draft.Grounded := by
  cases group with
  | regular => exact Regular.grounded_of_mem_outcomes h
  | csp => exact grounded_of_mem_mergedOutcomes h
  | removeParam => exact grounded_of_mem_mergedOutcomes h
  | removeHeader => exact grounded_of_mem_mergedOutcomes h
  | badFilter => cases h

/-- Whether a group converts a rule, or why it does not. -/
def verdict (resources : Option String) (group : Group) (r : SourceRule) :
    Except Rejection Unit :=
  match group with
  | .regular => (Regular.draft resources r).map fun _ => ()
  | .csp => (Csp.contribution r).map fun _ => ()
  | .removeParam => (RemoveParam.contribution r).map fun _ => ()
  | .removeHeader => (RemoveHeader.contribution r).map fun _ => ()
  | .badFilter => .ok ()

/-- A rule that its group does not convert is rejected. -/
theorem reject_mem_outcomes {r : SourceRule} (hr : r ∈ rules) {reason : Rejection}
    (h : group.verdict resources r = .error reason) :
    .reject r.index reason ∈ group.outcomes resources rules := by
  cases group with
  | regular =>
    have hdraft : Regular.draft resources r = .error reason := eq_error_of_map h
    refine List.mem_map.mpr ⟨r, hr, ?_⟩
    rw [hdraft]
  | csp => exact reject_mem_mergedOutcomes hr (eq_error_of_map h)
  | removeParam => exact reject_mem_mergedOutcomes hr (eq_error_of_map h)
  | removeHeader => exact reject_mem_mergedOutcomes hr (eq_error_of_map h)
  | badFilter => cases h

end Group

end Blocklist
