import Mathlib.Data.List.Basic
import Mathlib.Data.List.Induction
import Mathlib.Data.List.Nodup
import Blocklist.Proofs.Emission
import Blocklist.Proofs.Outcomes
import Blocklist.Proofs.Trimming

/-! # Merging is grouping by key

Buckets are filled one rule at a time, and they become declarative rules at the end. What comes out
can be said without them: one declarative rule for each key, in the order in which the keys first
appear, made of all rules that have the key.

* `Bucket.add_of_mem`, `Bucket.add_of_not_mem`: what one contribution does to the buckets;
* `Bucket.keys_collect`, `Bucket.members_collect`: the buckets when all contributions are in;
* `mergedByKey_number`: the declarative rules, entries and errors that the buckets become;
* `convertGroup_merges`: the groups that merge their rules group them by key.
-/

namespace Blocklist

/-- Of a list with one more element at the end, that element is a first occurrence or it is not. -/
theorem eraseDups_append_singleton {α : Type} [BEq α] [LawfulBEq α] (xs : List α) (x : α) :
    (xs ++ [x]).eraseDups = if x ∈ xs then xs.eraseDups else xs.eraseDups ++ [x] := by
  rw [List.eraseDups_append]
  by_cases h : x ∈ xs
  · have hnone : [x].removeAll xs = [] := by simp [List.removeAll, h]
    rw [if_pos h, hnone]
    exact List.append_nil _
  · have hone : [x].removeAll xs = [x] := by simp [List.removeAll, h]
    rw [if_neg h, hone]
    rfl

theorem nodup_eraseDups {α : Type} [BEq α] [LawfulBEq α] (xs : List α) : xs.eraseDups.Nodup := by
  induction xs using List.reverseRecOn with
  | nil => exact List.nodup_nil
  | append_singleton xs x ih =>
    rw [eraseDups_append_singleton]
    split
    · exact ih
    · next hnew =>
      rw [List.nodup_append']
      exact ⟨ih, List.nodup_singleton x, by simpa using hnew⟩

/-! ## Buckets -/

namespace Bucket

variable {α : Type}

/-- The key that all members of a bucket have. -/
def key (b : Bucket α) : Declarative.Condition × UInt32 :=
  b.first.key

/-- The bucket with one more member at the end. -/
def push (b : Bucket α) (c : Contribution α) : Bucket α :=
  { b with more := b.more ++ [c] }

@[simp] theorem key_push (b : Bucket α) (c : Contribution α) : (b.push c).key = b.key := rfl

@[simp] theorem members_push (b : Bucket α) (c : Contribution α) :
    (b.push c).members = b.members ++ [c] := rfl

/-- A contribution with a new key opens a bucket at the end. -/
theorem add_of_not_mem {c : Contribution α} {buckets : List (Bucket α)}
    (h : c.key ∉ buckets.map key) : add c buckets = buckets ++ [⟨c, []⟩] := by
  induction buckets with
  | nil => rfl
  | cons b rest ih =>
    rw [List.map_cons, List.mem_cons, not_or] at h
    have hne : ¬ b.first.key = c.key := fun heq => h.1 heq.symm
    unfold add
    rw [if_neg hne, ih h.2, List.cons_append]

/-- A contribution whose key is there goes into the one bucket that has the key. -/
theorem add_of_mem {c : Contribution α} {buckets : List (Bucket α)}
    (distinct : (buckets.map key).Nodup) (h : c.key ∈ buckets.map key) :
    add c buckets = buckets.map fun b => if b.key = c.key then b.push c else b := by
  induction buckets with
  | nil => cases h
  | cons b rest ih =>
    rw [List.map_cons, List.nodup_cons] at distinct
    unfold add
    by_cases heq : b.first.key = c.key
    · -- The key stands here, so that none of the later buckets has it.
      have hrest : rest.map (fun b => if b.key = c.key then b.push c else b) = rest.map id := by
        refine List.map_congr_left fun other hother => ?_
        have hne : ¬ other.key = c.key := by
          intro hkey
          exact distinct.1 (List.mem_map.mpr ⟨other, hother, hkey.trans heq.symm⟩)
        exact if_neg hne
      rw [if_pos heq, List.map_cons, hrest, List.map_id]
      exact congrArg (· :: rest) (if_pos heq).symm
    · have hlater : c.key ∈ rest.map key := by
        rcases List.mem_cons.mp h with hhere | hlater
        · exact absurd hhere.symm heq
        · exact hlater
      rw [if_neg heq, ih distinct.2 hlater, List.map_cons]
      exact congrArg (· :: _) (if_neg heq).symm

theorem keys_add {c : Contribution α} {buckets : List (Bucket α)}
    (distinct : (buckets.map key).Nodup) :
    (add c buckets).map key =
      if c.key ∈ buckets.map key then buckets.map key else buckets.map key ++ [c.key] := by
  split
  case isTrue h =>
    rw [add_of_mem distinct h, List.map_map]
    refine List.map_congr_left fun b _ => ?_
    by_cases heq : b.key = c.key
    · simp [heq]
    · simp [heq]
  case isFalse h =>
    rw [add_of_not_mem h, List.map_append]
    rfl

theorem nodup_keys_add {c : Contribution α} {buckets : List (Bucket α)}
    (distinct : (buckets.map key).Nodup) : ((add c buckets).map key).Nodup := by
  rw [keys_add distinct]
  split
  case isTrue h => exact distinct
  case isFalse h =>
    rw [List.nodup_append']
    exact ⟨distinct, List.nodup_singleton _, by simpa using h⟩

theorem collect_append_singleton (contributions : List (Contribution α)) (c : Contribution α) :
    collect (contributions ++ [c]) = add c (collect contributions) := by
  unfold collect
  rw [List.foldl_append]
  rfl

/-- No two buckets have the same key. -/
theorem nodup_keys_collect (contributions : List (Contribution α)) :
    ((collect contributions).map key).Nodup := by
  induction contributions using List.reverseRecOn with
  | nil => exact List.nodup_nil
  | append_singleton contributions c ih =>
    rw [collect_append_singleton]
    exact nodup_keys_add ih

/-- The buckets stand in the order in which their keys first appear. -/
theorem keys_collect (contributions : List (Contribution α)) :
    (collect contributions).map key = (contributions.map Contribution.key).eraseDups := by
  induction contributions using List.reverseRecOn with
  | nil => rfl
  | append_singleton contributions c ih =>
    rw [collect_append_singleton, keys_add (nodup_keys_collect contributions), ih,
      List.map_append, List.map_singleton, eraseDups_append_singleton]
    simp only [List.mem_eraseDups]

/-- A bucket holds the contributions with its key, in the order in which they came. -/
theorem members_collect {contributions : List (Contribution α)} {b : Bucket α}
    (h : b ∈ collect contributions) :
    b.members = contributions.filter fun c => c.key = b.key := by
  induction contributions using List.reverseRecOn generalizing b with
  | nil => cases h
  | append_singleton contributions c ih =>
    rw [collect_append_singleton] at h
    rw [List.filter_append]
    by_cases hkey : c.key ∈ (collect contributions).map key
    · rw [add_of_mem (nodup_keys_collect contributions) hkey] at h
      obtain ⟨before, hbefore, rfl⟩ := List.mem_map.mp h
      by_cases heq : before.key = c.key
      · rw [if_pos heq, members_push, key_push, ih hbefore, heq]
        simp
      · have hne : ¬ c.key = before.key := fun hsame => heq hsame.symm
        rw [if_neg heq, ih hbefore]
        simp [hne]
    · rw [add_of_not_mem hkey] at h
      rcases List.mem_append.mp h with hbefore | hnew
      · have hne : ¬ c.key = b.key := by
          intro hsame
          exact hkey (List.mem_map.mpr ⟨b, hbefore, hsame.symm⟩)
        rw [ih hbefore]
        simp [hne]
      · -- The key is new, so that no contribution before has it.
        rw [List.mem_singleton] at hnew
        subst hnew
        have hnone : contributions.filter (fun d => d.key = c.key) = [] := by
          rw [List.filter_eq_nil_iff]
          intro d hd
          rw [decide_eq_true_iff]
          intro hsame
          refine hkey ?_
          rw [keys_collect, List.mem_eraseDups, ← hsame]
          exact List.mem_map_of_mem hd
        show [c] =
          contributions.filter (fun d => d.key = c.key) ++ [c].filter fun d => d.key = c.key
        rw [hnone]
        simp

end Bucket

/-! ## The groups that merge -/

/-- The groups whose rules are merged. -/
inductive MergingGroup where
  | csp
  | removeParam
  | removeHeader
  deriving Repr, DecidableEq

namespace MergingGroup

/-- The group among all groups. -/
def group : MergingGroup → Group
  | csp => .csp
  | removeParam => .removeParam
  | removeHeader => .removeHeader

/-- What the group makes of the condition of a rule. -/
def finish : MergingGroup → Declarative.Condition → Declarative.Condition
  | csp => Csp.documentTypes
  | removeParam | removeHeader => id

/-- Final condition and priority of a rule, or why the rule is left out. -/
def key (g : MergingGroup) (r : SourceRule) : Except Rejection (Declarative.Condition × UInt32) :=
  match g with
  | csp => (Csp.contribution r).map Contribution.key
  | removeParam => (RemoveParam.contribution r).map Contribution.key
  | removeHeader => (RemoveHeader.contribution r).map Contribution.key

/-- The rules with a key, in the order of the input. -/
def contributors (g : MergingGroup) (key : Declarative.Condition × UInt32)
    (rules : List SourceRule) : List SourceRule :=
  rules.filter fun r => (g.key r).toOption = some key

/-- The report on a rule that is left out. -/
def unsupported? (g : MergingGroup) (filterId : UInt32) (r : SourceRule) :
    Option ConversionError :=
  match g.key r with
  | .error reason => some (.unsupported filterId r.index reason.message)
  | .ok _ => none

end MergingGroup

/-- Condition and priority of a declarative rule. -/
def Declarative.Rule.key (rule : Declarative.Rule) : Declarative.Condition × UInt32 :=
  (rule.condition, rule.priority)

/-- The entry of a rule that went into a declarative rule. -/
def SourceRule.entry (r : SourceRule) (filterId id : UInt32) : Source :=
  ⟨filterId, r.index, id⟩

/-- The report on a rule that lost some of its domains. -/
def SourceRule.degraded (r : SourceRule) (filterId id : UInt32) : ConversionError :=
  .degraded id filterId r.index (droppedDomainsMessage r.rule.droppedDomains)

/-- The rules of a group were grouped by their keys. -/
structure Converted.MergedByKey (g : MergingGroup) (filterId : UInt32) (rules : List SourceRule)
    (converted : Converted) : Prop where
  /-- A key is made of the final condition and the priority of a rule. -/
  final : ∀ r ∈ rules, ∀ key, g.key r = .ok key →
    ∃ condition, r.rule.condition = .ok condition ∧ key = (g.finish condition, r.rule.priority)
  /-- The rules without a key are reported as unsupported, and no other rules are. -/
  unsupported : converted.errors.filter (·.declarativeId? = none) =
    rules.filterMap (g.unsupported? filterId)
  /-- There is one declarative rule for each key, in the order in which the keys first appear. -/
  keys : converted.rules.map Declarative.Rule.key =
    (rules.filterMap fun r => (g.key r).toOption).eraseDups
  distinct_keys : (converted.rules.map Declarative.Rule.key).Nodup
  distinct_ids : (converted.rules.map Declarative.Rule.id).Nodup
  /-- The sources of a declarative rule are the rules with its key, in the order of the input. -/
  sources : converted.sourceMap = converted.rules.flatMap fun rule =>
    (g.contributors rule.key rules).map fun r => r.entry filterId rule.id
  /-- Each of them that lost domains has a report of its own. -/
  degraded : converted.errors.filter (·.declarativeId?.isSome) =
    converted.rules.flatMap fun rule =>
      ((g.contributors rule.key rules).filter fun r => r.rule.droppedDomains ≠ []).map fun r =>
        r.degraded filterId rule.id

section Merged

variable {α : Type} {contribution : SourceRule → Except Rejection (Contribution α)}
  {action : List α → Declarative.Action} {rules : List SourceRule}

/-- Of the contributions with a key one can go back to the rules with the key. -/
theorem filterMap_contributions {β : Type} {f : Contribution α → Option β}
    {k : SourceRule → Option β} (h : ∀ r c, contribution r = .ok c → f c = k r)
    (key : Declarative.Condition × UInt32) (rules : List SourceRule) :
    ((rules.filterMap fun r => (contribution r).toOption).filter fun c => c.key = key).filterMap f =
      (rules.filter fun r =>
        ((contribution r).map Contribution.key).toOption = some key).filterMap k := by
  induction rules with
  | nil => rfl
  | cons r rest ih =>
    cases hr : contribution r with
    | error reason =>
      have hnone : (contribution r).toOption = none := by rw [hr]; rfl
      have hkey : ((contribution r).map Contribution.key).toOption = none := by rw [hr]; rfl
      rw [List.filterMap_cons_none (f := fun r => (contribution r).toOption) hnone,
        List.filter_cons_of_neg (by simp [hkey]), ih]
    | ok c =>
      have hsome : (contribution r).toOption = some c := by rw [hr]; rfl
      have hkey : ((contribution r).map Contribution.key).toOption = some c.key := by rw [hr]; rfl
      rw [List.filterMap_cons_some (f := fun r => (contribution r).toOption) hsome]
      by_cases heq : c.key = key
      · rw [List.filter_cons_of_pos (by simp [heq]), List.filter_cons_of_pos (by simp [hkey, heq]),
          List.filterMap_cons, List.filterMap_cons, h r c hr, ih]
      · rw [List.filter_cons_of_neg (by simp [heq]), List.filter_cons_of_neg (by simp [hkey, heq]),
          ih]

/-- The drafts of merged rules are those of the buckets. -/
theorem draftsOf_mergedOutcomes (filterId : UInt32) :
    draftsOf ((mergedOutcomes contribution action rules).map fun outcome => (filterId, outcome)) =
      (Bucket.collect (rules.filterMap fun r => (contribution r).toOption)).map fun b =>
        (filterId, b.draft action) := by
  unfold draftsOf mergedOutcomes
  dsimp only
  rw [List.filterMap_map, List.filterMap_append, List.filterMap_map]
  rw [List.filterMap_eq_nil_iff.mpr, List.nil_append]
  · exact congrFun List.filterMap_eq_map _
  · intro outcome houtcome
    obtain ⟨r, -, hr⟩ := List.mem_filterMap.mp houtcome
    split at hr
    · cases hr
      rfl
    · cases hr

/-- A numbered draft of merged rules comes from a bucket. -/
theorem exists_bucket {filterId : UInt32} {next : Nat} {part : Numbered}
    (h : part ∈ numberedFrom next
      ((mergedOutcomes contribution action rules).map fun outcome => (filterId, outcome))) :
    part.filterId = filterId ∧
      ∃ b ∈ Bucket.collect (rules.filterMap fun r => (contribution r).toOption),
        part.draft = b.draft action := by
  have hdraft : (part.filterId, part.draft) ∈ draftsOf
      ((mergedOutcomes contribution action rules).map fun outcome => (filterId, outcome)) := by
    rw [← map_numberedFrom next]
    exact List.mem_map_of_mem h
  rw [draftsOf_mergedOutcomes] at hdraft
  obtain ⟨b, hb, heq⟩ := List.mem_map.mp hdraft
  rw [Prod.mk.injEq] at heq
  exact ⟨heq.1.symm, b, hb, heq.2.symm⟩

variable {g : MergingGroup} (hkey : ∀ r, g.key r = (contribution r).map Contribution.key)
  (hof : ∀ r c, contribution r = .ok c → c.IsOf g.finish r)

include hkey in
/-- What the members of a bucket bring is what the rules with its key bring. -/
theorem filterMap_members {β : Type} {f : Contribution α → Option β} {k : SourceRule → Option β}
    (h : ∀ r c, contribution r = .ok c → f c = k r) {b : Bucket α}
    (hb : b ∈ Bucket.collect (rules.filterMap fun r => (contribution r).toOption)) :
    b.members.filterMap f = (g.contributors b.key rules).filterMap k := by
  have hsame : g.contributors b.key rules = rules.filter fun r =>
      ((contribution r).map Contribution.key).toOption = some b.key := by
    refine List.filter_congr fun r _ => ?_
    rw [hkey]
  rw [Bucket.members_collect hb, hsame]
  exact filterMap_contributions h b.key rules

include hkey hof

theorem entries_merged {filterId : UInt32} {next : Nat} {part : Numbered}
    (h : part ∈ numberedFrom next
      ((mergedOutcomes contribution action rules).map fun outcome => (filterId, outcome))) :
    part.entries =
      (g.contributors part.rule.key rules).map fun r => r.entry filterId part.rule.id := by
  obtain ⟨hfilter, b, hb, hdraft⟩ := exists_bucket h
  have hindices := filterMap_members hkey (f := fun c => some c.index) (k := fun r => some r.index)
    (fun r c hc => congrArg some (hof r c hc).index) hb
  have hsources : part.draft.sources = (g.contributors b.key rules).map SourceRule.index := by
    rw [hdraft]
    show b.members.map Contribution.index = _
    rw [← List.filterMap_eq_map', ← List.filterMap_eq_map']
    exact hindices
  have hkeys : part.rule.key = b.key := by
    unfold Numbered.rule
    rw [hdraft]
    rfl
  unfold Numbered.entries
  rw [hsources, hkeys, hfilter, List.map_map]
  rfl

theorem errors_merged {filterId : UInt32} {next : Nat} {part : Numbered}
    (h : part ∈ numberedFrom next
      ((mergedOutcomes contribution action rules).map fun outcome => (filterId, outcome))) :
    part.errors =
      ((g.contributors part.rule.key rules).filter fun r => r.rule.droppedDomains ≠ []).map
        fun r => r.degraded filterId part.rule.id := by
  obtain ⟨hfilter, b, hb, hdraft⟩ := exists_bucket h
  have hnotes := filterMap_members hkey (f := Contribution.note?)
    (k := fun r => if r.rule.droppedDomains ≠ [] then
      some (r.index, droppedDomainsMessage r.rule.droppedDomains) else none)
    (fun r c hc => by
      unfold Contribution.note?
      rw [(hof r c hc).dropped, (hof r c hc).index, ite_not]) hb
  have hkeys : part.rule.key = b.key := by
    unfold Numbered.rule
    rw [hdraft]
    rfl
  unfold Numbered.errors
  rw [hdraft, hkeys, hfilter]
  show (b.members.filterMap Contribution.note?).map _ = _
  rw [hnotes, List.map_filterMap, ← List.filterMap_eq_map, List.filterMap_filter]
  refine List.filterMap_congr fun r _ => ?_
  by_cases hdropped : r.rule.droppedDomains = []
  · simp [hdropped]
  · simp only [ne_eq, hdropped, not_false_eq_true, if_true, decide_true, Option.map_some]
    rfl

/-- Numbering the drafts of the buckets is grouping the rules by key. -/
theorem mergedByKey_number (filterId : UInt32) {next : Nat}
    (hids : next + draftCount (((mergedOutcomes contribution action rules).map fun outcome =>
      (filterId, outcome)).map Prod.snd) ≤ UInt32.size) :
    (Converted.number next ((mergedOutcomes contribution action rules).map fun outcome =>
      (filterId, outcome))).MergedByKey g filterId rules := by
  have hbuckets : (Converted.number next ((mergedOutcomes contribution action rules).map
      fun outcome => (filterId, outcome))).rules.map Declarative.Rule.key =
      (Bucket.collect (rules.filterMap fun r => (contribution r).toOption)).map Bucket.key := by
    have hdrafts := congrArg (List.map fun part : UInt32 × Draft =>
      (part.2.condition, part.2.priority)) (map_numberedFrom next
        ((mergedOutcomes contribution action rules).map fun outcome => (filterId, outcome)))
    rw [draftsOf_mergedOutcomes, List.map_map, List.map_map] at hdrafts
    rw [rules_number, List.map_map]
    exact hdrafts
  constructor
  case final =>
    intro r _ key hr
    rw [hkey] at hr
    obtain ⟨c, hcontribution, rfl⟩ := exists_ok_of_map hr
    have hc := hof r c hcontribution
    obtain ⟨condition, hcondition, hfinal⟩ := hc.condition
    refine ⟨condition, hcondition, ?_⟩
    rw [Contribution.key, hfinal, hc.priority]
  case unsupported =>
    have hdrafts : ∀ buckets : List (Bucket α), buckets.filterMap ((rejection? ∘
        fun outcome => (filterId, outcome)) ∘ fun b => Outcome.emit (b.draft action)) = [] :=
      fun buckets => List.filterMap_eq_nil_iff.mpr fun _ _ => rfl
    rw [untiedErrors_number]
    unfold mergedOutcomes
    dsimp only
    rw [List.filterMap_map, List.filterMap_append, List.filterMap_map, hdrafts, List.append_nil,
      List.filterMap_filterMap]
    refine List.filterMap_congr fun r _ => ?_
    unfold MergingGroup.unsupported?
    rw [hkey]
    cases contribution r <;> rfl
  case keys =>
    rw [hbuckets, Bucket.keys_collect, List.map_filterMap]
    congr 1
    refine List.filterMap_congr fun r _ => ?_
    rw [hkey]
    cases contribution r <;> rfl
  case distinct_keys =>
    rw [hbuckets]
    exact Bucket.nodup_keys_collect _
  case distinct_ids => exact nodup_ids_number hids
  case sources =>
    rw [sourceMap_number, rules_number, List.flatMap_map]
    exact List.flatMap_congr fun part hpart => entries_merged hkey hof hpart
  case degraded =>
    rw [tiedErrors_number, rules_number, List.flatMap_map]
    exact List.flatMap_congr fun part hpart => errors_merged hkey hof hpart

end Merged

/-! ## Conversion of the three groups -/

theorem MergingGroup.mergedByKey_number (g : MergingGroup) (resources : Option String)
    (filterId : UInt32) {next : Nat} {rules : List SourceRule}
    (hids : next + draftCount (((g.group.outcomes resources rules).map fun outcome =>
      (filterId, outcome)).map Prod.snd) ≤ UInt32.size) :
    (Converted.number next ((g.group.outcomes resources rules).map fun outcome =>
      (filterId, outcome))).MergedByKey g filterId rules := by
  cases g with
  | csp =>
    exact Blocklist.mergedByKey_number (fun _ => rfl) (fun _ _ => Csp.isOf_of_contribution)
      filterId hids
  | removeParam =>
    exact Blocklist.mergedByKey_number (fun _ => rfl) (fun _ _ => RemoveParam.isOf_of_contribution)
      filterId hids
  | removeHeader =>
    exact Blocklist.mergedByKey_number (fun _ => rfl) (fun _ _ => RemoveHeader.isOf_of_contribution)
      filterId hids

/-- In the source map, a declarative rule finds the rules with its key. -/
theorem Converted.MergedByKey.entriesOf_eq {g : MergingGroup} {filterId : UInt32}
    {rules : List SourceRule} {converted : Converted} (h : converted.MergedByKey g filterId rules)
    {rule : Declarative.Rule} (hrule : rule ∈ converted.rules) :
    converted.entriesOf rule =
      (g.contributors rule.key rules).map fun r => r.entry filterId rule.id := by
  unfold Converted.entriesOf
  rw [h.sources]
  refine filter_flatMap_of_id (List.pairwise_map.mp h.distinct_ids) hrule
    fun other source hsource => ?_
  obtain ⟨r, -, rfl⟩ := List.mem_map.mp hsource
  rfl

/-- All rules with one key are in one declarative rule, and no other one has the key. What each of
them lost is reported on its own. -/
theorem Converted.MergedByKey.shared {g : MergingGroup} {filterId : UInt32}
    {rules : List SourceRule} {converted : Converted} (h : converted.MergedByKey g filterId rules)
    {r : SourceRule} (hr : r ∈ rules) {key : Declarative.Condition × UInt32}
    (hkey : g.key r = .ok key) :
    ∃ rule ∈ converted.rules, rule.key = key ∧
      (∀ other ∈ converted.rules, other.key = key → other = rule) ∧
      ∀ s ∈ rules, g.key s = .ok key →
        s.entry filterId rule.id ∈ converted.sourceMap ∧
        (s.rule.droppedDomains ≠ [] → s.degraded filterId rule.id ∈ converted.errors) := by
  have hmem : key ∈ converted.rules.map Declarative.Rule.key := by
    rw [h.keys, List.mem_eraseDups, List.mem_filterMap]
    exact ⟨r, hr, by rw [hkey]; rfl⟩
  obtain ⟨rule, hrule, hrulekey⟩ := List.mem_map.mp hmem
  refine ⟨rule, hrule, hrulekey, fun other hother hsame => ?_, fun s hs hskey => ?_⟩
  · exact List.inj_on_of_nodup_map h.distinct_keys hother hrule (hsame.trans hrulekey.symm)
  · have hcontributor : s ∈ g.contributors rule.key rules := by
      refine List.mem_filter.mpr ⟨hs, ?_⟩
      rw [hskey, hrulekey]
      exact decide_eq_true rfl
    refine ⟨?_, fun hdropped => ?_⟩
    · rw [h.sources]
      exact List.mem_flatMap.mpr ⟨rule, hrule, List.mem_map_of_mem hcontributor⟩
    · have htied : s.degraded filterId rule.id ∈
          converted.errors.filter (·.declarativeId?.isSome) := by
        rw [h.degraded]
        refine List.mem_flatMap.mpr ⟨rule, hrule, List.mem_map_of_mem ?_⟩
        exact List.mem_filter.mpr ⟨hcontributor, decide_eq_true hdropped⟩
      exact (List.mem_filter.mp htied).1

/-- A group that merges its rules groups them by key. Rules with one key share one declarative rule,
and each of them keeps the report on the domains that it lost. -/
theorem convertGroup_merges (g : MergingGroup) (resources : Option String)
    (filterId start : UInt32) (rules : List SourceRule)
    (enough : convertGroup resources g.group filterId start rules ≠ .error .idsExhausted) :
    ∃ converted next, convertGroup resources g.group filterId start rules = .ok (converted, next) ∧
      converted.MergedByKey g filterId rules ∧
      ∀ r ∈ rules, ∀ key, g.key r = .ok key →
        ∃ rule ∈ converted.rules, rule.key = key ∧
          (∀ other ∈ converted.rules, other.key = key → other = rule) ∧
          ∀ s ∈ rules, g.key s = .ok key →
            s.entry filterId rule.id ∈ converted.sourceMap ∧
            (s.rule.droppedDomains ≠ [] → s.degraded filterId rule.id ∈ converted.errors) := by
  have resolved : g.group = .badFilter → rules = [] := by
    intro h
    cases g <;> cases h
  rw [convertGroup_eq resolved] at enough ⊢
  by_cases hids : start.toNat + draftCount (((g.group.outcomes resources rules).map fun outcome =>
      (filterId, outcome)).map Prod.snd) < UInt32.size
  · have hmerged := g.mergedByKey_number resources filterId (Nat.le_of_lt hids)
    refine ⟨_, _, numberFrom_eq_ok hids, hmerged, fun r hr key hkey => ?_⟩
    exact hmerged.shared hr hkey
  · exact absurd (numberFrom_eq_error hids) enough

/-- A rule that adds a policy on the pages of two domains, one of which cannot be named. -/
def samplePolicyOn (index : UInt32) (wildcard : String) : SourceRule where
  index
  rule :=
    { pattern := "||a.example^", allowlist := false, permittedDomains := ["a.example", wildcard]
      modifier := some (.csp "sandbox") }

/-- Two policies with one key that lose different domains. Between them stand a policy with another
key and a rule that adds no policy. -/
def sampleMerged : List SourceRule :=
  [samplePolicyOn 2 "b.*", samplePolicy 3 "sandbox", sampleBlock 4 "||ads.example^" false,
    samplePolicyOn 2 "c.*"]

/-- Both policies go into the first declarative rule, and both keep their report. -/
theorem convertGroup_merges_sample :
    MergingGroup.csp.key (samplePolicyOn 2 "b.*") = MergingGroup.csp.key (samplePolicyOn 2 "c.*") ∧
    (∃ converted next, convertGroup none .csp 7 1 sampleMerged = .ok (converted, next) ∧
      converted.MergedByKey .csp 7 sampleMerged) ∧
    (convertGroup none .csp 7 1 sampleMerged).toOption.map (fun made =>
      (made.1.rules.map Declarative.Rule.id, made.1.sourceMap, made.1.errors)) =
        some ([1, 2], [⟨7, 2, 1⟩, ⟨7, 2, 1⟩, ⟨7, 3, 2⟩],
          [.unsupported 7 4 "expected a $csp rule",
            .degraded 1 7 2 "unsupported domains dropped: b.*",
            .degraded 1 7 2 "unsupported domains dropped: c.*"]) := by
  have enough : convertGroup none .csp 7 1 sampleMerged ≠ .error .idsExhausted := by
    decide +kernel
  obtain ⟨converted, next, hconverted, hmerged, -⟩ :=
    convertGroup_merges .csp none 7 1 sampleMerged enough
  exact ⟨by decide +kernel, ⟨converted, next, hconverted, hmerged⟩, by decide +kernel⟩

end Blocklist
