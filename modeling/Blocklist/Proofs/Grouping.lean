import Mathlib.Data.List.Basic
import Blocklist.Group

/-! # Grouping as a partition

Every rule of a filter is in one group, and dropping rules commutes with sorting them into groups.
-/

namespace Blocklist

theorem Group.of_eq_badFilter_iff {rule : Rule} :
    Group.of rule = .badFilter ↔ rule.isBadfilter = true := by
  unfold Group.of
  cases rule.isBadfilter with
  | true => simp
  | false =>
    rcases rule.modifier with _ | modifier
    · simp
    · cases modifier <;> simp [Modifier.kind]

namespace GroupedRules

variable {rules : List SourceRule}

theorem mem_get_ofRules {r : SourceRule} {g : Group} :
    r ∈ (ofRules rules).get g ↔ r ∈ rules ∧ Group.of r.rule = g := by
  rw [get_ofRules, List.mem_filter, decide_eq_true_iff]

/-- A rule that is put in front of its group adds just itself to the list of all rules. -/
theorem toList_set_cons_perm (grouped : GroupedRules) (g : Group) (r : SourceRule) :
    (grouped.set g (r :: grouped.get g)).toList.Perm (r :: grouped.toList) := by
  rw [List.perm_iff_count]
  intro x
  cases g <;> simp only [toList, Group.all, set, get, List.flatMap_cons, List.flatMap_nil,
    List.count_append, List.count_cons] <;> omega

/-- Sorting the rules of a filter into groups only reorders them. -/
theorem toList_ofRules_perm (rules : List SourceRule) : (ofRules rules).toList.Perm rules := by
  induction rules with
  | nil => exact List.Perm.refl _
  | cons r rest ih =>
    exact (toList_set_cons_perm (ofRules rest) (Group.of r.rule) r).trans (ih.cons r)

theorem ofRules_filter (p : SourceRule → Bool) (rules : List SourceRule) :
    ofRules (rules.filter p) = (ofRules rules).map (List.filter p) := by
  ext1 g
  simp [List.filter_filter, Bool.and_comm]

/-- Emptying the badfilter group is dropping the badfilter rules before they are grouped. -/
theorem take_badFilter_snd (rules : List SourceRule) :
    ((ofRules rules).take .badFilter).2 = ofRules (rules.filter fun r => !r.rule.isBadfilter) := by
  ext1 g
  by_cases hg : g = .badFilter
  · subst hg
    simp [take, Group.of_eq_badFilter_iff]
  · have hother : ∀ r : SourceRule, Group.of r.rule = g → r.rule.isBadfilter = false := by
      intro r hr
      rw [← Bool.not_eq_true, ← Group.of_eq_badFilter_iff, hr]
      exact hg
    simp only [take, get_set, get_ofRules, if_neg hg, List.filter_filter]
    refine List.filter_congr fun r _ => ?_
    by_cases hr : Group.of r.rule = g
    · simp [hr, hother r hr]
    · simp [hr]

end GroupedRules

end Blocklist
