import Mathlib.Data.List.Forall2
import Blocklist.Proofs.Composition

/-! # What limits and ids do not look at

Ids are handed out, sources and errors are recorded, and limits are enforced without a look at the
actions of rules, except that a regular expression in a condition counts. So if the drafts of two
conversions differ in their actions only, their results do so too.

* `alike_number`: drafts that are alike get the same ids, entries and errors;
* `Limits.alike_enforce`: the limits keep rules that are alike, and cut as many of them;
* `Limits.enforce_congr_tied`: errors that belong to no rule pass the limits unseen.
-/

namespace Blocklist

/-- Two rules that are the same except for their actions, which are related by `R`. -/
structure Declarative.Rule.Alike (R : Action → Action → Prop) (a b : Rule) : Prop where
  id : a.id = b.id
  priority : a.priority = b.priority
  condition : a.condition = b.condition
  action : R a.action b.action

/-- Two results that are the same except for the actions of their rules, which are related by
`R`. -/
structure ConversionResult.Alike (R : Declarative.Action → Declarative.Action → Prop)
    (a b : ConversionResult) : Prop where
  rules : List.Forall₂ (Declarative.Rule.Alike R) a.rules b.rules
  sourceMap : a.sourceMap = b.sourceMap
  errors : a.errors = b.errors
  limitations : a.limitations = b.limitations

/-- Two drafts that are the same except for their actions, which are related by `R`. -/
structure Draft.Alike (R : Declarative.Action → Declarative.Action → Prop) (a b : Draft) :
    Prop where
  priority : a.priority = b.priority
  condition : a.condition = b.condition
  action : R a.action b.action
  sources : a.sources = b.sources
  notes : a.notes = b.notes

/-- The same rejection twice, or two drafts that are alike. -/
inductive Outcome.Alike (R : Declarative.Action → Declarative.Action → Prop) :
    Outcome → Outcome → Prop where
  | reject (index : UInt32) (reason : Rejection) :
      Alike R (.reject index reason) (.reject index reason)
  | emit {a b : Draft} (h : a.Alike R b) : Alike R (.emit a) (.emit b)

variable {R : Declarative.Action → Declarative.Action → Prop}

/-! ## Ids -/

/-- Outcomes of one filter that are alike. -/
def AlikeIn (R : Declarative.Action → Declarative.Action → Prop) (a b : UInt32 × Outcome) : Prop :=
  a.1 = b.1 ∧ a.2.Alike R b.2

theorem draftCount_alike {as bs : List (UInt32 × Outcome)} (h : List.Forall₂ (AlikeIn R) as bs) :
    draftCount (as.map Prod.snd) = draftCount (bs.map Prod.snd) := by
  induction h with
  | nil => rfl
  | @cons a b as bs hab hrest ih =>
    obtain ⟨filterId, outcome⟩ := a
    obtain ⟨otherId, other⟩ := b
    obtain ⟨-, hab⟩ := hab
    cases hab with
    | reject index reason => exact ih
    | emit hdraft => exact congrArg Nat.succ ih

/-- Drafts that are alike get the same ids, entries and errors. -/
theorem alike_number {as bs : List (UInt32 × Outcome)} (h : List.Forall₂ (AlikeIn R) as bs)
    (next : Nat) :
    List.Forall₂ (Declarative.Rule.Alike R) (Converted.number next as).rules
        (Converted.number next bs).rules ∧
      (Converted.number next as).sourceMap = (Converted.number next bs).sourceMap ∧
      (Converted.number next as).errors = (Converted.number next bs).errors := by
  induction h generalizing next with
  | nil => exact ⟨.nil, rfl, rfl⟩
  | @cons a b as bs hab hrest ih =>
    obtain ⟨filterId, outcome⟩ := a
    obtain ⟨otherId, other⟩ := b
    obtain ⟨rfl, hab⟩ := hab
    cases hab with
    | reject index reason =>
      obtain ⟨hrules, hsources, herrors⟩ := ih next
      exact ⟨hrules, hsources, congrArg (_ :: ·) herrors⟩
    | @emit a b hdraft =>
      obtain ⟨hrules, hsources, herrors⟩ := ih (next + 1)
      refine ⟨.cons ⟨rfl, hdraft.priority, hdraft.condition, hdraft.action⟩ hrules, ?_, ?_⟩
      · show (a.withId _ _).sourceMap ++ _ = (b.withId _ _).sourceMap ++ _
        rw [hsources, Draft.withId, Draft.withId, hdraft.sources]
      · show (a.withId _ _).errors ++ _ = (b.withId _ _).errors ++ _
        rw [herrors, Draft.withId, Draft.withId, hdraft.notes]

/-! ## Limits -/

namespace Limits

variable {as bs : List Declarative.Rule}

theorem ids_of_alike (h : List.Forall₂ (Declarative.Rule.Alike R) as bs) :
    as.map Declarative.Rule.id = bs.map Declarative.Rule.id := by
  induction h with
  | nil => rfl
  | cons hab hrest ih => rw [List.map_cons, List.map_cons, hab.id, ih]

theorem alike_splitRules (h : List.Forall₂ (Declarative.Rule.Alike R) as bs)
    (limit : Option Nat) :
    List.Forall₂ (Declarative.Rule.Alike R) (splitRules limit as).1 (splitRules limit bs).1 ∧
      List.Forall₂ (Declarative.Rule.Alike R) (splitRules limit as).2 (splitRules limit bs).2 := by
  cases limit with
  | none => exact ⟨h, .nil⟩
  | some n =>
    unfold splitRules
    dsimp only
    rw [List.splitAt_eq, List.splitAt_eq]
    exact ⟨List.forall₂_take n h, List.forall₂_drop n h⟩

/-- Whether a rule counts as a regular expression is up to its condition. -/
theorem alike_splitRegexp (h : List.Forall₂ (Declarative.Rule.Alike R) as bs) (room : Nat) :
    List.Forall₂ (Declarative.Rule.Alike R) (splitRegexp room as).1 (splitRegexp room bs).1 ∧
      List.Forall₂ (Declarative.Rule.Alike R) (splitRegexp room as).2 (splitRegexp room bs).2 := by
  induction h generalizing room with
  | nil => exact ⟨.nil, .nil⟩
  | @cons a b as bs hab hrest ih =>
    have hregex : a.isRegex = b.isRegex := by
      unfold Declarative.Rule.isRegex
      rw [hab.condition]
    unfold splitRegexp
    rw [hregex]
    cases b.isRegex with
    | false => exact ⟨.cons hab (ih room).1, (ih room).2⟩
    | true =>
      cases room with
      | zero => exact ⟨(ih 0).1, .cons hab (ih 0).2⟩
      | succ n => exact ⟨.cons hab (ih n).1, (ih n).2⟩

/-- Rules that are alike stay together, or are cut together by the same limit. -/
theorem alike_cuts (h : List.Forall₂ (Declarative.Rule.Alike R) as bs) (limits : Limits) :
    List.Forall₂ (Declarative.Rule.Alike R) (limits.retained as) (limits.retained bs) ∧
      List.Forall₂ (Declarative.Rule.Alike R) (limits.excess as) (limits.excess bs) ∧
      List.Forall₂ (Declarative.Rule.Alike R) (limits.excessRegexps as)
        (limits.excessRegexps bs) := by
  obtain ⟨hexcess, hretained, hregexps⟩ := cuts_eq limits as
  obtain ⟨hexcess', hretained', hregexps'⟩ := cuts_eq limits bs
  obtain ⟨hwithin, hbeyond⟩ := alike_splitRules h (active? limits.rules)
  have hsplit : ∀ limit, List.Forall₂ (Declarative.Rule.Alike R)
        (splitRegexps limit (splitRules (active? limits.rules) as).1).1
        (splitRegexps limit (splitRules (active? limits.rules) bs).1).1 ∧
      List.Forall₂ (Declarative.Rule.Alike R)
        (splitRegexps limit (splitRules (active? limits.rules) as).1).2
        (splitRegexps limit (splitRules (active? limits.rules) bs).1).2 := by
    intro limit
    cases limit with
    | none => exact ⟨hwithin, .nil⟩
    | some n => exact alike_splitRegexp hwithin n
  rw [← hexcess, ← hretained, ← hregexps, ← hexcess', ← hretained', ← hregexps']
  exact ⟨(hsplit _).1, hbeyond, (hsplit _).2⟩

namespace Pool

/-- What is cut with some rules is a matter of their ids. -/
theorem cut_congr (h : as.map Declarative.Rule.id = bs.map Declarative.Rule.id) (pool : Pool) :
    pool.cut as = pool.cut bs := by
  induction as generalizing bs pool with
  | nil => rw [List.map_eq_nil_iff.mp h.symm]
  | cons a as ih =>
    cases bs with
    | nil => cases h
    | cons b bs =>
      rw [List.map_cons, List.map_cons, List.cons.injEq] at h
      rw [cut, cut, h.1, ih h.2]

theorem keep_congr (h : as.map Declarative.Rule.id = bs.map Declarative.Rule.id) (pool : Pool) :
    pool.keep as = pool.keep bs := by
  induction as generalizing bs pool with
  | nil => rw [List.map_eq_nil_iff.mp h.symm]
  | cons a as ih =>
    cases bs with
    | nil => cases h
    | cons b bs =>
      rw [List.map_cons, List.map_cons, List.cons.injEq] at h
      rw [keep, keep, h.1, ih h.2]

end Pool

theorem limitation?_congr (h : as.length = bs.length) (kind : LimitKind) (limit : Option Nat)
    (excluded : List UInt32) : limitation? kind limit as excluded =
      limitation? kind limit bs excluded := by
  cases as with
  | nil => rw [List.length_eq_zero_iff.mp h.symm]
  | cons a as =>
    cases bs with
    | nil => cases h
    | cons b bs => cases limit <;> simp_all [limitation?]

/-- The limits keep rules that are alike, with the same entries and errors, and report the same. -/
theorem alike_enforce (limits : Limits) {a b : Converted}
    (hrules : List.Forall₂ (Declarative.Rule.Alike R) a.rules b.rules)
    (hsources : a.sourceMap = b.sourceMap) (herrors : a.errors = b.errors) :
    (limits.enforce a).Alike R (limits.enforce b) := by
  obtain ⟨hretained, hexcess, hregexps⟩ := alike_cuts hrules limits
  have hpool : Pool.ofConverted a = Pool.ofConverted b := by
    rw [Pool.ofConverted, Pool.ofConverted, hsources, herrors]
  have huntied : a.untiedErrors = b.untiedErrors := by
    rw [Converted.untiedErrors, Converted.untiedErrors, herrors]
  rw [enforce_eq_cuts, enforce_eq_cuts, hpool, huntied]
  -- From here on, the cuts only see the ids of the rules and their number.
  rw [Pool.cut_congr (ids_of_alike hexcess)]
  constructor
  case rules => exact hretained
  case sourceMap =>
    dsimp only
    rw [Pool.cut_congr (ids_of_alike hregexps), Pool.keep_congr (ids_of_alike hretained)]
  case errors =>
    dsimp only
    rw [Pool.cut_congr (ids_of_alike hregexps), Pool.keep_congr (ids_of_alike hretained)]
  case limitations =>
    dsimp only
    rw [Pool.cut_congr (ids_of_alike hregexps), limitation?_congr hexcess.length_eq,
      limitation?_congr hregexps.length_eq]

/-- Errors that belong to no rule pass the limits, and nothing else depends on them. -/
theorem enforce_congr_tied (limits : Limits) {a b : Converted} (hrules : a.rules = b.rules)
    (hsources : a.sourceMap = b.sourceMap) (htied : a.tiedErrors = b.tiedErrors) :
    (limits.enforce a).rules = (limits.enforce b).rules ∧
      (limits.enforce a).sourceMap = (limits.enforce b).sourceMap ∧
      (limits.enforce a).degraded = (limits.enforce b).degraded ∧
      (limits.enforce a).limitations = (limits.enforce b).limitations := by
  have hpool : Pool.ofConverted a = Pool.ofConverted b := by
    show (⟨a.sourceMap, a.tiedErrors⟩ : Pool) = ⟨b.sourceMap, b.tiedErrors⟩
    rw [hsources, htied]
  rw [enforce_eq_cuts, enforce_eq_cuts, hpool, hrules]
  refine ⟨rfl, rfl, ?_, rfl⟩
  unfold ConversionResult.degraded
  dsimp only
  rw [List.filter_append, List.filter_append, a.tied_untiedErrors, b.tied_untiedErrors]

end Limits

end Blocklist
