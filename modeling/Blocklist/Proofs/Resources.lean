import Mathlib.Data.List.DropRight
import Mathlib.Data.List.Forall2
import Mathlib.Data.List.Perm.Basic
import Blocklist.Proofs.Lineage
import Blocklist.Proofs.UpToActions

/-! # Redirecting rules and the path of the resources

The path of the bundled resources only decides where redirecting rules lead to, and whether they can
lead anywhere.

* `Regular.action_congr`, `Regular.action_none`, `Regular.action_some`: the path in the action of a
  rule;
* `Group.alike_outcomes`: with another path, only the targets of outcomes change;
* `GroupOfFilter.draftsOf_outcomes_none`, `GroupOfFilter.rejections_withoutRedirects_perm`: without
  a path, redirecting rules have no drafts, and each of them is reported.
-/

namespace Blocklist

open Badfilter

/-! ## Paths and targets -/

/-- The base is the path without the slashes at its end. -/
structure Text.StripsTo (path base : String) : Prop where
  slashes : ∃ n, path.toList = base.toList ++ List.replicate n '/'
  last : base.toList.getLast? ≠ some '/'

/-- The path of the resource to which an action leads. -/
def Declarative.Action.extensionPath? (action : Action) : Option String :=
  action.redirect.bind Redirect.extensionPath

/-- Leads a request to the resource at the path. -/
def Declarative.Action.toResource (path : String) : Action where
  kind := .redirect
  redirect := some { extensionPath := some path }

/-- The same action, or one that leads to the same resource below another path. -/
inductive Retargeted (p q : String) : Declarative.Action → Declarative.Action → Prop where
  | same {action : Declarative.Action} (h : action.extensionPath? = none) :
      Retargeted p q action action
  | resource {base other : String} (resource : String) (hp : Text.StripsTo p base)
      (hq : Text.StripsTo q other) :
      Retargeted p q (.toResource (base ++ "/" ++ resource))
        (.toResource (other ++ "/" ++ resource))

/-- The rule asks for a bundled resource. -/
def Rule.isRedirect (rule : Rule) : Bool :=
  rule.modifier.map Modifier.kind = some .redirect

/-- The same settings with another path of the bundled resources, or without one. -/
def Options.withResources (options : Options) (path : Option String) : Options :=
  { options with resourcesPath := path }

namespace Text

/-- Every path has a base, which is found by taking off the slashes. -/
theorem stripsTo_withoutEnd (path : String) :
    StripsTo path (String.ofList (withoutEnd '/' path.toList)) := by
  have hslashes : ∀ c ∈ path.toList.rtakeWhile (· = '/'), c = '/' := fun c hc =>
    of_decide_eq_true (List.mem_rtakeWhile_imp (p := (· = '/')) hc)
  have hsplit : path.toList = path.toList.rdropWhile (· = '/') ++
      List.replicate (path.toList.rtakeWhile (· = '/')).length '/' := by
    rw [← List.eq_replicate_of_mem hslashes, List.rdropWhile_append_rtakeWhile]
  constructor
  case slashes =>
    rw [String.toList_ofList]
    exact ⟨_, hsplit⟩
  case last =>
    rw [String.toList_ofList]
    intro hlast
    change (path.toList.rdropWhile (· = '/')).getLast? = some '/' at hlast
    have hne : path.toList.rdropWhile (· = '/') ≠ [] := by
      intro hnil
      rw [hnil] at hlast
      cases hlast
    have hslash : (path.toList.rdropWhile (· = '/')).getLast hne = '/' := by
      rw [List.getLast?_eq_some_getLast hne] at hlast
      exact Option.some.inj hlast
    exact List.rdropWhile_last_not _ _ hne (by rw [hslash]; rfl)

/-- More slashes at the end do not matter. -/
theorem withoutEnd_append_slashes (letters : List Char) (n : Nat) :
    withoutEnd '/' (letters ++ List.replicate n '/') = withoutEnd '/' letters := by
  induction n with
  | zero => rw [List.replicate_zero, List.append_nil]
  | succ n ih =>
    rw [List.replicate_succ', ← List.append_assoc, ← ih]
    exact List.rdropWhile_concat_pos _ _ _ (by rfl)

/-- There is no other base. -/
theorem StripsTo.withoutEnd_eq {path base : String} (h : StripsTo path base) :
    withoutEnd '/' path.toList = base.toList := by
  obtain ⟨⟨n, hpath⟩, hlast⟩ := h
  rw [hpath, withoutEnd_append_slashes]
  show base.toList.rdropWhile (· = '/') = _
  rw [List.rdropWhile_eq_self_iff]
  intro hne hslash
  rw [List.getLast?_eq_some_getLast hne] at hlast
  exact hlast (congrArg some (of_decide_eq_true hslash))

end Text

/-! ## Regular rules -/

namespace Rule

theorem isRedirect_iff {rule : Rule} :
    rule.isRedirect = true ↔ ∃ resource, rule.modifier = some (.redirect resource) := by
  unfold isRedirect
  rw [decide_eq_true_iff]
  rcases rule.modifier with _ | modifier
  · simp
  · cases modifier <;> simp [Modifier.kind]

/-- A redirecting rule is a regular one. -/
theorem of_eq_regular_of_isRedirect {rule : Rule} (h : rule.isRedirect = true)
    (hbad : rule.isBadfilter = false) : Group.of rule = .regular := by
  obtain ⟨resource, hmodifier⟩ := isRedirect_iff.mp h
  unfold Group.of
  rw [hbad, hmodifier]
  rfl

end Rule

namespace Regular

variable {r : SourceRule} {rule : Rule}

/-- What becomes of a regular rule. -/
def outcome (resources : Option String) (r : SourceRule) : Outcome :=
  match draft resources r with
  | .ok draft => .emit draft
  | .error reason => .reject r.index reason

theorem outcomes_eq_map (resources : Option String) (rules : List SourceRule) :
    outcomes resources rules = rules.map (outcome resources) := rfl

/-- The path of a resource is the base of the path, a slash and the resource. -/
theorem resourcePath_eq {path base : String} (h : Text.StripsTo path base) (resource : String) :
    resourcePath path resource = base ++ "/" ++ resource := by
  rw [← String.toList_inj, resourcePath, h.withoutEnd_eq]
  simp

/-- Only redirecting rules look at the path. -/
theorem action_congr (h : rule.isRedirect = false) (resources other : Option String) :
    action resources rule = action other rule := by
  unfold action
  rcases hmodifier : rule.modifier with _ | modifier
  · rfl
  · cases modifier with
    | redirect resource =>
      rw [Rule.isRedirect_iff.mpr ⟨resource, hmodifier⟩] at h
      cases h
    | csp policy => rfl
    | removeParam value => rfl
    | removeHeader value => rfl

/-- The reason to reject a redirecting rule when there is no path. -/
def redirectRejection (rule : Rule) : Rejection :=
  if rule.allowlist then .exception .redirect else .noResourcesPath

/-- Without a path, a redirecting rule has no action. -/
theorem action_none (h : rule.isRedirect = true) :
    action none rule = .error (redirectRejection rule) := by
  obtain ⟨resource, hmodifier⟩ := Rule.isRedirect_iff.mp h
  unfold action redirectRejection
  rw [hmodifier]
  cases rule.allowlist <;> rfl

/-- With a path, a redirecting rule that is no exception leads to its resource. -/
theorem action_some {resource : String} (h : rule.modifier = some (.redirect resource))
    (path : String) :
    action (some path) rule =
      if rule.allowlist then .error (.exception .redirect)
      else .ok (.toResource (resourcePath path resource)) := by
  unfold action
  rw [h]
  rfl

/-- Slashes at the end of the path do not matter to any rule. -/
theorem action_congr_slashes {p q : String}
    (h : Text.withoutEnd '/' p.toList = Text.withoutEnd '/' q.toList) (rule : Rule) :
    action (some p) rule = action (some q) rule := by
  cases hredirect : rule.isRedirect with
  | false => exact action_congr hredirect (some p) (some q)
  | true =>
    obtain ⟨resource, hmodifier⟩ := Rule.isRedirect_iff.mp hredirect
    rw [action_some hmodifier, action_some hmodifier, resourcePath, resourcePath, h]

/-- An action leads to a resource if and only if its rule asks for one. -/
theorem isSome_extensionPath?_of_action {resources : Option String} {made : Declarative.Action}
    (h : action resources rule = .ok made) : made.extensionPath?.isSome = rule.isRedirect := by
  cases hredirect : rule.isRedirect with
  | true =>
    obtain ⟨resource, hmodifier⟩ := Rule.isRedirect_iff.mp hredirect
    cases resources with
    | none =>
      rw [action_none hredirect] at h
      cases h
    | some path =>
      rw [action_some hmodifier] at h
      split at h
      · cases h
      · cases h
        rfl
  | false =>
    rw [action_congr hredirect resources none] at h
    unfold action at h
    split at h
    · cases h
      rfl
    · split at h <;> cases h
    · cases h

theorem isNone_extensionPath?_of_outcome {resources : Option String} {d : Draft}
    (h : outcome resources r = .emit d) :
    d.action.extensionPath?.isNone = !r.rule.isRedirect := by
  have hdraft : draft resources r = .ok d := by
    unfold outcome at h
    split at h
    · next made hmade => rw [hmade, Outcome.emit.inj h]
    · cases h
  rw [← isSome_extensionPath?_of_action (of_draft_eq_ok hdraft).1, Option.not_isSome]

theorem outcome_congr (h : r.rule.isRedirect = false) (resources other : Option String) :
    outcome resources r = outcome other r := by
  unfold outcome draft
  rw [action_congr h resources other]

theorem outcome_none (h : r.rule.isRedirect = true) :
    outcome none r = .reject r.index (redirectRejection r.rule) := by
  unfold outcome draft
  rw [action_none h]
  rfl

/-- Without a path, a rule has its draft unless the draft leads to a resource. -/
theorem draft?_outcome_none (path : String) (r : SourceRule) :
    (outcome none r).draft? =
      (outcome (some path) r).draft?.filter (·.action.extensionPath?.isNone) := by
  cases houtcome : outcome (some path) r with
  | reject index reason =>
    cases hredirect : r.rule.isRedirect with
    | true =>
      rw [outcome_none hredirect]
      rfl
    | false =>
      rw [outcome_congr hredirect none (some path), houtcome]
      rfl
  | emit d =>
    have hkeep := isNone_extensionPath?_of_outcome houtcome
    show _ = (some d).filter _
    rw [Option.filter_some, hkeep]
    cases hredirect : r.rule.isRedirect with
    | true =>
      rw [outcome_none hredirect]
      rfl
    | false =>
      rw [outcome_congr hredirect none (some path), houtcome]
      rfl

/-- With another path, a rule has the same outcome but for its target. -/
theorem alike_outcome (p q : String) (r : SourceRule) :
    (outcome (some p) r).Alike (Retargeted p q) (outcome (some q) r) := by
  cases hredirect : r.rule.isRedirect with
  | false =>
    rw [outcome_congr hredirect (some p) (some q)]
    cases houtcome : outcome (some q) r with
    | reject index reason => exact .reject index reason
    | emit d =>
      have haction := isNone_extensionPath?_of_outcome houtcome
      rw [hredirect] at haction
      replace haction := Option.isNone_iff_eq_none.mp haction
      exact .emit ⟨rfl, rfl, .same haction, rfl, rfl⟩
  | true =>
    obtain ⟨resource, hmodifier⟩ := Rule.isRedirect_iff.mp hredirect
    have hp := Text.stripsTo_withoutEnd p
    have hq := Text.stripsTo_withoutEnd q
    unfold outcome draft
    rw [action_some hmodifier, action_some hmodifier, resourcePath_eq hp, resourcePath_eq hq]
    cases r.rule.allowlist with
    | true => exact .reject _ _
    | false =>
      -- Whether the rule has a condition is the same with both paths.
      cases r.rule.condition with
      | error reason => exact .reject _ _
      | ok condition => exact .emit ⟨rfl, rfl, .resource resource hp hq, rfl, rfl⟩

end Regular

/-! ## Groups -/

/-- Only regular rules look at the path. -/
theorem Group.outcomes_congr {group : Group} (h : group ≠ .regular)
    (resources other : Option String) (rules : List SourceRule) :
    group.outcomes resources rules = group.outcomes other rules := by
  cases group with
  | regular => exact absurd rfl h
  | csp => rfl
  | removeParam => rfl
  | removeHeader => rfl
  | badFilter => rfl

/-- Only regular rules lead to a resource. -/
theorem Group.extensionPath?_of_mem_outcomes {resources : Option String} {group : Group}
    {rules : List SourceRule} {draft : Draft} (h : .emit draft ∈ group.outcomes resources rules)
    (hgroup : group ≠ .regular) : draft.action.extensionPath? = none := by
  obtain ⟨contributors, -, made, -⟩ := Group.exists_madeOf h
  have hacts := made.action
  generalize draft.action = action at hacts ⊢
  cases hacts with
  | regular => exact absurd rfl hgroup
  | csp => rfl
  | removeParam => rfl
  | removeHeader => rfl

/-- With another path, the rules of a group have the same outcomes but for their targets. -/
theorem Group.alike_outcomes (p q : String) (group : Group) (rules : List SourceRule) :
    List.Forall₂ (Outcome.Alike (Retargeted p q)) (group.outcomes (some p) rules)
      (group.outcomes (some q) rules) := by
  by_cases hgroup : group = .regular
  · subst hgroup
    show List.Forall₂ _ (Regular.outcomes _ rules) (Regular.outcomes _ rules)
    rw [Regular.outcomes_eq_map, Regular.outcomes_eq_map, List.forall₂_map_left_iff,
      List.forall₂_map_right_iff, List.forall₂_same]
    exact fun r _ => Regular.alike_outcome p q r
  · rw [Group.outcomes_congr hgroup (some p) (some q), List.forall₂_same]
    intro outcome houtcome
    cases outcome with
    | reject index reason => exact .reject index reason
    | emit draft =>
      have haction := Group.extensionPath?_of_mem_outcomes houtcome hgroup
      exact .emit ⟨rfl, rfl, .same haction, rfl, rfl⟩

/-- The report on a redirecting rule when there is no path. -/
def redirectReport (filterId : UInt32) (r : SourceRule) : ConversionError :=
  .unsupported filterId r.index (Regular.redirectRejection r.rule).message

namespace GroupOfFilter

/-- The same group without its redirecting rules. -/
def withoutRedirects (part : GroupOfFilter) : GroupOfFilter :=
  { part with rules := part.rules.filter fun r => !r.rule.isRedirect }

/-- The reports on the redirecting rules of the group when there is no path. -/
def redirectReports (part : GroupOfFilter) : List ConversionError :=
  (part.rules.filter (·.rule.isRedirect)).map (redirectReport part.filterId)

/-- Other groups than the regular one have no redirecting rules. -/
theorem isRedirect_of_mem {part : GroupOfFilter} (sorted : part.Sorted)
    (hgroup : part.group ≠ .regular) {r : SourceRule} (hr : r ∈ part.rules) :
    r.rule.isRedirect = false := by
  obtain ⟨hof, hbad⟩ := sorted r hr
  cases hredirect : r.rule.isRedirect with
  | false => rfl
  | true => exact absurd (hof ▸ Rule.of_eq_regular_of_isRedirect hredirect hbad) hgroup

theorem withoutRedirects_eq_self {part : GroupOfFilter} (sorted : part.Sorted)
    (hgroup : part.group ≠ .regular) : part.withoutRedirects = part := by
  have hrules : part.rules.filter (fun r => !r.rule.isRedirect) = part.rules := by
    rw [List.filter_eq_self]
    intro r hr
    rw [isRedirect_of_mem sorted hgroup hr]
    rfl
  rw [withoutRedirects, hrules]

/-- The outcomes of a regular group, each rule with its own. -/
theorem outcomes_regular (resources : Option String) (filterId : UInt32)
    (rules : List SourceRule) :
    outcomes resources ⟨filterId, .regular, rules⟩ =
      rules.map fun r => (filterId, Regular.outcome resources r) := by
  show (Regular.outcomes resources rules).map _ = _
  rw [Regular.outcomes_eq_map, List.map_map]
  rfl

/-- Without a path, the drafts of a group are those that do not lead to a resource. -/
theorem draftsOf_outcomes_none {part : GroupOfFilter} (path : String) :
    draftsOf (part.outcomes none) =
      (draftsOf (part.outcomes (some path))).filter (·.2.action.extensionPath?.isNone) := by
  obtain ⟨filterId, group, rules⟩ := part
  by_cases hgroup : group = .regular
  · subst hgroup
    rw [outcomes_regular, outcomes_regular, draftsOf, draftsOf, List.filter_filterMap,
      List.filterMap_map, List.filterMap_map]
    refine List.filterMap_congr fun r _ => ?_
    dsimp only [Function.comp_apply]
    rw [Regular.draft?_outcome_none path, Option.filter_map]
    rfl
  · have hsame : outcomes (some path) ⟨filterId, group, rules⟩ =
        outcomes none ⟨filterId, group, rules⟩ := by
      unfold outcomes
      rw [Group.outcomes_congr hgroup]
    rw [hsame, eq_comm, List.filter_eq_self]
    intro labelled hdraft
    obtain ⟨outcome, houtcome, heq⟩ := List.mem_map.mp (mem_draftsOf.mp hdraft)
    rw [(Prod.mk.inj heq).2] at houtcome
    rw [Group.extensionPath?_of_mem_outcomes houtcome hgroup]
    rfl

/-- Without a path, redirecting rules have no drafts. -/
theorem draftsOf_withoutRedirects {part : GroupOfFilter} (sorted : part.Sorted) :
    draftsOf (part.withoutRedirects.outcomes none) = draftsOf (part.outcomes none) := by
  by_cases hgroup : part.group = .regular
  · obtain ⟨filterId, group, rules⟩ := part
    dsimp only at hgroup
    subst hgroup
    rw [withoutRedirects, outcomes_regular, outcomes_regular, draftsOf, draftsOf,
      List.filterMap_map, List.filterMap_map, List.filterMap_filter]
    refine List.filterMap_congr fun r _ => ?_
    cases hredirect : r.rule.isRedirect with
    | true =>
      dsimp only [Function.comp_apply]
      rw [Regular.outcome_none hredirect]
      rfl
    | false => rfl
  · rw [withoutRedirects_eq_self sorted hgroup]

/-- Without a path, redirecting rules are reported next to what is reported anyway. -/
theorem rejections_withoutRedirects_perm {part : GroupOfFilter} (sorted : part.Sorted) :
    ((part.outcomes none).filterMap rejection?).Perm
      (part.redirectReports ++ (part.withoutRedirects.outcomes none).filterMap rejection?) := by
  by_cases hgroup : part.group = .regular
  · obtain ⟨filterId, group, rules⟩ := part
    dsimp only at hgroup
    subst hgroup
    have hsplit := (List.filter_append_perm (·.rule.isRedirect) rules).filterMap
      fun r => rejection? (filterId, Regular.outcome none r)
    have hredirects : (rules.filter (·.rule.isRedirect)).filterMap
        (fun r => rejection? (filterId, Regular.outcome none r)) =
          (rules.filter (·.rule.isRedirect)).map (redirectReport filterId) := by
      rw [← List.filterMap_eq_map]
      refine List.filterMap_congr fun r hr => ?_
      rw [Regular.outcome_none (List.mem_filter.mp hr).2]
      rfl
    rw [List.filterMap_append, hredirects] at hsplit
    rw [withoutRedirects, outcomes_regular, outcomes_regular, List.filterMap_map,
      List.filterMap_map]
    exact hsplit.symm
  · have hnone : part.redirectReports = [] := by
      unfold redirectReports
      rw [List.map_eq_nil_iff, List.filter_eq_nil_iff]
      intro r hr
      rw [isRedirect_of_mem sorted hgroup hr]
      exact Bool.false_ne_true
    rw [withoutRedirects_eq_self sorted hgroup, hnone, List.nil_append]

end GroupOfFilter

end Blocklist
