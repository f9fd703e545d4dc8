import Mathlib.Data.List.Forall2
import Blocklist.Proofs.Conditions
import Blocklist.Proofs.Emission
import Blocklist.Proofs.Trimming

/-! # Groups and those who convert them

A rule is sorted into its group by its modifier, and the converter of the group looks at the
modifier again. Both agree, so that no rule ever comes to a converter that does not know it.

* `Group.mismatch_iff`: a converter refuses the modifier of a rule that belongs elsewhere;
* `Rejection.isMismatch_of_message`: the wording of such a refusal is used for nothing else;
* `convert_congr_rearranged`: the order of the rules matters inside each group only;
* `groups_partition`: the groups are a partition, and no conversion reports a refusal.
-/

namespace Blocklist

open Badfilter

/-! ## Refusals -/

/-- The reason is that the converter does not know the modifier. -/
inductive Rejection.IsMismatch : Rejection → Prop where
  | irregular (kind : ModifierKind) : IsMismatch (.irregular kind)
  | expected (kind : ModifierKind) : IsMismatch (.expected kind)

/-- The reason that an error gives. -/
def ConversionError.reason : ConversionError → String
  | unsupported _ _ reason => reason
  | degraded _ _ _ reason => reason

/-- The group of the rules that have a modifier of the kind, or none. -/
def Group.ofKind (kind : Option ModifierKind) : Group :=
  match kind with
  | some .csp => csp
  | some .removeParam => removeParam
  | some .removeHeader => removeHeader
  | some .redirect | none => regular

/-- Apart from being a badfilter rule, a rule has the group of its modifier. -/
theorem Group.of_twin (rule : Rule) :
    Group.of rule.twin = ofKind (rule.modifier.map Modifier.kind) := rfl

/-- No flaw of a condition is a refusal. -/
theorem Rule.not_isMismatch_of_condition {rule : Rule} {reason : Rejection}
    (h : rule.condition = .error reason) : ¬ reason.IsMismatch := by
  intro hmismatch
  have hflaw := flawed_of_condition h
  cases hmismatch <;> cases hflaw

section Converters

variable {r : SourceRule} {reason : Rejection}

theorem Regular.not_isMismatch {resources : Option String}
    (hmodifier : r.rule.modifier = none ∨ ∃ resource, r.rule.modifier = some (.redirect resource))
    (h : draft resources r = .error reason) : ¬ reason.IsMismatch := by
  unfold draft at h
  rcases bind_eq_error_iff.mp h with haction | ⟨made, -, hrest⟩
  · unfold action at haction
    rcases hmodifier with hnone | ⟨resource, hredirect⟩
    · rw [hnone] at haction
      cases haction
    · rw [hredirect] at haction
      dsimp only at haction
      split at haction
      · cases haction
        exact fun hmismatch => by cases hmismatch
      · split at haction <;> cases haction
        exact fun hmismatch => by cases hmismatch
  · rcases bind_eq_error_iff.mp hrest with hcondition | ⟨condition, -, hdone⟩
    · exact Rule.not_isMismatch_of_condition hcondition
    · cases hdone

theorem Csp.not_isMismatch {policy : String} (hmodifier : r.rule.modifier = some (.csp policy))
    (h : contribution r = .error reason) : ¬ reason.IsMismatch := by
  unfold contribution at h
  rw [hmodifier] at h
  dsimp only at h
  split at h
  · cases h
    exact fun hmismatch => by cases hmismatch
  · exact Rule.not_isMismatch_of_condition (eq_error_of_map h)

theorem RemoveParam.not_isMismatch {value : String}
    (hmodifier : r.rule.modifier = some (.removeParam value))
    (h : contribution r = .error reason) : ¬ reason.IsMismatch := by
  unfold contribution at h
  rw [hmodifier] at h
  dsimp only at h
  split at h
  · cases h
    exact fun hmismatch => by cases hmismatch
  · split at h
    · cases h
      exact fun hmismatch => by cases hmismatch
    · cases h
      exact fun hmismatch => by cases hmismatch
    · exact Rule.not_isMismatch_of_condition (eq_error_of_map h)
    · exact Rule.not_isMismatch_of_condition (eq_error_of_map h)

theorem RemoveHeader.not_isMismatch {value : String}
    (hmodifier : r.rule.modifier = some (.removeHeader value))
    (h : contribution r = .error reason) : ¬ reason.IsMismatch := by
  unfold contribution at h
  rw [hmodifier] at h
  dsimp only at h
  split at h
  · cases h
    exact fun hmismatch => by cases hmismatch
  · split at h
    · cases h
      exact fun hmismatch => by cases hmismatch
    · split at h
      · cases h
        exact fun hmismatch => by cases hmismatch
      · exact Rule.not_isMismatch_of_condition (eq_error_of_map h)

/-- A rule that is not regular has a modifier, and it is the one that is named. -/
theorem Regular.draft_of_ne {resources : Option String}
    (h : Group.ofKind (r.rule.modifier.map Modifier.kind) ≠ .regular) :
    ∃ modifier : Modifier, draft resources r = .error (.irregular modifier.kind) := by
  unfold draft action
  rcases hmodifier : r.rule.modifier with _ | modifier
  · rw [hmodifier] at h
    exact absurd rfl h
  · cases modifier with
    | redirect resource =>
      rw [hmodifier] at h
      exact absurd rfl h
    | csp policy => exact ⟨.csp policy, rfl⟩
    | removeParam value => exact ⟨.removeParam value, rfl⟩
    | removeHeader value => exact ⟨.removeHeader value, rfl⟩

theorem Csp.contribution_of_ne (h : Group.ofKind (r.rule.modifier.map Modifier.kind) ≠ .csp) :
    contribution r = .error (.expected .csp) := by
  unfold contribution
  split
  · next policy hmodifier =>
    rw [hmodifier] at h
    exact absurd rfl h
  · rfl

theorem RemoveParam.contribution_of_ne
    (h : Group.ofKind (r.rule.modifier.map Modifier.kind) ≠ .removeParam) :
    contribution r = .error (.expected .removeParam) := by
  unfold contribution
  split
  · next value hmodifier =>
    rw [hmodifier] at h
    exact absurd rfl h
  · rfl

theorem RemoveHeader.contribution_of_ne
    (h : Group.ofKind (r.rule.modifier.map Modifier.kind) ≠ .removeHeader) :
    contribution r = .error (.expected .removeHeader) := by
  unfold contribution
  split
  · next value hmodifier =>
    rw [hmodifier] at h
    exact absurd rfl h
  · rfl

end Converters

namespace Group

variable {resources : Option String} {group : Group} {r : SourceRule} {reason : Rejection}

/-- A converter does not refuse a rule of its group. -/
theorem not_isMismatch_of_verdict (hof : Group.of r.rule.twin = group)
    (h : group.verdict resources r = .error reason) : ¬ reason.IsMismatch := by
  rw [of_twin] at hof
  subst hof
  rcases hmodifier : r.rule.modifier with _ | modifier
  · rw [hmodifier] at h
    exact Regular.not_isMismatch (.inl hmodifier) (eq_error_of_map h)
  · rw [hmodifier] at h
    cases modifier with
    | redirect resource =>
      exact Regular.not_isMismatch (.inr ⟨resource, hmodifier⟩) (eq_error_of_map h)
    | csp policy => exact Csp.not_isMismatch hmodifier (eq_error_of_map h)
    | removeParam value => exact RemoveParam.not_isMismatch hmodifier (eq_error_of_map h)
    | removeHeader value => exact RemoveHeader.not_isMismatch hmodifier (eq_error_of_map h)

/-- A converter refuses every rule of another group. -/
theorem exists_mismatch_of_ne (hgroup : group ≠ .badFilter) (hof : Group.of r.rule.twin ≠ group) :
    ∃ reason, reason.IsMismatch ∧ group.verdict resources r = .error reason := by
  rw [of_twin] at hof
  cases group with
  | badFilter => exact absurd rfl hgroup
  | regular =>
    obtain ⟨modifier, hdraft⟩ := Regular.draft_of_ne hof
    exact ⟨_, .irregular modifier.kind, congrArg (Except.map _) hdraft⟩
  | csp => exact ⟨_, .expected .csp, congrArg (Except.map _) (Csp.contribution_of_ne hof)⟩
  | removeParam =>
    exact ⟨_, .expected .removeParam, congrArg (Except.map _) (RemoveParam.contribution_of_ne hof)⟩
  | removeHeader =>
    exact ⟨_, .expected .removeHeader,
      congrArg (Except.map _) (RemoveHeader.contribution_of_ne hof)⟩

/-- Sorting and converting agree on what belongs to a group. -/
theorem mismatch_iff (hgroup : group ≠ .badFilter) :
    (∃ reason, reason.IsMismatch ∧ group.verdict resources r = .error reason) ↔
      Group.of r.rule.twin ≠ group := by
  constructor
  · rintro ⟨reason, hmismatch, hverdict⟩ hof
    exact not_isMismatch_of_verdict hof hverdict hmismatch
  · exact exists_mismatch_of_ne hgroup

end Group

/-! ## Wordings -/

/-- The first two letters of a text. -/
def Text.opening (text : String) : List Char :=
  text.toList.take 2

theorem Text.opening_append {first : String} (h : 2 ≤ first.toList.length) (rest : String) :
    opening (first ++ rest) = opening first := by
  unfold opening
  rw [String.toList_append, List.take_append_of_le_length h]

/-- The text begins as a refusal does. -/
def Text.ResemblesRefusal (text : String) : Prop :=
  opening text = ['e', 'x'] ∨ (opening text).head? = some '$'

/-- The wording of a refusal. -/
def IsRefusal (text : String) : Prop :=
  ∃ kind : ModifierKind, text = "expected a $" ++ kind.name ++ " rule" ∨
    text = "$" ++ kind.name ++ " is not a regular rule modifier"

theorem IsRefusal.resembles {text : String} (h : IsRefusal text) :
    Text.ResemblesRefusal text := by
  obtain ⟨kind, rfl | rfl⟩ := h
  · refine .inl ?_
    rw [String.append_assoc, Text.opening_append (by decide)]
    rfl
  · refine .inr ?_
    cases kind <;> rfl

/-- Only refusals are worded like refusals. -/
theorem Rejection.isMismatch_of_message {reason : Rejection} (h : IsRefusal reason.message) :
    reason.IsMismatch := by
  have hopening := h.resembles
  unfold Text.ResemblesRefusal at hopening
  cases reason with
  | irregular kind => exact .irregular kind
  | expected kind => exact .expected kind
  | exception kind =>
    dsimp only [message] at hopening
    rw [String.append_assoc, Text.opening_append (by decide)] at hopening
    exact absurd hopening (by decide)
  | unsupportedRestriction domain =>
    dsimp only [message] at hopening
    rw [Text.opening_append (by decide)] at hopening
    exact absurd hopening (by decide)
  | protectedHeader value =>
    dsimp only [message] at hopening
    rw [Text.opening_append (by decide)] at hopening
    exact absurd hopening (by decide)
  | invalidRegex | nonAsciiPattern | wildcardAnchor | noSupportedDomain | noResourceType
  | noResourcesPath | invertedParam | regexParam | emptyHeader =>
    exact absurd hopening (by decide)

/-- Reports on domains that were left out are not worded like refusals. -/
theorem not_isRefusal_droppedDomainsMessage (domains : List String) :
    ¬ IsRefusal (droppedDomainsMessage domains) := by
  intro h
  have hopening := h.resembles
  unfold Text.ResemblesRefusal droppedDomainsMessage at hopening
  rw [Text.opening_append (by decide)] at hopening
  exact absurd hopening (by decide)

/-! ## Errors of a conversion -/

section Merged

variable {α : Type} {contribution : SourceRule → Except Rejection (Contribution α)}
  {action : List α → Declarative.Action} {rules : List SourceRule}

/-- A rejection among merged outcomes is that of a rule. -/
theorem exists_of_reject_mem_mergedOutcomes {index : UInt32} {reason : Rejection}
    (h : .reject index reason ∈ mergedOutcomes contribution action rules) :
    ∃ r ∈ rules, contribution r = .error reason := by
  rcases List.mem_append.mp h with hrejection | hmerged
  · obtain ⟨r, hr, hsome⟩ := List.mem_filterMap.mp hrejection
    refine ⟨r, hr, ?_⟩
    cases hcontribution : contribution r with
    | ok c => simp [hcontribution] at hsome
    | error other =>
      simp only [hcontribution, Option.some.injEq, Outcome.reject.injEq] at hsome
      rw [hsome.2]
  · obtain ⟨b, -, hb⟩ := List.mem_map.mp hmerged
    cases hb

theorem notes_of_mem_mergedOutcomes {draft : Draft}
    (h : .emit draft ∈ mergedOutcomes contribution action rules) :
    ∀ note ∈ draft.notes, ∃ domains, note.2 = droppedDomainsMessage domains := by
  obtain ⟨b, -, rfl⟩ := exists_bucket_of_mem_mergedOutcomes h
  intro note hnote
  obtain ⟨c, -, hc⟩ := List.mem_filterMap.mp hnote
  unfold Contribution.note? at hc
  split at hc
  · cases hc
  · cases hc
    exact ⟨c.dropped, rfl⟩

end Merged

namespace Group

variable {resources : Option String} {group : Group} {rules : List SourceRule}

/-- A rejection among the outcomes of a group is its verdict on one of the rules. -/
theorem exists_of_reject_mem_outcomes {index : UInt32} {reason : Rejection}
    (h : .reject index reason ∈ group.outcomes resources rules) :
    ∃ r ∈ rules, group.verdict resources r = .error reason := by
  cases group with
  | regular =>
    obtain ⟨r, hr, houtcome⟩ := List.mem_map.mp h
    refine ⟨r, hr, ?_⟩
    show (Regular.draft resources r).map _ = _
    cases hdraft : Regular.draft resources r with
    | ok draft => simp [hdraft] at houtcome
    | error other =>
      simp only [hdraft, Outcome.reject.injEq] at houtcome
      rw [houtcome.2]
      rfl
  | csp =>
    obtain ⟨r, hr, hcontribution⟩ := exists_of_reject_mem_mergedOutcomes h
    exact ⟨r, hr, congrArg (Except.map _) hcontribution⟩
  | removeParam =>
    obtain ⟨r, hr, hcontribution⟩ := exists_of_reject_mem_mergedOutcomes h
    exact ⟨r, hr, congrArg (Except.map _) hcontribution⟩
  | removeHeader =>
    obtain ⟨r, hr, hcontribution⟩ := exists_of_reject_mem_mergedOutcomes h
    exact ⟨r, hr, congrArg (Except.map _) hcontribution⟩
  | badFilter => cases h

/-- What a draft reports is that domains were left out. -/
theorem notes_of_mem_outcomes {draft : Draft} (h : .emit draft ∈ group.outcomes resources rules) :
    ∀ note ∈ draft.notes, ∃ domains, note.2 = droppedDomainsMessage domains := by
  cases group with
  | regular =>
    obtain ⟨r, -, hdraft⟩ := Regular.exists_rule_of_mem_outcomes h
    unfold Regular.draft at hdraft
    obtain ⟨made, -, hrest⟩ := exists_ok_of_bind hdraft
    obtain ⟨condition, -, hdone⟩ := exists_ok_of_bind hrest
    cases hdone
    intro note hnote
    dsimp only at hnote
    split at hnote
    · cases hnote
    · rw [List.mem_singleton.mp hnote]
      exact ⟨r.rule.droppedDomains, rfl⟩
  | csp => exact notes_of_mem_mergedOutcomes h
  | removeParam => exact notes_of_mem_mergedOutcomes h
  | removeHeader => exact notes_of_mem_mergedOutcomes h
  | badFilter => cases h

end Group

/-! ## Conversions -/

open GroupOfFilter

/-- The same filter, but for rules of different groups that may have changed places. -/
structure Filter.Rearranged (a b : Filter) : Prop where
  id : a.id = b.id
  order : ∀ group, (a.rules.filter fun r => Group.of r.rule = group) =
    b.rules.filter fun r => Group.of r.rule = group

namespace Filter.Rearranged

variable {a b : Filter}

/-- Once they are sorted, the rules are the same. -/
theorem ofRules_eq (h : a.Rearranged b) :
    GroupedRules.ofRules a.rules = GroupedRules.ofRules b.rules := by
  ext1 group
  rw [GroupedRules.get_ofRules, GroupedRules.get_ofRules, h.order group]

/-- No rule is lost or added. -/
theorem perm (h : a.Rearranged b) : a.rules.Perm b.rules := by
  have hb := GroupedRules.toList_ofRules_perm b.rules
  rw [← h.ofRules_eq] at hb
  exact (GroupedRules.toList_ofRules_perm a.rules).symm.trans hb

end Filter.Rearranged

variable {options : Options} {filters other : List Filter}

/-- The order of the rules matters inside each group only. -/
theorem convert_congr_rearranged (options : Options)
    (h : List.Forall₂ Filter.Rearranged filters other) :
    convert options filters = convert options other := by
  have hgrouped : filters.map GroupedFilter.ofFilter = other.map GroupedFilter.ofFilter := by
    induction h with
    | nil => rfl
    | @cons a b filters other hab hrest ih =>
      have hfilter : GroupedFilter.ofFilter a = GroupedFilter.ofFilter b := by
        rw [GroupedFilter.ofFilter, GroupedFilter.ofFilter, hab.id, hab.ofRules_eq]
      rw [List.map_cons, List.map_cons, hfilter, ih]
  unfold convert
  rw [hgrouped]

/-- No rule of a group is refused by its converter. -/
theorem GroupOfFilter.not_isMismatch_of_reject {part : GroupOfFilter} (sorted : part.Sorted)
    {resources : Option String} {index : UInt32} {reason : Rejection}
    (h : .reject index reason ∈ part.group.outcomes resources part.rules) :
    ¬ reason.IsMismatch := by
  obtain ⟨r, hr, hverdict⟩ := Group.exists_of_reject_mem_outcomes h
  obtain ⟨hof, hplain⟩ := sorted r hr
  have htwin : Group.of r.rule.twin = part.group := by
    rw [← hof, Group.of, Group.of, hplain]
    rfl
  exact Group.not_isMismatch_of_verdict htwin hverdict

/-- No error of a conversion is worded like a refusal. -/
theorem not_isRefusal_of_mem_errors
    (hids : firstId.toNat + draftCount ((options.outcomes (erase filters)).map Prod.snd) ≤
      UInt32.size) {e : ConversionError} (he : e ∈ (options.runOn filters).result.errors) :
    ¬ IsRefusal e.reason := by
  have hplain : ∀ filter ∈ erase filters, ∀ r ∈ filter.rules, r.rule.isBadfilter = false :=
    isBadfilter_eraseBy (negators filters) filters
  have hpart : ∀ {filterId outcome}, (filterId, outcome) ∈ options.outcomes (erase filters) →
      ∃ part ∈ ofBatch ((erase filters).map .ofFilter),
        outcome ∈ part.group.outcomes options.resourcesPath part.rules := by
    intro filterId outcome h
    rw [Options.outcomes_eq_flatMap] at h
    obtain ⟨part, hmem, houtcome⟩ := List.mem_flatMap.mp h
    obtain ⟨made, hmade, heq⟩ := List.mem_map.mp houtcome
    rw [← (Prod.mk.inj heq).2]
    exact ⟨part, hmem, hmade⟩
  obtain ⟨kept, hsub, -, -, herrors⟩ := exists_kept hids options.limits
  change e ∈ (options.limits.enforce _).errors at he
  rw [herrors] at he
  rcases List.mem_append.mp he with hdegraded | hrejected
  · obtain ⟨numbered, hnumbered, hnote⟩ := List.mem_flatMap.mp hdegraded
    obtain ⟨note, hmem, rfl⟩ := List.mem_map.mp hnote
    obtain ⟨part, -, hdraft⟩ := hpart (mem_of_mem_numberedFrom (hsub.subset hnumbered))
    obtain ⟨domains, hdomains⟩ := Group.notes_of_mem_outcomes hdraft note hmem
    show ¬ IsRefusal note.2
    rw [hdomains]
    exact not_isRefusal_droppedDomainsMessage domains
  · obtain ⟨⟨filterId, outcome⟩, hmem, hreport⟩ := List.mem_filterMap.mp hrejected
    cases outcome with
    | emit draft => cases hreport
    | reject index reason =>
      cases hreport
      obtain ⟨part, hsorted, houtcome⟩ := hpart hmem
      intro hrefusal
      exact not_isMismatch_of_reject (sorted_of_mem_ofBatch hplain hsorted) houtcome
        (Rejection.isMismatch_of_message hrefusal)

/-- The groups are a partition that keeps the order, and the converters agree with it: they refuse
just the rules that belong elsewhere. So it does not matter how rules of different groups stand to
each other, and no conversion reports that a rule came to the wrong converter. -/
theorem groups_partition (options : Options) :
    (∀ (rules : List SourceRule) (group : Group),
      (GroupedRules.ofRules rules).get group =
        rules.filter fun r => Group.of r.rule = group) ∧
    (∀ rules : List SourceRule,
      (GroupedRules.ofRules rules).toList.Perm rules ∧
      (GroupedRules.ofRules rules).size = rules.length ∧
      ∀ r ∈ rules, ∃! group, r ∈ (GroupedRules.ofRules rules).get group) ∧
    (∀ (group : Group) (r : SourceRule), group ≠ .badFilter →
      ((∃ reason, reason.IsMismatch ∧ group.verdict options.resourcesPath r = .error reason) ↔
        Group.of r.rule.twin ≠ group)) ∧
    (∀ filters other : List Filter, List.Forall₂ Filter.Rearranged filters other →
      convert options filters = convert options other) ∧
    ∀ (filters : List Filter) (run : Run), convert options filters = .ok run →
      ∀ e ∈ run.result.errors, ∀ kind : ModifierKind,
        e.reason ≠ "expected a $" ++ kind.name ++ " rule" ∧
        e.reason ≠ "$" ++ kind.name ++ " is not a regular rule modifier" := by
  refine ⟨fun rules group => GroupedRules.get_ofRules rules group, fun rules => ?partition,
    fun group r hgroup => Group.mismatch_iff hgroup,
    fun filters other h => convert_congr_rearranged options h, ?refusals⟩
  case partition =>
    have hperm := GroupedRules.toList_ofRules_perm rules
    refine ⟨hperm, hperm.length_eq, fun r hr => ⟨Group.of r.rule, ?_, fun group hgroup => ?_⟩⟩
    · exact GroupedRules.mem_get_ofRules.mpr ⟨hr, rfl⟩
    · exact (GroupedRules.mem_get_ofRules.mp hgroup).2.symm
  case refusals =>
    intro filters run hrun e he kind
    have enough : convert options filters ≠ .error .idsExhausted := by
      rw [hrun]
      exact fun h => by cases h
    obtain ⟨hdone, hids⟩ := convert_eq_ok enough
    rw [Except.ok.inj (hrun.symm.trans hdone)] at he
    have hnot := not_isRefusal_of_mem_errors hids he
    exact ⟨fun h => hnot ⟨kind, .inl h⟩, fun h => hnot ⟨kind, .inr h⟩⟩

/-- Rules of a filter, of which the policies stand before or between the others. -/
def sampleOrder (policiesFirst : Bool) : List SourceRule :=
  let policies := [samplePolicy 2 "sandbox", samplePolicy 3 "img-src https:"]
  let blocks := [sampleBlock 0 "||ads.example^" false, sampleBlock 4 "||*.example^" false]
  if policiesFirst then policies ++ blocks
  else blocks.take 1 ++ policies ++ blocks.drop 1

/-- In either order there is one error, which is no refusal. The converter of regular rules would
refuse the policies. -/
theorem groups_partition_sample :
    convert {} [⟨7, sampleOrder true⟩] = convert {} [⟨7, sampleOrder false⟩] ∧
    sampleOrder true ≠ sampleOrder false ∧
    (convert {} [⟨7, sampleOrder true⟩]).toOption.map (fun run =>
      run.result.errors.map ConversionError.reason) =
        some ["url filter can not start with ||*"] ∧
    (∃ run, convert {} [⟨7, sampleOrder true⟩] = .ok run ∧
      ∀ e ∈ run.result.errors, ∀ kind : ModifierKind,
        e.reason ≠ "expected a $" ++ kind.name ++ " rule" ∧
        e.reason ≠ "$" ++ kind.name ++ " is not a regular rule modifier") ∧
    ∃ reason, Rejection.IsMismatch reason ∧
      Group.verdict none .regular (samplePolicy 2 "sandbox") = .error reason := by
  obtain ⟨-, -, hagree, horder, hrefusals⟩ := groups_partition {}
  have hsame : List.Forall₂ Filter.Rearranged [⟨7, sampleOrder true⟩] [⟨7, sampleOrder false⟩] := by
    refine .cons ⟨rfl, fun group => ?_⟩ .nil
    cases group <;> decide
  have enough : convert {} [⟨7, sampleOrder true⟩] ≠ .error .idsExhausted := by
    decide +kernel
  have hrun := (convert_eq_ok enough).1
  exact ⟨horder _ _ hsame, by decide, by decide +kernel, ⟨_, hrun, hrefusals _ _ hrun⟩,
    (hagree .regular (samplePolicy 2 "sandbox") (by decide)).mpr (by decide)⟩

end Blocklist
