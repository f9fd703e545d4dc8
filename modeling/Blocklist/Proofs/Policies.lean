import Mathlib.Data.List.Basic
import Blocklist.Proofs.Assembly
import Blocklist.Proofs.Removals

/-! # Policies do not report

Each policy is checked by itself, when its option is read. What is sent with a page is a text that
several policies are joined to, and it holds no report directive either: none can come about where
two policies meet, for there is a semicolon and a blank between them.

* `IsSilent.join`: two policies without report directives, joined;
* `Modifier.make_csp_eq_ok_iff`: which policies are taken;
* `Rule.policy?_withOptions`: the policy of a rule is the value of its policy option;
* `Rule.BuiltBy.isSilent`: it sends no reports unless the rule is an exception;
* `convert_policies`: no policy that a declarative rule adds is empty or sends reports.
-/

namespace Blocklist

open Badfilter

/-! ## Policies and what they are joined to -/

namespace Text

theorem eq_nil_of_prefix_cons {mark : Char} {needle text : List Char} (hmark : mark ∉ needle)
    (h : needle <+: mark :: text) : needle = [] := by
  rcases List.prefix_cons_iff.mp h with hnil | ⟨rest, rfl, -⟩
  · exact hnil
  · exact absurd List.mem_cons_self hmark

/-- Characters that stand next to each other and are not the mark stand on one side of it. -/
theorem infix_of_infix_cut {mark : Char} {needle left right : List Char} (hmark : mark ∉ needle)
    (h : needle <:+: left ++ mark :: right) : needle <:+: left ∨ needle <:+: right := by
  rcases List.infix_append_iff.mp h with hleft | hright | ⟨front, back, rfl, hfront, hback⟩
  · exact .inl hleft
  · rcases List.infix_cons_iff.mp hright with hstart | hright
    · rw [eq_nil_of_prefix_cons hmark hstart]
      exact .inr List.nil_infix
    · exact .inr hright
  · -- What lies across would begin on the right with the mark.
    have hnone : back = [] :=
      eq_nil_of_prefix_cons (fun hmem => hmark (List.mem_append_right _ hmem)) hback
    rw [hnone, List.append_nil]
    exact .inl hfront.isInfix

end Text

/-- The policy is not empty, and no report directive is named in it, whatever the case of its
letters. -/
structure IsSilent (policy : String) : Prop where
  nonempty : policy ≠ ""
  silent : ∀ directive : ReportDirective,
    ¬ directive.name.toList <:+: (Text.lower policy).toList

/-- No report directive is named across two policies. -/
theorem IsSilent.join {first rest : String} (h : IsSilent first) (hrest : IsSilent rest) :
    IsSilent (first ++ "; " ++ rest) where
  nonempty := by
    intro hempty
    have hfirst := congrArg String.toList hempty
    simp at hfirst
  silent := by
    intro directive hnamed
    have hsemicolon : ';' ∉ directive.name.toList := by
      cases directive <;> decide
    have hblank : ' ' ∉ directive.name.toList := by
      cases directive <;> decide
    have htext : (Text.lower (first ++ "; " ++ rest)).toList =
        (Text.lower first).toList ++ ';' :: ([] ++ ' ' :: (Text.lower rest).toList) := by
      simp
    rw [htext] at hnamed
    rcases Text.infix_of_infix_cut hsemicolon hnamed with hfirst | hnamed
    · exact h.silent directive hfirst
    · rcases Text.infix_of_infix_cut hblank hnamed with hnone | hafter
      · exact hrest.silent directive (hnone.trans List.nil_infix)
      · exact hrest.silent directive hafter

theorem isSilent_joined {policies : List String} (hne : policies ≠ [])
    (h : ∀ policy ∈ policies, IsSilent policy) : IsSilent (Text.joined "; " policies) := by
  induction policies with
  | nil => exact absurd rfl hne
  | cons first rest ih =>
    obtain ⟨hfirst, hrest⟩ := List.forall_mem_cons.mp h
    cases rest with
    | nil => exact hfirst
    | cons second more => exact hfirst.join (ih (List.cons_ne_nil _ _) hrest)

/-- Silent policies are those without the directives that are looked for. -/
theorem isSilent_iff {policy : String} :
    IsSilent policy ↔ policy ≠ "" ∧ Modifier.reportDirective? policy = none := by
  simp only [Modifier.reportDirective?, List.find?_eq_none, Text.occursIn_eq_true_iff,
    List.forall_mem_cons, List.not_mem_nil, false_implies, implies_true, and_true]
  constructor
  · rintro ⟨hne, hsilent⟩
    exact ⟨hne, hsilent .reportUri, hsilent .reportTo⟩
  · rintro ⟨hne, huri, hto⟩
    refine ⟨hne, fun directive => ?_⟩
    cases directive with
    | reportUri => exact huri
    | reportTo => exact hto

/-! ## Policies of rules -/

/-- The policy that the modifier adds. -/
def Modifier.policy? : Modifier → Option String
  | csp policy => some policy
  | _ => none

/-- Values of the policy options among some options, without the blanks around them. -/
def policyValues (options : List (String × String)) : List String :=
  options.filterMap fun o => if optionName o.1 = "csp" then some (Text.trim o.2) else none

theorem Modifier.policy?_eq_none {m : Modifier} (h : m.kind ≠ .csp) : m.policy? = none := by
  cases m with
  | csp policy => exact absurd rfl h
  | removeParam | removeHeader | redirect => rfl

/-- A policy is taken if it is silent, and any policy is for an exception. The blanks around it are
left out. -/
theorem Modifier.make_csp_eq_ok_iff {value : String} {allowlist : Bool} {m : Modifier} :
    make .csp value allowlist = .ok m ↔
      (allowlist = true ∨ IsSilent (Text.trim value)) ∧ csp (Text.trim value) = m := by
  unfold make
  dsimp only
  rw [isSilent_iff]
  split
  · next hallowlist => simp [hallowlist]
  · next hallowlist =>
    split
    · next hempty => simp [hallowlist, hempty]
    · next hne =>
      split
      · next directive hdirective => simp [hallowlist, hdirective]
      · next hnone => simp [hne, hnone]

theorem policyValues_singleton (name value : String) :
    policyValues [(name, value)] = if optionName name = "csp" then [Text.trim value] else [] := by
  unfold policyValues
  split
  · next hname => simp [hname]
  · next hname => simp [hname]

theorem policyValues_cons (name value : String) (rest : List (String × String)) :
    policyValues ((name, value) :: rest) =
      policyValues [(name, value)] ++ policyValues rest :=
  List.filterMap_append (l := [(name, value)])

theorem optionName_eq_csp_iff {name : String} :
    optionName name = "csp" ↔ ModifierKind.ofName? (optionName name) = some .csp := by
  constructor
  · intro hname
    rw [hname]
    rfl
  · intro hkind
    exact (ModifierKind.name_eq_of_ofName? hkind).symm

theorem Setting.policies_of_parse {name value : String} {allowlist : Bool} {setting : Setting}
    (h : parse name value allowlist = .ok setting) :
    setting.modifier?.toList.filterMap Modifier.policy? = policyValues [(name, value)] := by
  simp only [policyValues_singleton, optionName_eq_csp_iff]
  cases hkind : ModifierKind.ofName? (optionName name) with
  | none =>
    rw [modifier?_of_no_kind h hkind, if_neg (Option.some_ne_none _ ∘ Eq.symm)]
    rfl
  | some kind =>
    rw [parse_of_kind hkind] at h
    obtain ⟨m, hm, rfl⟩ := exists_ok_of_map h
    by_cases hcsp : kind = .csp
    · subst hcsp
      obtain ⟨-, rfl⟩ := Modifier.make_csp_eq_ok_iff.mp hm
      rw [if_pos rfl]
      rfl
    · have hnone : m.policy? = none :=
        Modifier.policy?_eq_none (by rwa [Modifier.kind_of_make hm])
      rw [if_neg fun h => hcsp (Option.some.inj h)]
      simp [modifier?, hnone]

namespace Rule

variable {rule made : Rule} {name value : String} {options : List (String × String)}

theorem toList_policy? (rule : Rule) :
    rule.policy?.toList = rule.modifier.toList.filterMap Modifier.policy? := by
  unfold policy?
  split
  · next policy hmodifier =>
    rw [hmodifier]
    rfl
  · next hother =>
    cases hmodifier : rule.modifier with
    | none => rfl
    | some m =>
      cases m with
      | csp policy => exact absurd hmodifier (hother policy)
      | removeParam | removeHeader | redirect => rfl

/-- An option adds its policy, if it has one. -/
theorem policy?_withOption (h : rule.withOption name value = .ok made) :
    made.policy?.toList = rule.policy?.toList ++ policyValues [(name, value)] := by
  obtain ⟨setting, hsetting, hadded⟩ := withOption_eq_ok_iff.mp h
  rw [toList_policy?, toList_policy?, (gains_of_withSetting hadded).modifier,
    List.filterMap_append, Setting.policies_of_parse hsetting]

theorem policy?_withOptions (h : rule.withOptions options = .ok made) :
    made.policy?.toList = rule.policy?.toList ++ policyValues options := by
  induction options generalizing rule with
  | nil =>
    cases h
    exact (List.append_nil _).symm
  | cons first rest ih =>
    rw [withOptions_cons] at h
    obtain ⟨next, hfirst, hrest⟩ := exists_ok_of_bind h
    rw [ih hrest, policy?_withOption hfirst, List.append_assoc, ← policyValues_cons]

theorem BuiltBy.toList_policy? (h : rule.BuiltBy options) :
    rule.policy?.toList = policyValues options :=
  policy?_withOptions h

/-- Without an exception, every policy option has a silent policy. -/
theorem BuiltBy.isSilent (h : rule.BuiltBy options) (hallowlist : rule.allowlist = false) :
    ∀ policy ∈ policyValues options, IsSilent policy := by
  intro policy hpolicy
  obtain ⟨o, ho, hvalue⟩ := List.mem_filterMap.mp hpolicy
  split at hvalue
  · next hname =>
    cases hvalue
    obtain ⟨hsingles, -⟩ := (exists_withOptions_iff rule.pattern _ _).mp ⟨rule, h⟩
    obtain ⟨setting, hsetting⟩ := (exists_bare_withOption_iff rule.pattern).mp (hsingles o ho)
    rw [Setting.parse_of_kind (optionName_eq_csp_iff.mp hname)] at hsetting
    obtain ⟨m, hm, -⟩ := exists_ok_of_map hsetting
    obtain ⟨hsilent, -⟩ := Modifier.make_csp_eq_ok_iff.mp hm
    exact hsilent.resolve_left fun h => Bool.false_ne_true (hallowlist.symm.trans h)
  · cases hvalue

end Rule

/-! ## Policies of declarative rules -/

/-- Rules of an exception add no policy. -/
theorem Csp.allowlist_of_contribution {r : SourceRule} {c : Contribution String}
    (h : contribution r = .ok c) : r.rule.allowlist = false := by
  unfold contribution at h
  split at h
  · split at h
    · cases h
    · next hallowlist => exact Bool.eq_false_iff.mpr hallowlist
  · cases h

/-- The policy is put together from the policy options of some rules, each of which has one. -/
structure JoinsPolicies (written : SourceRule → List (String × String))
    (contributors : List SourceRule) (policy : String) : Prop where
  each : ∀ r ∈ contributors, ∃ value, policyValues (written r) = [value]
  /-- No value stands there twice, and all stand in the order in which they first appear. -/
  joined : policy =
    Text.joined "; " (contributors.flatMap fun r => policyValues (written r)).eraseDups

section Joined

variable {written : SourceRule → List (String × String)} {contributors : List SourceRule}

theorem joinsPolicies_of_parts (built : ∀ r ∈ contributors, r.rule.BuiltBy (written r))
    {policies : List String} (parts : contributors.map (·.rule.policy?) = policies.map some) :
    JoinsPolicies written contributors (Text.joined "; " policies.eraseDups) where
  each := by
    intro r hr
    obtain ⟨policy, -, hpolicy⟩ := exists_part parts hr
    refine ⟨policy, ?_⟩
    rw [← (built r hr).toList_policy?, hpolicy]
    rfl
  joined := by
    have hvalues : (contributors.flatMap fun r => policyValues (written r)) =
        contributors.flatMap fun r => r.rule.policy?.toList :=
      List.flatMap_congr fun r hr => (built r hr).toList_policy?.symm
    rw [hvalues, ← List.filterMap_eq_flatMap_toList,
      filterMap_parts (k := some) (fun _ _ h => h) parts, List.filterMap_some]

theorem JoinsPolicies.isSilent {policy : String} (h : JoinsPolicies written contributors policy)
    (nonempty : contributors ≠ [])
    (built : ∀ r ∈ contributors, r.rule.BuiltBy (written r))
    (plain : ∀ r ∈ contributors, r.rule.allowlist = false) : IsSilent policy := by
  rw [h.joined]
  refine isSilent_joined ?_ fun value hvalue => ?_
  · obtain ⟨r, hr⟩ := List.exists_mem_of_ne_nil _ nonempty
    obtain ⟨value, hone⟩ := h.each r hr
    have hvalue : value ∈ contributors.flatMap fun r => policyValues (written r) :=
      List.mem_flatMap.mpr ⟨r, hr, by rw [hone]; exact List.mem_singleton_self value⟩
    exact List.ne_nil_of_mem (List.mem_eraseDups.mpr hvalue)
  · obtain ⟨r, hr, hmem⟩ := List.mem_flatMap.mp (List.mem_eraseDups.mp hvalue)
    exact (built r hr).isSilent (plain r hr) value hmem

end Joined

section Lineage

variable {options : Options} {filters : List Filter} {result : ConversionResult}
  {rule : Declarative.Rule} {written : SourceRule → List (String × String)}

/-- Policy rules add one policy to the response. -/
theorem Lineage.action_of_csp (l : Lineage options filters result rule)
    (built : ∀ filter ∈ filters, ∀ r ∈ filter.rules, r.rule.BuiltBy (written r))
    (hgroup : l.group = .csp) :
    ∃ policy, JoinsPolicies written l.contributors policy ∧
      rule.action = { kind := .modifyHeaders
                      responseHeaders := some
                        [⟨"content-security-policy", .append, some policy⟩] } := by
  have hacts := l.action
  rw [hgroup] at hacts
  generalize rule.action = action at hacts
  cases hacts with
  | csp parts => exact ⟨_, joinsPolicies_of_parts (l.forall_contributors built) parts, rfl⟩

/-- Whatever the group, a change of this header adds a policy, for the header may not be removed. -/
theorem Lineage.policy_of_change (l : Lineage options filters result rule)
    (built : ∀ filter ∈ filters, ∀ r ∈ filter.rules, r.rule.BuiltBy (written r))
    {direction : Direction} {changes : List Declarative.HeaderChange}
    (hchanges : rule.action.headers direction = some changes) {change : Declarative.HeaderChange}
    (hchange : change ∈ changes) (hname : Text.lower change.header = "content-security-policy") :
    l.group = .csp ∧ ∃ policy, change.value = some policy ∧
      JoinsPolicies written l.contributors policy := by
  rcases l.action.change_cases l.nonempty hchanges hchange with
    ⟨hgroup, policies, parts, rfl⟩ | ⟨-, r, hr, hnamed⟩
  · exact ⟨hgroup, _, rfl, joinsPolicies_of_parts (l.forall_contributors built) parts⟩
  · have hcanonical := (l.forall_contributors built r hr).built.canonical
    have hremovable := Rule.isRemovable_of_removedHeader? hcanonical hnamed
    exact absurd hname (hremovable.not_forbidden "content-security-policy" (by decide))

end Lineage

/-- Whatever options the rules of a batch were built by, no policy that a declarative rule adds is
empty or names a report directive. It consists of the values of the policy options of the rules that
the declarative rule is made of. -/
theorem convert_policies (options : Options) (filters : List Filter)
    (written : SourceRule → List (String × String))
    (built : ∀ filter ∈ filters, ∀ r ∈ filter.rules, r.rule.BuiltBy (written r))
    (enough : convert options filters ≠ .error .idsExhausted) :
    ∃ run, convert options filters = .ok run ∧ ∀ rule ∈ run.result.rules,
      Nonempty (Lineage options filters run.result rule) ∧
      (∀ l : Lineage options filters run.result rule, l.group = .csp →
        ∃ policy, IsSilent policy ∧ JoinsPolicies written l.contributors policy ∧
          rule.action = { kind := .modifyHeaders
                          responseHeaders := some
                            [⟨"content-security-policy", .append, some policy⟩] }) ∧
      ∀ direction changes, rule.action.headers direction = some changes →
        ∀ change ∈ changes, Text.lower change.header = "content-security-policy" →
          ∃ policy, change.value = some policy ∧ IsSilent policy ∧
            ∀ l : Lineage options filters run.result rule,
              l.group = .csp ∧ JoinsPolicies written l.contributors policy := by
  obtain ⟨hrun, hids⟩ := convert_eq_ok enough
  refine ⟨options.runOn filters, hrun, fun rule hrule => ?_⟩
  obtain ⟨origin, hverdict⟩ := Options.exists_lineage hids hrule
  -- The rules of the one lineage were converted, so that none of them is an exception.
  have silent : ∀ direction changes, rule.action.headers direction = some changes →
      ∀ change ∈ changes, Text.lower change.header = "content-security-policy" →
        ∃ policy, change.value = some policy ∧ IsSilent policy := by
    intro direction changes hchanges change hchange hname
    obtain ⟨hgroup, policy, hvalue, hjoins⟩ :=
      origin.policy_of_change built hchanges hchange hname
    refine ⟨policy, hvalue,
      hjoins.isSilent origin.nonempty (origin.forall_contributors built) fun r hr => ?_⟩
    have hok := hverdict r hr
    rw [hgroup] at hok
    obtain ⟨c, hc, -⟩ := exists_ok_of_map hok
    exact Csp.allowlist_of_contribution hc
  refine ⟨⟨origin⟩, fun l hgroup => ?_, fun direction changes hchanges change hchange hname => ?_⟩
  · obtain ⟨policy, hjoins, haction⟩ := l.action_of_csp built hgroup
    have hheaders : rule.action.headers .response =
        some [⟨"content-security-policy", .append, some policy⟩] := by
      rw [haction]
      rfl
    have hname : Text.lower "content-security-policy" = "content-security-policy" := by
      decide +kernel
    obtain ⟨same, hsame, hsilent⟩ := silent .response _ hheaders _ List.mem_cons_self hname
    rw [← Option.some.inj hsame] at hsilent
    exact ⟨policy, hsilent, hjoins, haction⟩
  · obtain ⟨policy, hvalue, hsilent⟩ := silent direction changes hchanges change hchange hname
    refine ⟨policy, hvalue, hsilent, fun l => ?_⟩
    obtain ⟨hgroup, same, hsame, hjoins⟩ := l.policy_of_change built hchanges hchange hname
    rw [hvalue] at hsame
    rw [Option.some.inj hsame]
    exact ⟨hgroup, hjoins⟩

/-- Four policy rules, two of which have the same policy, and an exception that names a report
directive. -/
def sampleJoined : List SourceRule :=
  [samplePolicy 0 "sandbox", samplePolicy 1 "frame-src https:", samplePolicy 2 "sandbox",
    samplePolicy 3 "Report ;-To",
    ⟨4, { (samplePolicy 4 "report-uri /r").rule with allowlist := true }⟩]

/-- How the rules are written. -/
def sampleWritten (r : SourceRule) : List (String × String) :=
  match r.index.toNat with
  | 0 => [("csp", " sandbox ")]
  | 1 => [(" CSP", "frame-src https:\u3000")]
  | 2 => [("Csp ", "sandbox")]
  | 3 => [("csp", "Report ;-To")]
  | _ => [("csp", "report-uri /r")]

/-- The policies are joined in the order of the rules. -/
theorem convert_policies_sample :
    (convert {} [⟨7, sampleJoined⟩]).toOption.map (fun run =>
      (run.result.rules.map Declarative.Rule.action, run.result.sourceMap.map Source.ruleIndex)) =
        some ([{ kind := .modifyHeaders
                 responseHeaders := some [⟨"content-security-policy", .append,
                   some "sandbox; frame-src https:; Report ;-To"⟩] }], [0, 1, 2, 3]) ∧
    ∃ run, convert {} [⟨7, sampleJoined⟩] = .ok run ∧ ∀ rule ∈ run.result.rules,
      ∀ direction changes, rule.action.headers direction = some changes →
        ∀ change ∈ changes, Text.lower change.header = "content-security-policy" →
          ∃ policy, change.value = some policy ∧ IsSilent policy ∧
            ∃ l : Lineage {} [⟨7, sampleJoined⟩] run.result rule,
              JoinsPolicies sampleWritten l.contributors policy := by
  have built : ∀ filter ∈ [Filter.mk 7 sampleJoined], ∀ r ∈ filter.rules,
      r.rule.BuiltBy (sampleWritten r) := by
    decide +kernel
  have enough : convert {} [⟨7, sampleJoined⟩] ≠ .error .idsExhausted := by
    decide +kernel
  obtain ⟨run, hrun, hrules⟩ :=
    convert_policies {} [⟨7, sampleJoined⟩] sampleWritten built enough
  refine ⟨by decide +kernel, run, hrun, fun rule hrule direction changes hchanges change hchange
    hname => ?_⟩
  obtain ⟨⟨l⟩, -, hpolicies⟩ := hrules rule hrule
  obtain ⟨policy, hvalue, hsilent, hall⟩ :=
    hpolicies direction changes hchanges change hchange hname
  exact ⟨policy, hvalue, hsilent, l, (hall l).2⟩

end Blocklist
