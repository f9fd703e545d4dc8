import Mathlib.Data.List.Basic
import Mathlib.Data.List.Induction
import Blocklist.Proofs.Policies

/-! # Which directives are in force

A browser reads a policy as directives, and of those with one name only the first one is in force.
Policies that are joined to one text are read as one policy. A directive of a later rule is thus
switched off where an earlier rule has another directive of the name.

* `Policy.directives_joined`: the directives of a joined policy are those of its parts;
* `Policy.governing?_joined`: for each name, the first part that has it decides;
* `Gathers.of_parts`: what is in force in the policy that some rules are joined to;
* `convertGroup_gathers`: a declarative rule keeps all that its rules have in force just if they
  agree.
-/

namespace Blocklist

namespace Policy

/-! ## Policies as a browser reads them -/

/-- The directives of a policy, in order. -/
def directives (policy : String) : List String :=
  (((Text.pieces ';' policy.toList).map Text.trimmed).filter (· ≠ [])).map String.ofList

/-- The name of a directive is its first word, and the case of its ASCII letters does not matter. -/
def directiveName (directive : String) : String :=
  Text.lower (String.ofList (directive.toList.takeWhile fun c => !Text.isBlank c))

/-- The directive is there, and none before it has its name. -/
def InForce (policy directive : String) : Prop :=
  ∃ before after, directives policy = before ++ directive :: after ∧
    ∀ other ∈ before, directiveName other ≠ directiveName directive

/-- The directive of a name that is in force. -/
def governing? (policy name : String) : Option String :=
  (directives policy).find? fun directive => directiveName directive = name

variable {policy directive name : String}

theorem governing?_eq_some_iff :
    governing? policy name = some directive ↔
      InForce policy directive ∧ directiveName directive = name := by
  unfold governing? InForce
  rw [List.find?_eq_some_iff_append]
  constructor
  · rintro ⟨hname, before, after, hdirectives, hbefore⟩
    have hsame := of_decide_eq_true hname
    refine ⟨⟨before, after, hdirectives, fun other hother => ?_⟩, hsame⟩
    simpa [hsame] using hbefore other hother
  · rintro ⟨⟨before, after, hdirectives, hbefore⟩, rfl⟩
    refine ⟨decide_eq_true rfl, before, after, hdirectives, fun other hother => ?_⟩
    simpa using hbefore other hother

instance : Decidable (InForce policy directive) :=
  decidable_of_iff (governing? policy (directiveName directive) = some directive)
    (governing?_eq_some_iff.trans (and_iff_left rfl))

/-- Of one name, one directive at most is in force. -/
theorem InForce.unique {other : String} (h : InForce policy directive)
    (hother : InForce policy other) (hname : directiveName directive = directiveName other) :
    directive = other := by
  have hgoverning := governing?_eq_some_iff.mpr ⟨h, hname⟩
  rw [governing?_eq_some_iff.mpr ⟨hother, rfl⟩] at hgoverning
  exact (Option.some.inj hgoverning).symm

/-! ## Joined policies -/

theorem trimmed_blank_cons (piece : List Char) :
    Text.trimmed (' ' :: piece) = Text.trimmed piece := by
  have hblank : Text.isBlank ' ' = true := by decide
  rw [Text.trimmed, List.dropWhile_cons_of_pos hblank, Text.trimmed]

/-- A blank before a policy is before its first piece. -/
theorem trimmed_pieces_blank (text : List Char) :
    (Text.pieces ';' (' ' :: text)).map Text.trimmed = (Text.pieces ';' text).map Text.trimmed := by
  rw [Text.pieces, if_neg (by decide)]
  split
  · next hnil => exact absurd hnil (Text.pieces_ne_nil ';' text)
  · next piece more hpieces => rw [hpieces, List.map_cons, List.map_cons, trimmed_blank_cons]

/-- A semicolon keeps the directives on its two sides apart. -/
theorem directives_append (first rest : String) :
    directives (first ++ "; " ++ rest) = directives first ++ directives rest := by
  have htext : (first ++ "; " ++ rest).toList = first.toList ++ ';' :: ' ' :: rest.toList := by simp
  unfold directives
  rw [htext, Text.pieces_append, List.map_append, trimmed_pieces_blank, List.filter_append,
    List.map_append]

theorem directives_joined (policies : List String) :
    directives (Text.joined "; " policies) = policies.flatMap directives := by
  induction policies with
  | nil => rfl
  | cons first rest ih =>
    cases rest with
    | nil => simp [Text.joined]
    | cons second more =>
      rw [Text.joined, directives_append, ih, ← List.flatMap_cons]

/-- A part that stands there again decides nothing. -/
theorem findSome?_eraseDups {α β : Type} [BEq α] [LawfulBEq α] (f : α → Option β) (xs : List α) :
    xs.eraseDups.findSome? f = xs.findSome? f := by
  induction xs using List.reverseRecOn with
  | nil => rfl
  | append_singleton xs x ih =>
    rw [eraseDups_append_singleton, List.findSome?_append]
    split
    · next hmem =>
      -- What stands there twice has been asked before, in vain or not.
      rw [ih]
      cases hfound : xs.findSome? f with
      | some found => rfl
      | none =>
        have hnone := List.findSome?_eq_none_iff.mp hfound x hmem
        simp [hnone]
    · rw [List.findSome?_append, ih]

/-- For each name, the first of the joined policies that has it decides. -/
theorem governing?_joined (policies : List String) (name : String) :
    governing? (Text.joined "; " policies.eraseDups) name =
      policies.findSome? (governing? · name) := by
  unfold governing?
  rw [directives_joined, List.find?_flatMap, findSome?_eraseDups]

end Policy

/-! ## Policies of merged rules -/

/-- The directive is in force in the policy of the rule. -/
def Rule.Enforces (rule : Rule) (directive : String) : Prop :=
  ∃ policy, rule.policy? = some policy ∧ Policy.InForce policy directive

/-- What is in force in a policy that some rules are joined to. -/
structure Policy.Gathers (rules : List SourceRule) (policy : String) : Prop where
  each : ∀ r ∈ rules, r.rule.policy?.isSome = true
  /-- The first rule that has something in force under a name decides. -/
  inForce_iff : ∀ directive, InForce policy directive ↔
    ∃ before r after, rules = before ++ r :: after ∧ r.rule.Enforces directive ∧
      ∀ s ∈ before, ∀ other, s.rule.Enforces other → directiveName other ≠ directiveName directive
  /-- No directive of a rule is switched off just if no two rules differ in one. -/
  keeps_iff : (∀ r ∈ rules, ∀ directive, r.rule.Enforces directive → InForce policy directive) ↔
    ∀ r ∈ rules, ∀ s ∈ rules, ∀ directive other, r.rule.Enforces directive →
      s.rule.Enforces other → directiveName directive = directiveName other → directive = other

/-- The directive of a name that is in force in the policy of the rule. -/
def Rule.governing? (rule : Rule) (name : String) : Option String :=
  rule.policy?.bind fun policy => Policy.governing? policy name

theorem Rule.governing?_eq_some_iff {rule : Rule} {name directive : String} :
    rule.governing? name = some directive ↔
      rule.Enforces directive ∧ Policy.directiveName directive = name := by
  unfold governing? Enforces
  rw [Option.bind_eq_some_iff]
  simp only [Policy.governing?_eq_some_iff, ← and_assoc, exists_and_right]

theorem Rule.governing?_eq_none_iff {rule : Rule} {name : String} :
    rule.governing? name = none ↔
      ∀ directive, rule.Enforces directive → Policy.directiveName directive ≠ name := by
  simp only [Option.eq_none_iff_forall_ne_some, Ne, governing?_eq_some_iff, not_and]

namespace Policy

variable {rules : List SourceRule} {policy : String}

theorem Gathers.of_governing? (each : ∀ r ∈ rules, r.rule.policy?.isSome = true)
    (h : ∀ name, governing? policy name = rules.findSome? fun r => r.rule.governing? name) :
    Gathers rules policy := by
  have hinForce : ∀ directive, InForce policy directive ↔
      (rules.findSome? fun r => r.rule.governing? (directiveName directive)) = some directive := by
    intro directive
    rw [← h, governing?_eq_some_iff, and_iff_left rfl]
  constructor
  case each => exact each
  case inForce_iff =>
    intro directive
    rw [hinForce, List.findSome?_eq_some_iff]
    simp only [Rule.governing?_eq_some_iff, Rule.governing?_eq_none_iff, and_true]
  case keeps_iff =>
    constructor
    · -- Both directives stay in force, and only one of the name can be.
      intro hkeeps r hr s hs directive other hdirective hother hname
      exact (hkeeps r hr directive hdirective).unique (hkeeps s hs other hother) hname
    · -- The first rule with something in force under the name has the same directive.
      intro hagree r hr directive hdirective
      rw [hinForce]
      cases hfound : rules.findSome? fun r => r.rule.governing? (directiveName directive) with
      | none =>
        have hnone := List.findSome?_eq_none_iff.mp hfound r hr
        exact absurd rfl (Rule.governing?_eq_none_iff.mp hnone directive hdirective)
      | some other =>
        obtain ⟨s, hs, hgoverning⟩ := List.exists_of_findSome?_eq_some hfound
        obtain ⟨hother, hname⟩ := Rule.governing?_eq_some_iff.mp hgoverning
        rw [hagree r hr s hs directive other hdirective hother hname.symm]

theorem Gathers.of_parts {policies : List String}
    (parts : rules.map (·.rule.policy?) = policies.map some) :
    Gathers rules (Text.joined "; " policies.eraseDups) := by
  refine .of_governing? (fun r hr => ?_) fun name => ?_
  · obtain ⟨policy, -, hpolicy⟩ := exists_part parts hr
    rw [hpolicy]
    rfl
  have hpolicies : ∀ (r : SourceRule) (policy : String), r.rule.policy? = some policy →
      r.rule.governing? name = governing? policy name := by
    intro r policy hpolicy
    rw [Rule.governing?, hpolicy, Option.bind_some]
  rw [governing?_joined, ← List.head?_filterMap, ← List.head?_filterMap,
    filterMap_parts hpolicies parts]

end Policy

/-! ## Conversion -/

/-- Policy rules that share a declarative rule are joined to one policy. A directive that is in
force in the policy of one of them stays in force if no rule before it has another directive of the
name, and nothing else is in force. -/
theorem convertGroup_gathers (resources : Option String) (filterId start : UInt32)
    (rules : List SourceRule)
    (enough : convertGroup resources .csp filterId start rules ≠ .error .idsExhausted) :
    ∃ converted next, convertGroup resources .csp filterId start rules = .ok (converted, next) ∧
      ∀ rule ∈ converted.rules, ∃ contributors,
        contributors = MergingGroup.csp.contributors rule.key rules ∧
        contributors ≠ [] ∧
        converted.entriesOf rule = contributors.map (fun r => r.entry filterId rule.id) ∧
        ∃ policy, Policy.Gathers contributors policy ∧
          rule.action = { kind := .modifyHeaders
                          responseHeaders := some
                            [⟨"content-security-policy", .append, some policy⟩] } := by
  obtain ⟨converted, next, hconverted, hmerged, hacts⟩ :=
    MergingGroup.csp.exists_convertGroup enough
  refine ⟨converted, next, hconverted, fun rule hrule => ?_⟩
  obtain ⟨hne, haction⟩ := hacts rule hrule
  refine ⟨_, rfl, hne, hmerged.entriesOf_eq hrule, ?_⟩
  generalize MergingGroup.csp.contributors rule.key rules = contributors at haction
  generalize rule.action = action at haction
  cases haction with
  | csp parts => exact ⟨_, Policy.Gathers.of_parts parts, rfl⟩

/-- Two policies with one key that differ in a directive. -/
def sampleClash : List SourceRule :=
  [samplePolicy 0 "script-src 'self'", samplePolicy 1 "script-src 'none'"]

/-- They are joined to one policy. -/
theorem convertGroup_gathers_sample :
    ∃ converted next, convertGroup none .csp 7 1 sampleClash = .ok (converted, next) ∧
      ∀ rule ∈ converted.rules,
        ∃ policy, Policy.Gathers (MergingGroup.csp.contributors rule.key sampleClash) policy ∧
          rule.action = { kind := .modifyHeaders
                          responseHeaders := some
                            [⟨"content-security-policy", .append, some policy⟩] } := by
  have enough : convertGroup none .csp 7 1 sampleClash ≠ .error .idsExhausted := by
    decide +kernel
  obtain ⟨converted, next, hconverted, hrules⟩ := convertGroup_gathers none 7 1 sampleClash enough
  refine ⟨converted, next, hconverted, fun rule hrule => ?_⟩
  obtain ⟨_, rfl, -, -, policy, hpolicy⟩ := hrules rule hrule
  exact ⟨policy, hpolicy⟩

/-- Joining policies switches directives off. The second policy does not allow any script, but in
the policy that it is joined to, scripts of the page's own origin are allowed. -/
theorem not_inForce_of_sampleClash :
    (convertGroup none .csp 7 1 sampleClash).toOption.map (fun made =>
      made.1.rules.map fun rule => (rule.action.responseHeaders,
        (MergingGroup.csp.contributors rule.key sampleClash).map SourceRule.index)) =
      some [(some [⟨"content-security-policy", .append,
        some "script-src 'self'; script-src 'none'"⟩], [0, 1])] ∧
    (samplePolicy 1 "script-src 'none'").rule.Enforces "script-src 'none'" ∧
    ¬ Policy.InForce "script-src 'self'; script-src 'none'" "script-src 'none'" := by
  exact ⟨by decide +kernel, ⟨"script-src 'none'", rfl, by decide +kernel⟩, by decide +kernel⟩

end Blocklist
