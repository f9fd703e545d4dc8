import Mathlib.Data.List.Basic
import Blocklist.Proofs.Conditions

/-! # Parameters that merged rules take out

Rules of one key take parameters out of a query together. What they take out together is what any of
them takes out by itself: the whole query if one of them takes that, and otherwise the parameters
that they name.

* `ParamSelection.ofValue_cases`: the forms of a value, of which some are plain;
* `RemoveParam.exists_contribution_iff`: which rules take part;
* `RemoveParam.unites_transform`: the change of the address takes out what the rules do;
* `convertGroup_unites`: declarative rules take out what the rules they are made of do.
-/

namespace Blocklist

/-! ## Values -/

/-- The value neither keeps a parameter nor is a regular expression. -/
structure IsPlainParam (value : String) : Prop where
  not_inverted : value.toList.head? ≠ some '~'
  not_slashed : ¬ Text.IsSlashed value

/-- The value takes the parameter out of a query. The empty value takes out all of them. -/
def Strips (value param : String) : Prop :=
  value = "" ∨ value = param

/-- A value is empty, the name of a parameter, or not plain. -/
theorem ParamSelection.ofValue_cases (value : String) :
    (IsPlainParam value ∧ value = "" ∧ ofValue value = .all) ∨
    (IsPlainParam value ∧ value ≠ "" ∧ ofValue value = .name value) ∨
    (¬ IsPlainParam value ∧ ∃ param, ofValue value = .inverted param) ∨
    ¬ IsPlainParam value ∧ ∃ source, ofValue value = .regex source := by
  have hslashed : Text.slashed? value.toList = none → ¬ Text.IsSlashed value := by
    intro hnone h
    obtain ⟨inside, hinside⟩ := Text.isSlashed_iff.mp h
    rw [hnone] at hinside
    cases hinside
  unfold ofValue
  split
  · next hempty =>
    have hplain : IsPlainParam value := by
      refine ⟨?_, hslashed (by rw [hempty]; rfl)⟩
      rw [hempty]
      exact Option.some_ne_none _ ∘ Eq.symm
    exact .inl ⟨hplain, String.toList_eq_nil_iff.mp hempty, rfl⟩
  · next param hinverted =>
    refine .inr (.inr (.inl ⟨fun hplain => hplain.not_inverted ?_, _, rfl⟩))
    rw [hinverted]
    rfl
  · next hne hother =>
    split
    · next source hsource =>
      refine .inr (.inr (.inr ⟨fun hplain => hplain.not_slashed ?_, _, rfl⟩))
      exact Text.isSlashed_iff.mpr ⟨source, hsource⟩
    · next hnone =>
      have hplain : IsPlainParam value := by
        refine ⟨fun hhead => ?_, hslashed hnone⟩
        obtain ⟨param, hinverted⟩ := List.head?_eq_some_iff.mp hhead
        exact hother param hinverted
      exact .inr (.inl ⟨hplain, fun hempty => hne (String.toList_eq_nil_iff.mpr hempty), rfl⟩)

/-! ## Rules -/

/-- The value of the rule that says what to take out. -/
def Rule.paramValue? (rule : Rule) : Option String :=
  match rule.modifier with
  | some (.removeParam value) => some value
  | _ => none

theorem Rule.paramValue?_eq_some_iff {rule : Rule} {value : String} :
    rule.paramValue? = some value ↔ rule.modifier = some (.removeParam value) := by
  unfold paramValue?
  split
  · next other hmodifier => simp [hmodifier]
  · next hnone => exact ⟨fun h => (by cases h), fun h => absurd h (hnone value)⟩

/-- The values of some rules, in their order. -/
def paramValues (rules : List SourceRule) : List String :=
  rules.filterMap fun r => r.rule.paramValue?

/-- The whole query is asked for by an empty value, a parameter by its name. -/
theorem Rule.paramValue?_of_param? {rule : Rule} {item : Option String}
    (h : rule.param? = some item) : rule.paramValue? = some (item.getD "") ∧ item ≠ some "" := by
  unfold param? at h
  split at h
  · next value hmodifier =>
    rw [paramValue?, hmodifier]
    rcases ParamSelection.ofValue_cases value with ⟨-, rfl, hvalue⟩ | ⟨-, hne, hvalue⟩ |
      ⟨-, param, hvalue⟩ | ⟨-, source, hvalue⟩
    · rw [hvalue] at h
      rw [← Option.some.inj h]
      exact ⟨rfl, Option.some_ne_none _ ∘ Eq.symm⟩
    · rw [hvalue] at h
      rw [← Option.some.inj h]
      exact ⟨rfl, hne ∘ Option.some.inj⟩
    · rw [hvalue] at h
      cases h
    · rw [hvalue] at h
      cases h
  · cases h

/-- A rule takes part if its value is plain and it is no exception. -/
theorem RemoveParam.exists_contribution_iff {r : SourceRule} {value : String}
    (hmodifier : r.rule.modifier = some (.removeParam value)) :
    (∃ c, contribution r = .ok c) ↔
      r.rule.allowlist = false ∧ IsPlainParam value ∧
        ∃ condition, r.rule.condition = .ok condition := by
  have hmap : ∀ item : Option String,
      (∃ c, (r.rule.condition.map fun condition => Contribution.ofRule r condition item) = .ok c) ↔
        ∃ condition, r.rule.condition = .ok condition := by
    intro item
    cases r.rule.condition with
    | error reason => exact ⟨fun ⟨_, h⟩ => (by cases h), fun ⟨_, h⟩ => (by cases h)⟩
    | ok condition => exact ⟨fun _ => ⟨condition, rfl⟩, fun _ => ⟨_, rfl⟩⟩
  unfold contribution
  rw [hmodifier]
  cases hallowlist : r.rule.allowlist with
  | true => simp
  | false =>
    rcases ParamSelection.ofValue_cases value with ⟨hplain, -, hvalue⟩ | ⟨hplain, -, hvalue⟩ |
      ⟨hplain, param, hvalue⟩ | ⟨hplain, source, hvalue⟩
    · simp [hvalue, hplain, hmap]
    · simp [hvalue, hplain, hmap]
    · simp [hvalue, hplain]
    · simp [hvalue, hplain]

/-! ## Changes of the address -/

/-- The change leaves the parameter out, either by name or with the whole query. -/
def Declarative.UrlTransform.Strips (t : UrlTransform) (param : String) : Prop :=
  t.query = some "" ∨ ∃ change, t.queryTransform = some change ∧ param ∈ change.removeParams

/-- The change takes out what some rules take out. -/
structure Declarative.UrlTransform.Unites (rules : List SourceRule) (t : UrlTransform) : Prop where
  /-- One empty value makes all names needless. -/
  whole : "" ∈ paramValues rules → t = { query := some "" }
  named : "" ∉ paramValues rules → t = { queryTransform := some ⟨(paramValues rules).eraseDups⟩ }
  strips : ∀ param, t.Strips param ↔
    ∃ r ∈ rules, ∃ value, r.rule.paramValue? = some value ∧ Blocklist.Strips value param

namespace RemoveParam

variable {params : List (Option String)}

/-- What the items of a bucket come to, in terms of the values that they were read from. -/
theorem transform_eq (h : some "" ∉ params) :
    transform params =
      if "" ∈ params.map (·.getD "") then { query := some "" }
      else { queryTransform := some ⟨(params.map (·.getD "")).eraseDups⟩ } := by
  -- An empty value can only come from a rule that takes out the whole query.
  have hempty : "" ∈ params.map (·.getD "") ↔ none ∈ params := by
    rw [List.mem_map]
    constructor
    · rintro ⟨item, hitem, hvalue⟩
      cases item with
      | none => exact hitem
      | some param =>
        rw [Option.getD_some] at hvalue
        rw [hvalue] at hitem
        exact absurd hitem h
    · exact fun hnone => ⟨none, hnone, rfl⟩
  unfold transform
  simp only [hempty]
  split
  · rfl
  · next hnone =>
    have hnames : params.filterMap id = params.map (·.getD "") := by
      rw [← List.filterMap_eq_map']
      refine List.filterMap_congr fun item hitem => ?_
      cases item with
      | none => exact absurd hitem hnone
      | some param => rfl
    rw [hnames]

/-- The change of the address takes out what the rules take out. -/
theorem unites_transform {rules : List SourceRule}
    (parts : rules.map (·.rule.param?) = params.map some) : (transform params).Unites rules := by
  have hitem : ∀ (r : SourceRule) (item : Option String), r.rule.param? = some item →
      r.rule.paramValue? = some (item.getD "") :=
    fun _ _ h => (Rule.paramValue?_of_param? h).1
  have hvalues : paramValues rules = params.map (·.getD "") := by
    unfold paramValues
    rw [filterMap_parts (k := fun item => some (item.getD "")) hitem parts, List.filterMap_eq_map']
  have hnamed : some "" ∉ params := by
    intro hmem
    have hpart : some (some "") ∈ rules.map (·.rule.param?) := by
      rw [parts]
      exact List.mem_map_of_mem hmem
    obtain ⟨r, -, hr⟩ := List.mem_map.mp hpart
    exact (Rule.paramValue?_of_param? hr).2 rfl
  have htransform := transform_eq hnamed
  rw [← hvalues] at htransform
  have hstrips : ∀ param, (∃ r ∈ rules, ∃ value, r.rule.paramValue? = some value ∧
      Blocklist.Strips value param) ↔ "" ∈ paramValues rules ∨ param ∈ paramValues rules := by
    intro param
    simp only [paramValues, List.mem_filterMap, Blocklist.Strips, and_or_left, exists_or,
      exists_eq_right]
  constructor
  case whole =>
    intro hempty
    rw [htransform, if_pos hempty]
  case named =>
    intro hne
    rw [htransform, if_neg hne]
  case strips =>
    intro param
    rw [hstrips, htransform]
    by_cases hempty : "" ∈ paramValues rules
    · simp [hempty, Declarative.UrlTransform.Strips]
    · simp [hempty, Declarative.UrlTransform.Strips]

end RemoveParam

/-! ## Conversion -/

/-- Parameter rules that share a declarative rule take out of a query what each of them takes out,
and nothing else. A rule shares one if it is no exception, its value is plain and it has a
condition. -/
theorem convertGroup_unites (resources : Option String) (filterId start : UInt32)
    (rules : List SourceRule)
    (enough : convertGroup resources .removeParam filterId start rules ≠ .error .idsExhausted) :
    ∃ converted next,
      convertGroup resources .removeParam filterId start rules = .ok (converted, next) ∧
      (∀ rule ∈ converted.rules, ∃ contributors,
        contributors = MergingGroup.removeParam.contributors rule.key rules ∧
        contributors ≠ [] ∧
        converted.entriesOf rule = contributors.map (fun r => r.entry filterId rule.id) ∧
        (∀ r ∈ contributors, ∃ value, r.rule.modifier = some (.removeParam value)) ∧
        ∃ t : Declarative.UrlTransform, t.Unites contributors ∧
          rule.action = { kind := .redirect, redirect := some { transform := some t } }) ∧
      ∀ r ∈ rules, ∀ value, r.rule.modifier = some (.removeParam value) →
        ((∃ rule ∈ converted.rules, r ∈ MergingGroup.removeParam.contributors rule.key rules) ↔
          r.rule.allowlist = false ∧ IsPlainParam value ∧
            ∃ condition, r.rule.condition = .ok condition) := by
  obtain ⟨converted, next, hconverted, hmerged, hacts⟩ :=
    MergingGroup.removeParam.exists_convertGroup enough
  refine ⟨converted, next, hconverted, fun rule hrule => ?_, fun r hr value hmodifier => ?_⟩
  · obtain ⟨hne, haction⟩ := hacts rule hrule
    refine ⟨_, rfl, hne, hmerged.entriesOf_eq hrule, ?_⟩
    generalize MergingGroup.removeParam.contributors rule.key rules = contributors at haction
    generalize rule.action = action at haction
    cases haction with
    | @removeParam params parts =>
      refine ⟨fun r hr => ?_, _, RemoveParam.unites_transform parts, rfl⟩
      obtain ⟨item, -, hitem⟩ := exists_part parts hr
      exact ⟨_, Rule.paramValue?_eq_some_iff.mp (Rule.paramValue?_of_param? hitem).1⟩
  · rw [← RemoveParam.exists_contribution_iff hmodifier]
    constructor
    · rintro ⟨rule, -, hcontributor⟩
      have hkey := eq_ok_of_toOption (of_decide_eq_true (List.mem_filter.mp hcontributor).2)
      obtain ⟨c, hc, -⟩ := exists_ok_of_map hkey
      exact ⟨c, hc⟩
    · -- A rule with a key is in the declarative rule that has this key.
      rintro ⟨c, hc⟩
      have hkey : MergingGroup.removeParam.key r = .ok c.key :=
        congrArg (Except.map Contribution.key) hc
      obtain ⟨rule, hrule, hsame, -⟩ := hmerged.shared hr hkey
      refine ⟨rule, hrule, List.mem_filter.mpr ⟨hr, ?_⟩⟩
      rw [hkey, hsame]
      exact decide_eq_true rfl

/-- A rule that takes a parameter out of the queries of a domain. -/
def sampleParam (index : UInt32) (value : String) : SourceRule where
  index
  rule := { pattern := "||a.example^", allowlist := false, modifier := some (.removeParam value) }

/-- Names with one key, of which one is there twice, and values that are not plain. A slash and two
of them are names. -/
def sampleParams : List SourceRule :=
  [sampleParam 0 "utm", sampleParam 1 "/", sampleParam 2 "~id", sampleParam 3 "utm",
    sampleParam 4 "/utm/", sampleParam 5 "//"]

/-- With the empty value among them, the whole query is taken out. -/
theorem convertGroup_unites_sample :
    (convertGroup none .removeParam 7 1 sampleParams).toOption.map (fun made =>
      (made.1.rules.map Declarative.Rule.action, made.1.sourceMap.map Source.ruleIndex)) =
        some ([⟨.redirect, some ⟨none, some ⟨none, some ⟨["utm", "/", "//"]⟩⟩⟩, none, none⟩],
          [0, 1, 3, 5]) ∧
    (convertGroup none .removeParam 7 1 (sampleParams ++ [sampleParam 6 ""])).toOption.map
      (fun made =>
        (made.1.rules.map Declarative.Rule.action, made.1.sourceMap.map Source.ruleIndex)) =
        some ([⟨.redirect, some ⟨none, some ⟨some "", none⟩⟩, none, none⟩], [0, 1, 3, 5, 6]) ∧
    ∃ converted next,
      convertGroup none .removeParam 7 1 sampleParams = .ok (converted, next) ∧
      (∀ rule ∈ converted.rules, ∃ t : Declarative.UrlTransform,
        t.Unites (MergingGroup.removeParam.contributors rule.key sampleParams) ∧
        rule.action = { kind := .redirect, redirect := some { transform := some t } }) ∧
      (∃ rule ∈ converted.rules, sampleParam 5 "//" ∈
        MergingGroup.removeParam.contributors rule.key sampleParams) := by
  have enough : convertGroup none .removeParam 7 1 sampleParams ≠ .error .idsExhausted := by
    decide +kernel
  obtain ⟨converted, next, hconverted, hunites, hshared⟩ :=
    convertGroup_unites none 7 1 sampleParams enough
  refine ⟨by decide +kernel, by decide +kernel, converted, next, hconverted,
    fun rule hrule => ?_, ?_⟩
  · obtain ⟨_, rfl, -, -, -, t, ht⟩ := hunites rule hrule
    exact ⟨t, ht⟩
  · refine (hshared (sampleParam 5 "//") (by decide) "//" rfl).mpr ⟨rfl, ⟨by decide, ?_⟩, ?_⟩
    · exact fun h => absurd h.long (by decide +kernel)
    · exact ⟨{ urlFilter := some "||a.example^" }, by decide +kernel⟩

end Blocklist
