import Mathlib.Data.List.Basic
import Blocklist.Proofs.Removals

/-! # Declarative rules are well formed

A browser takes a declarative rule only if it is well formed. The parts of a condition are checked
in different places, some of them when a rule is built, and each group makes its actions in its own
way. The checker of regular expressions is taken as it is: all of this holds for any predicate in
the place of `Regex.accepts`.

* `Rule.wellFormed_of_condition_eq_ok`: the condition of a canonical rule is well formed;
* `Group.wellFormed_finish`: it stays so in every group;
* `Group.Acts.wellFormed`: the action that a group gives to a declarative rule is well formed.
-/

namespace Blocklist

open Badfilter

namespace Declarative

/-! ## Conditions -/

/-- A pattern that is read as one of addresses. -/
structure IsUrlFilter (pattern : String) : Prop where
  nonempty : pattern ≠ ""
  ascii : ∀ c ∈ pattern.toList, c.toNat < 128
  not_any : pattern ≠ "*"
  not_anchored : ¬ "||*".toList <+: pattern.toList
  /-- It is no regular expression between slashes. -/
  not_slashed : pattern.toList.head? = some '/' → pattern.toList.getLast? = some '/' →
    pattern.utf8ByteSize ≤ 2

/-- A regular expression that addresses can be tested with. -/
structure IsRegexFilter (source : String) : Prop where
  nonempty : source ≠ ""
  accepted : Regex.accepts source.toList = true

/-- Domains in order and in lowercase, none of which stands for several. -/
structure IsDomainList (domains : List String) : Prop where
  nonempty : domains ≠ []
  canonical : Domains.Canonical domains
  not_wildcard : ∀ domain ∈ domains, ¬ ".*".toList <:+ domain.toList

/-- Resource types in the order in which they are written. -/
structure IsTypeList (types : List ResourceType) : Prop where
  nonempty : types ≠ []
  nodup : types.Nodup
  ordered : types.Sublist ResourceType.all

/-- All parts of the condition that are set are well formed. -/
structure Condition.WellFormed (condition : Condition) : Prop where
  filters : condition.urlFilter = none ∨ condition.regexFilter = none
  urlFilter : ∀ pattern, condition.urlFilter = some pattern → IsUrlFilter pattern
  regexFilter : ∀ source, condition.regexFilter = some source → IsRegexFilter source
  initiators : ∀ domains, condition.initiators = some domains → IsDomainList domains
  excludedInitiators : ∀ domains, condition.excludedInitiators = some domains →
    IsDomainList domains
  resourceTypes : ∀ types, condition.resourceTypes = some types → IsTypeList types
  excludedResourceTypes : ∀ types, condition.excludedResourceTypes = some types →
    IsTypeList types

/-! ## Actions -/

/-- A transform takes out the whole query or some of its parameters. -/
inductive UrlTransform.WellFormed : UrlTransform → Prop where
  | query : WellFormed { query := some "" }
  | params {params : List String} (nonempty : params ≠ []) (nodup : params.Nodup) :
      WellFormed { queryTransform := some ⟨params⟩ }

/-- A redirect leads to a bundled resource or changes the address. -/
inductive Redirect.WellFormed : Redirect → Prop where
  | resource (path : String) : WellFormed { extensionPath := some path }
  | transform {transform : UrlTransform} (wellFormed : transform.WellFormed) :
      WellFormed { transform := some transform }

/-- Changes of headers. What is appended has a value, and what is removed has none. -/
structure IsChangeList (changes : List HeaderChange) : Prop where
  nonempty : changes ≠ []
  append : ∀ change ∈ changes, change.operation = .append → change.value.isSome = true
  remove : ∀ change ∈ changes, change.operation = .remove → change.value = none

/-- An action carries what its kind asks for and nothing else. -/
inductive Action.WellFormed : Action → Prop where
  | block : WellFormed { kind := .block }
  | allow : WellFormed { kind := .allow }
  | redirect {target : Redirect} (wellFormed : target.WellFormed) :
      WellFormed { kind := .redirect, redirect := some target }
  | modifyHeaders {request response : Option (List HeaderChange)}
      (present : request.isSome = true ∨ response.isSome = true)
      (onRequest : ∀ changes, request = some changes → IsChangeList changes)
      (onResponse : ∀ changes, response = some changes → IsChangeList changes) :
      WellFormed { kind := .modifyHeaders, requestHeaders := request, responseHeaders := response }

/-- Both parts of the rule are well formed. -/
structure Rule.WellFormed (rule : Rule) : Prop where
  condition : rule.condition.WellFormed
  action : rule.action.WellFormed

end Declarative

open Declarative (IsUrlFilter IsRegexFilter IsDomainList IsTypeList IsChangeList)

/-! ## Parts of a condition -/

/-- A text with a slash at both ends has something between them, or it is short. -/
theorem Text.utf8ByteSize_le_of_slashed? {text : String} (h : slashed? text.toList = none)
    (hfirst : text.toList.head? = some '/') (hlast : text.toList.getLast? = some '/') :
    text.utf8ByteSize ≤ 2 := by
  have htext : text = String.ofList text.toList := String.ofList_toList.symm
  obtain ⟨rest, hrest⟩ := List.head?_eq_some_iff.mp hfirst
  cases rest with
  | nil =>
    rw [htext, hrest]
    decide
  | cons c more =>
    rw [hrest, List.getLast?_cons_cons] at hlast
    obtain ⟨inside, hinside⟩ := List.getLast?_eq_some_iff.mp hlast
    rw [hinside] at hrest
    by_cases hempty : inside = []
    · rw [htext, hrest, hempty]
      decide
    · rw [slashed?_eq_some_iff.mpr ⟨hrest, hempty⟩] at h
      cases h

theorem someUnlessEmpty_eq_some_iff {α : Type} {xs ys : List α} :
    someUnlessEmpty xs = some ys ↔ xs ≠ [] ∧ xs = ys := by
  cases xs <;> simp [someUnlessEmpty]

theorem AddressFilter.filters (filter : AddressFilter) :
    filter.urlFilter? = none ∨ filter.regexFilter? = none := by
  cases filter with
  | any => exact .inl rfl
  | url pattern => exact .inr rfl
  | regex source => exact .inl rfl

theorem AddressFilter.isUrlFilter_of_ofRule {rule : Rule} {pattern : String}
    (h : ofRule rule = .ok (url pattern)) : IsUrlFilter pattern := by
  unfold ofRule at h
  split at h
  · split at h <;> cases h
  · next hslashed =>
    split at h
    · cases h
    · next hany =>
      split at h
      · cases h
      · next hascii =>
        split at h
        · cases h
        · next hanchor =>
          -- The pattern went past every check.
          obtain ⟨hne, hstar⟩ := not_or.mp hany
          cases h
          constructor
          case nonempty => exact hne
          case ascii => simpa [Text.isAscii] using hascii
          case not_any => exact hstar
          case not_anchored => rwa [List.isPrefixOf_iff_prefix] at hanchor
          case not_slashed =>
            have hnone : Text.slashed? rule.pattern.toList = none := by
              simpa [Rule.regexSource?] using hslashed
            exact Text.utf8ByteSize_le_of_slashed? hnone

theorem AddressFilter.isRegexFilter_of_ofRule {rule : Rule} {source : String}
    (h : ofRule rule = .ok (regex source)) : IsRegexFilter source := by
  unfold ofRule at h
  split at h
  · next text htext =>
    split at h
    · next haccepted =>
      cases h
      obtain ⟨inside, hinside, rfl⟩ := Option.map_eq_some_iff.mp htext
      refine ⟨fun hempty => ?_, haccepted⟩
      -- There is something between the slashes.
      exact (Text.slashed?_eq_some_iff.mp hinside).2 (String.ofList_eq_empty_iff.mp hempty)
    · cases h
  · repeat' split at h
    all_goals cases h

theorem isWildcardDomain_iff {domain : String} :
    isWildcardDomain domain = true ↔ ".*".toList <:+ domain.toList :=
  List.isSuffixOf_iff_suffix

namespace Rule

variable {rule : Rule} {condition : Declarative.Condition}

theorem isDomainList_of_initiators (h : rule.Canonical) {domains : List String}
    (hdomains : rule.initiators = .ok (some domains)) : IsDomainList domains := by
  unfold initiators at hdomains
  dsimp only at hdomains
  split at hdomains
  · cases hdomains
  · obtain ⟨hne, rfl⟩ := someUnlessEmpty_eq_some_iff.mp (Except.ok.inj hdomains)
    refine ⟨hne, h.permitted.filter _, fun domain hdomain => ?_⟩
    have hnamed := (List.mem_filter.mp hdomain).2
    rw [← isWildcardDomain_iff]
    simpa using hnamed

theorem isDomainList_of_excludedInitiators (h : rule.Canonical) {domains : List String}
    (hdomains : rule.excludedInitiators = .ok (some domains)) : IsDomainList domains := by
  unfold excludedInitiators at hdomains
  split at hdomains
  · cases hdomains
  · next hnone =>
    obtain ⟨hne, rfl⟩ := someUnlessEmpty_eq_some_iff.mp (Except.ok.inj hdomains)
    refine ⟨hne, h.restricted, fun domain hdomain => ?_⟩
    rw [← isWildcardDomain_iff]
    exact List.find?_eq_none.mp hnone domain hdomain

theorem isTypeList_toList {types : TypeSet} (h : types.toList ≠ []) :
    IsTypeList types.toList where
  nonempty := h
  nodup := types.nodup_toList
  ordered := List.filter_sublist

theorem isTypeList_of_resourceTypes {types : List ResourceType}
    (h : rule.resourceTypes = .ok (some types)) : IsTypeList types := by
  unfold resourceTypes at h
  dsimp only at h
  split at h
  · cases h
  · split at h
    · cases h
    · next hne =>
      rw [← Option.some.inj (Except.ok.inj h)]
      exact isTypeList_toList hne

theorem isTypeList_of_excludedResourceTypes {types : List ResourceType}
    (h : rule.excludedResourceTypes = some types) : IsTypeList types := by
  unfold excludedResourceTypes at h
  split at h
  · obtain ⟨hne, rfl⟩ := someUnlessEmpty_eq_some_iff.mp h
    exact isTypeList_toList hne
  · cases h

/-! ## Conditions of rules -/

/-- The condition is put together from what the parts of the rule become. -/
structure Conditions (rule : Rule) (condition : Declarative.Condition) : Prop where
  address : ∃ filter, AddressFilter.ofRule rule = .ok filter ∧
    condition.urlFilter = filter.urlFilter? ∧ condition.regexFilter = filter.regexFilter?
  initiators : rule.initiators = .ok condition.initiators
  excludedInitiators : rule.excludedInitiators = .ok condition.excludedInitiators
  resourceTypes : rule.resourceTypes = .ok condition.resourceTypes
  excludedResourceTypes : rule.excludedResourceTypes = condition.excludedResourceTypes

theorem conditions_of_condition_eq_ok (h : rule.condition = .ok condition) :
    rule.Conditions condition := by
  unfold Rule.condition at h
  -- The parts are made one after the other.
  obtain ⟨filter, haddress, h⟩ := exists_ok_of_bind h
  obtain ⟨initiators, hinitiators, h⟩ := exists_ok_of_bind h
  obtain ⟨excluded, hexcluded, h⟩ := exists_ok_of_bind h
  obtain ⟨types, htypes, h⟩ := exists_ok_of_bind h
  cases h
  exact ⟨⟨filter, haddress, rfl, rfl⟩, hinitiators, hexcluded, htypes, rfl⟩

/-- The condition of a canonical rule is well formed. -/
theorem wellFormed_of_condition_eq_ok (hcanonical : rule.Canonical)
    (h : rule.condition = .ok condition) : condition.WellFormed := by
  have hparts := conditions_of_condition_eq_ok h
  obtain ⟨filter, hfilter, hurl, hregex⟩ := hparts.address
  constructor
  case filters =>
    rw [hurl, hregex]
    exact filter.filters
  case urlFilter =>
    intro pattern hpattern
    rw [hurl] at hpattern
    cases filter with
    | url _ =>
      cases hpattern
      exact AddressFilter.isUrlFilter_of_ofRule hfilter
    | any | regex _ => cases hpattern
  case regexFilter =>
    intro source hsource
    rw [hregex] at hsource
    cases filter with
    | regex _ =>
      cases hsource
      exact AddressFilter.isRegexFilter_of_ofRule hfilter
    | any | url _ => cases hsource
  case initiators =>
    intro domains hdomains
    exact isDomainList_of_initiators hcanonical (hdomains ▸ hparts.initiators)
  case excludedInitiators =>
    intro domains hdomains
    exact isDomainList_of_excludedInitiators hcanonical (hdomains ▸ hparts.excludedInitiators)
  case resourceTypes =>
    intro types htypes
    exact isTypeList_of_resourceTypes (htypes ▸ hparts.resourceTypes)
  case excludedResourceTypes =>
    intro types htypes
    exact isTypeList_of_excludedResourceTypes (htypes ▸ hparts.excludedResourceTypes)

end Rule

/-- The document types are a list of resource types too. -/
theorem Csp.wellFormed_documentTypes {condition : Declarative.Condition}
    (h : condition.WellFormed) : (documentTypes condition).WellFormed := by
  unfold documentTypes
  split
  · refine ⟨h.filters, h.urlFilter, h.regexFilter, h.initiators, h.excludedInitiators, ?_,
      h.excludedResourceTypes⟩
    intro types htypes
    rw [← Option.some.inj htypes]
    exact ⟨by decide, by decide, by decide⟩
  · exact h

/-- A group leaves a well-formed condition well formed. -/
theorem Group.wellFormed_finish (group : Group) {condition : Declarative.Condition}
    (h : condition.WellFormed) : (group.finish condition).WellFormed := by
  cases group with
  | csp => exact Csp.wellFormed_documentTypes h
  | regular | removeParam | removeHeader | badFilter => exact h

/-! ## Actions of groups -/

theorem Regular.wellFormed_of_action {resources : Option String} {rule : Rule}
    {action : Declarative.Action} (h : Regular.action resources rule = .ok action) :
    action.WellFormed := by
  unfold Regular.action at h
  split at h
  · cases h
    cases rule.allowlist with
    | true => exact .allow
    | false => exact .block
  · split at h
    · cases h
    · split at h
      · cases h
      · cases h
        exact .redirect (.resource _)
  · cases h

theorem Csp.wellFormed_action (policies : List String) : (action policies).WellFormed := by
  refine .modifyHeaders (.inr rfl) ?_ ?_
  · intro changes hchanges
    cases hchanges
  · intro changes hchanges
    cases hchanges
    refine ⟨List.cons_ne_nil _ _, ?_, ?_⟩
    · intro change hchange _
      rw [List.mem_singleton.mp hchange]
      rfl
    · intro change hchange hremove
      rw [List.mem_singleton.mp hchange] at hremove
      cases hremove

theorem RemoveParam.wellFormed_action {params : List (Option String)} (h : params ≠ []) :
    (action params).WellFormed := by
  refine .redirect (.transform ?_)
  unfold transform
  split
  · exact .query
  · next hnone =>
    refine .params ?_ (nodup_eraseDups _)
    -- The first of the parameters is there to be removed.
    obtain ⟨first, hfirst⟩ := List.exists_mem_of_ne_nil _ h
    cases first with
    | none => exact absurd hfirst hnone
    | some param =>
      have hparam : param ∈ params.filterMap id := List.mem_filterMap.mpr ⟨_, hfirst, rfl⟩
      exact List.ne_nil_of_mem (List.mem_eraseDups.mpr hparam)

/-- Removals are changes without values. -/
theorem Declarative.Action.Removes.isChangeList {rules : List SourceRule}
    {action : Declarative.Action} (h : action.Removes rules) (direction : Direction)
    {changes : List Declarative.HeaderChange} (hchanges : action.headers direction = some changes) :
    IsChangeList changes := by
  rw [h.headers] at hchanges
  split at hchanges
  · cases hchanges
  · next hne =>
    cases hchanges
    refine ⟨fun hnil => hne (List.map_eq_nil_iff.mp hnil), ?_, ?_⟩
    · intro change hchange happend
      obtain ⟨name, -, rfl⟩ := List.mem_map.mp hchange
      cases happend
    · intro change hchange _
      obtain ⟨name, -, rfl⟩ := List.mem_map.mp hchange
      rfl

/-- The action that a group gives to a declarative rule is well formed. -/
theorem Group.Acts.wellFormed {resources : Option String} {contributors : List SourceRule}
    {group : Group} {action : Declarative.Action} (h : group.Acts resources contributors action)
    (nonempty : contributors ≠ []) : action.WellFormed := by
  have hacts := h
  cases h with
  | regular single acts => exact Regular.wellFormed_of_action acts
  | csp parts => exact Csp.wellFormed_action _
  | removeParam parts =>
    refine RemoveParam.wellFormed_action fun hnil => nonempty ?_
    rw [hnil] at parts
    exact List.map_eq_nil_iff.mp parts
  | removeHeader parts =>
    have hremoves := hacts.removes nonempty
    refine .modifyHeaders ?_ ?_ ?_
    · obtain ⟨direction, hpresent⟩ := hremoves.present
      cases direction with
      | request => exact .inl hpresent
      | response => exact .inr hpresent
    · intro changes hchanges
      exact hremoves.isChangeList .request hchanges
    · intro changes hchanges
      exact hremoves.isChangeList .response hchanges

/-! ## Conversions -/

/-- However the rules of a batch were built, every declarative rule of the result is well formed. -/
theorem convert_wellFormed (options : Options) (filters : List Filter)
    (built : ∀ filter ∈ filters, ∀ r ∈ filter.rules, r.rule.Built)
    (enough : convert options filters ≠ .error .idsExhausted) :
    ∃ run, convert options filters = .ok run ∧
      ∀ rule ∈ run.result.rules, rule.WellFormed := by
  obtain ⟨hrun, hids⟩ := convert_eq_ok enough
  refine ⟨options.runOn filters, hrun, fun rule hrule => ?_⟩
  obtain ⟨origin⟩ := Options.nonempty_lineage hids hrule
  -- The condition is that of any rule that the declarative rule is made of.
  obtain ⟨r, hr⟩ := List.exists_mem_of_ne_nil _ origin.nonempty
  obtain ⟨condition, hcondition, hfinish⟩ := origin.condition r hr
  have hcanonical : r.rule.Canonical := (origin.built built r hr).canonical
  constructor
  case condition =>
    rw [hfinish]
    exact origin.group.wellFormed_finish (Rule.wellFormed_of_condition_eq_ok hcanonical hcondition)
  case action => exact origin.action.wellFormed origin.nonempty

/-- A filter with rules of all groups. One domain is dropped, the types of one rule leave nothing to
match, and the regular expression of another one is refused. -/
def sampleMixture : FilterInput where
  filterId := 7
  rules :=
    [{ index := 0, pattern := "||a.example^",
       options := ["domain=B.example|a.*|a.example|~c.B.example", "script", "image", "~image"] },
     { index := 1, pattern := "/banner/", options := ["~script", "~font", "match-case"] },
     { index := 2, pattern := "*", allowlist := true },
     { index := 3, pattern := "||b.example^", options := ["redirect=noop.js"] },
     { index := 4, pattern := "||b.example^", options := ["csp=script-src 'none'"] },
     { index := 5, pattern := "||b.example^", options := ["removeparam=utm"] },
     { index := 6, pattern := "||b.example^", options := ["removeparam=gclid"] },
     { index := 7, pattern := "/", options := ["removeparam"] },
     { index := 8, pattern := "||b.example^", options := ["removeheader=request:X-Client-Data"] },
     { index := 9, pattern := "||b.example^", options := ["font", "~font"] },
     { index := 10, pattern := "/(ads)\\1/" }]

theorem sampleMixture_converts :
    convert { resourcesPath := some "/res" } sampleMixture.load.filters ≠
      .error .idsExhausted := by
  decide +kernel

theorem convert_wellFormed_sample :
    (convert { resourcesPath := some "/res" } sampleMixture.load.filters).toOption.map (fun run =>
        (run.result.rules.map (fun rule => (rule.action.kind, rule.condition.initiators)),
          run.result.errors.map ConversionError.ruleIndex)) =
      some ([(.block, some ["a.example", "b.example"]), (.block, none), (.allow, none),
        (.redirect, none), (.modifyHeaders, none), (.redirect, none), (.redirect, none),
        (.modifyHeaders, none)], [0, 9, 10]) ∧
    (∀ filter ∈ sampleMixture.load.filters, ∀ r ∈ filter.rules, r.rule.Built) ∧
    ∃ run, convert { resourcesPath := some "/res" } sampleMixture.load.filters = .ok run ∧
      ∀ rule ∈ run.result.rules, rule.WellFormed := by
  have built : ∀ filter ∈ sampleMixture.load.filters, ∀ r ∈ filter.rules, r.rule.Built :=
    fun filter hfilter => FilterInput.built_of_mem_load hfilter
  exact ⟨by decide +kernel, built, convert_wellFormed _ _ built sampleMixture_converts⟩

end Blocklist
