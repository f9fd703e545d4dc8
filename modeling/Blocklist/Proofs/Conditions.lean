import Mathlib.Data.List.Basic
import Mathlib.Logic.Basic
import Blocklist.Proofs.Admission

/-! # What a condition says about its rule

A rule has a flaw that no condition can express, or it has a condition, and then the condition says
what the rule says: its pattern, its domains, its party and its resource types. The checker of
regular expressions is taken as it is: all of this holds for any predicate in the place of
`Regex.accepts`.

* `Pattern.AsksFor.unique`, `Pattern.AsksFor.eq_or_any`: a pattern asks for one filter, and a filter
  tells the pattern that asks for it;
* `Rule.flawed_of_ofRule` and its siblings: a part that cannot be made shows a flaw of the rule;
* `Rule.Flawed.condition_ne_ok`: a rule with a flaw has no condition;
* `Rule.expresses_of_condition`: a condition says what its rule says.
-/

namespace Blocklist

/-! ## Patterns -/

/-- A text that stands between slashes. Neither one slash nor two of them are such a text. -/
structure Text.IsSlashed (text : String) : Prop where
  first : text.toList.head? = some '/'
  last : text.toList.getLast? = some '/'
  long : 2 < text.utf8ByteSize

/-- In a longer text, something stands between the slashes. -/
theorem Text.isSlashed_iff {text : String} :
    IsSlashed text ↔ ∃ inside, slashed? text.toList = some inside := by
  constructor
  · intro h
    cases hslashed : slashed? text.toList with
    | some inside => exact ⟨inside, rfl⟩
    | none =>
      have hshort := utf8ByteSize_le_of_slashed? hslashed h.first h.last
      exact absurd h.long (Nat.not_lt.mpr hshort)
  · rintro ⟨inside, hinside⟩
    obtain ⟨htext, hne⟩ := slashed?_eq_some_iff.mp hinside
    have hsize : text.utf8ByteSize = 1 + (String.ofList inside).utf8ByteSize + 1 := by
      have hjoined : text = "/" ++ String.ofList inside ++ "/" := by
        rw [← String.toList_inj, htext]
        simp
      rw [hjoined, String.utf8ByteSize_append, String.utf8ByteSize_append]
      rfl
    have hpositive : (String.ofList inside).utf8ByteSize ≠ 0 := by
      rw [Ne, String.utf8ByteSize_eq_zero_iff, String.ofList_eq_empty_iff]
      exact hne
    constructor
    case first => rw [htext]; rfl
    case last => rw [htext, ← List.cons_append, List.getLast?_concat]
    case long => omega

/-- The filter that a pattern asks for, whether or not there can be such a filter. -/
inductive Pattern.AsksFor (pattern : String) : AddressFilter → Prop where
  | any : pattern = "" ∨ pattern = "*" → AsksFor pattern .any
  | url : ¬ Text.IsSlashed pattern → pattern ≠ "" → pattern ≠ "*" → AsksFor pattern (.url pattern)
  | regex {source : String} :
      Text.IsSlashed pattern → pattern = "/" ++ source ++ "/" → AsksFor pattern (.regex source)

/-- The two fields of a condition tell the filter. -/
theorem AddressFilter.eq_of_filters {filter other : AddressFilter}
    (hurl : filter.urlFilter? = other.urlFilter?)
    (hregex : filter.regexFilter? = other.regexFilter?) : filter = other := by
  cases filter <;> cases other <;> simp_all [urlFilter?, regexFilter?]

namespace Pattern

/-- Patterns that ask for one filter are the same, unless they stand for all addresses. -/
theorem AsksFor.eq_or_any {pattern other : String} {filter : AddressFilter}
    (h : AsksFor pattern filter) (hother : AsksFor other filter) :
    pattern = other ∨ (pattern = "" ∨ pattern = "*") ∧ (other = "" ∨ other = "*") := by
  cases h with
  | any hany =>
    cases hother with
    | any hotherAny => exact .inr ⟨hany, hotherAny⟩
  | url =>
    cases hother with
    | url => exact .inl rfl
  | regex _ hpattern =>
    cases hother with
    | regex _ hother => exact .inl (hpattern.trans hother.symm)

/-- No pattern asks for two filters. -/
theorem AsksFor.unique {pattern : String} {filter other : AddressFilter}
    (h : AsksFor pattern filter) (hother : AsksFor pattern other) : filter = other := by
  have hany : pattern = "" ∨ pattern = "*" → ¬ Text.IsSlashed pattern := by
    rintro (rfl | rfl) hslashed
    · cases hslashed.first
    · cases hslashed.first
  cases h with
  | any hpattern =>
    cases hother with
    | any => rfl
    | url _ hne hstar => exact absurd hpattern (not_or.mpr ⟨hne, hstar⟩)
    | regex hslashed => exact absurd hslashed (hany hpattern)
  | url hplain hne hstar =>
    cases hother with
    | any hpattern => exact absurd hpattern (not_or.mpr ⟨hne, hstar⟩)
    | url => rfl
    | regex hslashed => exact absurd hslashed hplain
  | regex hslashed hpattern =>
    cases hother with
    | any hother => exact absurd hslashed (hany hother)
    | url hplain => exact absurd hslashed hplain
    | regex _ hother =>
      rw [hpattern] at hother
      simpa [← String.toList_inj] using hother

end Pattern

namespace Rule

variable {rule : Rule} {condition : Declarative.Condition}

/-! ## Flaws -/

/-- What keeps a rule from having a condition. -/
inductive Flawed (rule : Rule) : Rejection → Prop where
  /-- The regular expression between the slashes is not accepted. -/
  | regex {source : String} : Pattern.AsksFor rule.pattern (.regex source) →
      Regex.accepts source.toList = false → Flawed rule .invalidRegex
  | nonAscii {pattern : String} : Pattern.AsksFor rule.pattern (.url pattern) →
      (∃ c ∈ pattern.toList, 128 ≤ c.toNat) → Flawed rule .nonAsciiPattern
  | anchor {pattern : String} : Pattern.AsksFor rule.pattern (.url pattern) →
      "||*".toList <+: pattern.toList → Flawed rule .wildcardAnchor
  /-- There are permitted domains, and no condition can name any of them. -/
  | permitted : rule.permittedDomains ≠ [] →
      (∀ domain ∈ rule.permittedDomains, ".*".toList <:+ domain.toList) →
      Flawed rule .noSupportedDomain
  | restricted {domain : String} : domain ∈ rule.restrictedDomains →
      ".*".toList <:+ domain.toList → Flawed rule (.unsupportedRestriction domain)
  /-- There are permitted types, and all of them are restricted too. -/
  | types : rule.Cancels → Flawed rule .noResourceType

/-! ## Parts of a condition -/

theorem regexSource?_eq_some_iff {source : String} :
    rule.regexSource? = some source ↔
      Text.IsSlashed rule.pattern ∧ rule.pattern = "/" ++ source ++ "/" := by
  have htext : ∀ inside : List Char, rule.pattern.toList = '/' :: (inside ++ ['/']) ↔
      rule.pattern = "/" ++ String.ofList inside ++ "/" := by
    intro inside
    rw [← String.toList_inj]
    simp
  rw [Text.isSlashed_iff]
  constructor
  · intro h
    obtain ⟨inside, hinside, rfl⟩ := Option.map_eq_some_iff.mp h
    exact ⟨⟨inside, hinside⟩, (htext inside).mp (Text.slashed?_eq_some_iff.mp hinside).1⟩
  · rintro ⟨⟨inside, hinside⟩, hpattern⟩
    have hsame := (htext inside).mp (Text.slashed?_eq_some_iff.mp hinside).1
    have hsource : String.ofList inside = source := by
      rw [hpattern] at hsame
      simpa [← String.toList_inj] using hsame.symm
    exact Option.map_eq_some_iff.mpr ⟨inside, hinside, hsource⟩

theorem regexSource?_eq_none_iff :
    rule.regexSource? = none ↔ ¬ Text.IsSlashed rule.pattern := by
  rw [Text.isSlashed_iff, regexSource?, Option.map_eq_none_iff, Option.eq_none_iff_forall_ne_some,
    not_exists]

/-- A filter that is made is the one that the pattern asks for. -/
theorem asksFor_of_ofRule {filter : AddressFilter} (h : AddressFilter.ofRule rule = .ok filter) :
    Pattern.AsksFor rule.pattern filter := by
  unfold AddressFilter.ofRule at h
  split at h
  · next source hsource =>
    obtain ⟨hslashed, hpattern⟩ := regexSource?_eq_some_iff.mp hsource
    split at h
    · cases h
      exact .regex hslashed hpattern
    · cases h
  · next hnone =>
    split at h
    · next hany =>
      cases h
      exact .any hany
    · next hsome =>
      obtain ⟨hne, hstar⟩ := not_or.mp hsome
      split at h
      · cases h
      · split at h
        · cases h
        · cases h
          exact .url (regexSource?_eq_none_iff.mp hnone) hne hstar

theorem flawed_of_ofRule {reason : Rejection} (h : AddressFilter.ofRule rule = .error reason) :
    rule.Flawed reason := by
  unfold AddressFilter.ofRule at h
  split at h
  · next source hsource =>
    obtain ⟨hslashed, hpattern⟩ := regexSource?_eq_some_iff.mp hsource
    split at h
    · cases h
    · next hrejected =>
      cases h
      exact .regex (.regex hslashed hpattern) (Bool.not_eq_true _ ▸ hrejected)
  · next hnone =>
    split at h
    · cases h
    · next hsome =>
      obtain ⟨hne, hstar⟩ := not_or.mp hsome
      have hurl := Pattern.AsksFor.url (regexSource?_eq_none_iff.mp hnone) hne hstar
      split at h
      · next hascii =>
        cases h
        refine .nonAscii hurl ?_
        simpa [Text.isAscii] using hascii
      · split at h
        · next hanchor =>
          cases h
          exact .anchor hurl (List.isPrefixOf_iff_prefix.mp hanchor)
        · cases h

theorem flawed_of_initiators {reason : Rejection} (h : rule.initiators = .error reason) :
    rule.Flawed reason := by
  unfold initiators at h
  dsimp only at h
  split at h
  · next hnone =>
    cases h
    refine .permitted hnone.1 fun domain hdomain => ?_
    have hwildcard := List.filter_eq_nil_iff.mp hnone.2 domain hdomain
    rw [← isWildcardDomain_iff]
    simpa using hwildcard
  · cases h

theorem flawed_of_excludedInitiators {reason : Rejection}
    (h : rule.excludedInitiators = .error reason) : rule.Flawed reason := by
  unfold excludedInitiators at h
  split at h
  · next domain hfound =>
    cases h
    exact .restricted (List.mem_of_find?_eq_some hfound)
      (isWildcardDomain_iff.mp (List.find?_some hfound))
  · cases h

theorem flawed_of_resourceTypes {reason : Rejection} (h : rule.resourceTypes = .error reason) :
    rule.Flawed reason := by
  unfold resourceTypes at h
  split at h
  · cases h
  · next hsome =>
    dsimp only at h
    split at h
    · next hnone =>
      cases h
      refine .types ⟨fun hempty => hsome (TypeSet.isEmpty_iff.mpr hempty), fun t ht => ?_⟩
      by_contra hrestricted
      have hleft : t ∈ (rule.permittedTypes \ rule.restrictedTypes).toList :=
        TypeSet.mem_toList.mpr (TypeSet.mem_sdiff.mpr ⟨ht, hrestricted⟩)
      rw [hnone] at hleft
      cases hleft
    · cases h

/-- A rule without a condition has a flaw, and the reason that is given names it. -/
theorem flawed_of_condition {reason : Rejection} (h : rule.condition = .error reason) :
    rule.Flawed reason := by
  -- The parts are made one after the other, and the first that fails gives the reason.
  unfold Rule.condition at h
  rcases bind_eq_error_iff.mp h with h | ⟨filter, -, h⟩
  · exact flawed_of_ofRule h
  rcases bind_eq_error_iff.mp h with h | ⟨initiators, -, h⟩
  · exact flawed_of_initiators h
  rcases bind_eq_error_iff.mp h with h | ⟨excluded, -, h⟩
  · exact flawed_of_excludedInitiators h
  rcases bind_eq_error_iff.mp h with h | ⟨types, -, h⟩
  · exact flawed_of_resourceTypes h
  · cases h

/-- A rule with a flaw has no condition. -/
theorem Flawed.condition_ne_ok {reason : Rejection} (h : rule.Flawed reason) :
    rule.condition ≠ .ok condition := by
  -- Each part of the condition was made, and the flaw says that one of them could not be.
  intro hcondition
  have hparts := conditions_of_condition_eq_ok hcondition
  obtain ⟨filter, hfilter, -, -⟩ := hparts.address
  have hasks := asksFor_of_ofRule hfilter
  cases h with
  | regex hregex hrejected =>
    rw [hasks.unique hregex] at hfilter
    have haccepted := (AddressFilter.isRegexFilter_of_ofRule hfilter).accepted
    exact Bool.false_ne_true (hrejected.symm.trans haccepted)
  | nonAscii hurl hcharacter =>
    rw [hasks.unique hurl] at hfilter
    obtain ⟨c, hc, hlarge⟩ := hcharacter
    exact Nat.not_lt.mpr hlarge ((AddressFilter.isUrlFilter_of_ofRule hfilter).ascii c hc)
  | anchor hurl hanchor =>
    rw [hasks.unique hurl] at hfilter
    exact (AddressFilter.isUrlFilter_of_ofRule hfilter).not_anchored hanchor
  | permitted hsome hall =>
    have hinitiators := hparts.initiators
    have hnone : rule.permittedDomains.filter (fun domain => !isWildcardDomain domain) = [] := by
      rw [List.filter_eq_nil_iff]
      intro domain hdomain
      simp [isWildcardDomain_iff.mpr (hall domain hdomain)]
    unfold initiators at hinitiators
    dsimp only at hinitiators
    rw [if_pos ⟨hsome, hnone⟩] at hinitiators
    cases hinitiators
  | restricted hdomain hwildcard =>
    have hexcluded := hparts.excludedInitiators
    unfold excludedInitiators at hexcluded
    split at hexcluded
    · cases hexcluded
    · next hnone =>
      exact List.find?_eq_none.mp hnone _ hdomain (isWildcardDomain_iff.mpr hwildcard)
  | types hcancels =>
    have htypes := hparts.resourceTypes
    rw [hcancels.resourceTypes] at htypes
    cases htypes

/-! ## Conditions -/

/-- The condition says what the rule says, apart from permitted domains that are dropped. -/
structure Expresses (rule : Rule) (condition : Declarative.Condition) : Prop where
  address : ∃ filter, Pattern.AsksFor rule.pattern filter ∧
    condition.urlFilter = filter.urlFilter? ∧ condition.regexFilter = filter.regexFilter?
  caseSensitive : condition.caseSensitive = if rule.flags.matchCase then some true else none
  /-- The permitted domains are divided into those that are named and those that are dropped. -/
  initiators : condition.initiators = if rule.permittedDomains = [] then none else
    some (rule.permittedDomains.filter fun domain => ¬ ".*".toList <:+ domain.toList)
  dropped : rule.droppedDomains =
    rule.permittedDomains.filter fun domain => ".*".toList <:+ domain.toList
  excludedInitiators : condition.excludedInitiators =
    if rule.restrictedDomains = [] then none else some rule.restrictedDomains
  /-- The condition is for one party just if exactly one of the two flags is on. -/
  party : condition.domainType.isSome = true ↔ rule.flags.thirdParty ≠ rule.flags.firstParty
  thirdParty : condition.domainType = some .thirdParty → rule.flags.thirdParty = true
  firstParty : condition.domainType = some .firstParty → rule.flags.firstParty = true
  admits : ∀ t, condition.admits t = true ↔
    (rule.permittedTypes = .empty ∨ t ∈ rule.permittedTypes) ∧ t ∉ rule.restrictedTypes

theorem droppedDomains_eq (rule : Rule) :
    rule.droppedDomains =
      rule.permittedDomains.filter fun domain => ".*".toList <:+ domain.toList := by
  refine List.filter_congr fun domain _ => ?_
  rw [Bool.eq_iff_iff, isWildcardDomain_iff, decide_eq_true_iff]

theorem eq_of_initiators {domains : Option (List String)} (h : rule.initiators = .ok domains) :
    domains = if rule.permittedDomains = [] then none else
      some (rule.permittedDomains.filter fun domain => ¬ ".*".toList <:+ domain.toList) := by
  have hnamed : rule.permittedDomains.filter (fun domain => !isWildcardDomain domain) =
      rule.permittedDomains.filter fun domain => ¬ ".*".toList <:+ domain.toList := by
    refine List.filter_congr fun domain _ => ?_
    rw [Bool.eq_iff_iff, Bool.not_eq_true', ← Bool.not_eq_true, isWildcardDomain_iff,
      decide_eq_true_iff]
  unfold initiators at h
  dsimp only at h
  rw [hnamed] at h
  split at h
  · cases h
  · next hsome =>
    rw [← Except.ok.inj h]
    split
    · next hnone =>
      rw [hnone]
      rfl
    · next hne => exact someUnlessEmpty_eq_some_iff.mpr ⟨fun hnil => hsome ⟨hne, hnil⟩, rfl⟩

theorem eq_of_excludedInitiators {domains : Option (List String)}
    (h : rule.excludedInitiators = .ok domains) :
    domains = if rule.restrictedDomains = [] then none else some rule.restrictedDomains := by
  unfold excludedInitiators at h
  split at h
  · cases h
  · rw [← Except.ok.inj h]
    split
    · next hnone =>
      rw [hnone]
      rfl
    · next hne => exact someUnlessEmpty_eq_some_iff.mpr ⟨hne, rfl⟩

theorem flags_of_condition (h : rule.condition = .ok condition) :
    condition.caseSensitive = (if rule.flags.matchCase then some true else none) ∧
      condition.domainType = rule.domainType := by
  unfold Rule.condition at h
  obtain ⟨_, -, h⟩ := exists_ok_of_bind h
  obtain ⟨_, -, h⟩ := exists_ok_of_bind h
  obtain ⟨_, -, h⟩ := exists_ok_of_bind h
  obtain ⟨_, -, h⟩ := exists_ok_of_bind h
  cases h
  exact ⟨rfl, rfl⟩

/-- A condition says what its rule says. -/
theorem expresses_of_condition (h : rule.condition = .ok condition) :
    rule.Expresses condition := by
  have hparts := conditions_of_condition_eq_ok h
  obtain ⟨filter, hfilter, hurl, hregex⟩ := hparts.address
  obtain ⟨hcase, hparty⟩ := flags_of_condition h
  constructor
  case address => exact ⟨filter, asksFor_of_ofRule hfilter, hurl, hregex⟩
  case caseSensitive => exact hcase
  case initiators => exact eq_of_initiators hparts.initiators
  case dropped => exact rule.droppedDomains_eq
  case excludedInitiators => exact eq_of_excludedInitiators hparts.excludedInitiators
  case party =>
    rw [hparty, domainType]
    cases rule.flags.thirdParty <;> cases rule.flags.firstParty <;> simp
  case thirdParty =>
    rw [hparty, domainType]
    cases rule.flags.thirdParty <;> cases rule.flags.firstParty <;> simp
  case firstParty =>
    rw [hparty, domainType]
    cases rule.flags.thirdParty <;> cases rule.flags.firstParty <;> simp
  case admits =>
    intro t
    have hcovers : Group.regular.Covers rule t ↔
        (rule.permittedTypes = .empty ∨ t ∈ rule.permittedTypes) ∧ t ∉ rule.restrictedTypes := by
      unfold Group.Covers Group.IsFor
      split
      · next hempty => simp [hempty]
      · next hsome => simp [hsome]
    have hadmits : (Group.regular.finish condition).admits t = true ↔ Group.regular.Covers rule t :=
      Group.admits_finish_iff h t
    exact hadmits.trans hcovers

/-- Of two conditions with the same address filter, the patterns are the same, or each of them
stands for all addresses. -/
theorem Expresses.pattern_eq {other : Rule} {condition' : Declarative.Condition}
    (h : rule.Expresses condition) (hother : other.Expresses condition')
    (hurl : condition.urlFilter = condition'.urlFilter)
    (hregex : condition.regexFilter = condition'.regexFilter) :
    rule.pattern = other.pattern ∨
      (rule.pattern = "" ∨ rule.pattern = "*") ∧ (other.pattern = "" ∨ other.pattern = "*") := by
  obtain ⟨filter, hfilter, hurlOf, hregexOf⟩ := h.address
  obtain ⟨filter', hfilter', hurlOf', hregexOf'⟩ := hother.address
  have hsame : filter = filter' := by
    refine AddressFilter.eq_of_filters ?_ ?_
    · rw [← hurlOf, ← hurlOf', hurl]
    · rw [← hregexOf, ← hregexOf', hregex]
  rw [← hsame] at hfilter'
  exact hfilter.eq_or_any hfilter'

end Rule

/-- A rule has no condition just if it has a flaw, and the reason that is given names one of its
flaws. A condition says what its rule says, and its address filter tells the pattern. -/
theorem condition_exact :
    (∀ rule : Rule, (∃ reason, rule.condition = .error reason) ↔ ∃ reason, rule.Flawed reason) ∧
    (∀ (rule : Rule) (reason : Rejection), rule.condition = .error reason → rule.Flawed reason) ∧
    (∀ (rule : Rule) (condition : Declarative.Condition), rule.condition = .ok condition →
      rule.Expresses condition ∧
      ∀ (other : Rule) (condition' : Declarative.Condition), other.condition = .ok condition' →
        condition.urlFilter = condition'.urlFilter →
        condition.regexFilter = condition'.regexFilter →
        rule.pattern = other.pattern ∨
          (rule.pattern = "" ∨ rule.pattern = "*") ∧
            (other.pattern = "" ∨ other.pattern = "*")) := by
  refine ⟨fun rule => ⟨?_, ?_⟩, fun rule reason => Rule.flawed_of_condition,
    fun rule condition h => ⟨Rule.expresses_of_condition h, fun other condition' hother => ?_⟩⟩
  · rintro ⟨reason, h⟩
    exact ⟨reason, Rule.flawed_of_condition h⟩
  · rintro ⟨reason, hflaw⟩
    cases hcondition : rule.condition with
    | error other => exact ⟨other, rfl⟩
    | ok condition => exact absurd hcondition hflaw.condition_ne_ok
  · exact (Rule.expresses_of_condition h).pattern_eq (Rule.expresses_of_condition hother)

/-- A rule on what third parties load into the pages of two domains, one of which is dropped. -/
def sampleScoped : Rule where
  pattern := "/^https?:/"
  allowlist := false
  flags := { thirdParty := true }
  permittedDomains := ["a.*", "b.example"]
  permittedTypes := .single .script ∪ .single .image
  restrictedTypes := .single .image

/-- A rule on everything else. -/
def sampleAny (pattern : String) : Rule where
  pattern
  allowlist := false
  restrictedTypes := .single .image

/-- The rule has a condition, but none with a restricted wildcard domain, and none with a pattern
that refers back to a group, which the checker refuses. Two patterns for all addresses have the same
filter. -/
theorem condition_exact_sample :
    sampleScoped.condition = .ok
      { regexFilter := some "^https?:"
        initiators := some ["b.example"]
        resourceTypes := some [.script]
        domainType := some .thirdParty } ∧
    (∃ condition, sampleScoped.condition = .ok condition ∧ sampleScoped.Expresses condition) ∧
    { sampleScoped with restrictedDomains := ["c.*"] }.Flawed (.unsupportedRestriction "c.*") ∧
    ({ sampleScoped with pattern := "/(ads)\\1/" }.condition = .error .invalidRegex ∧
      { sampleScoped with pattern := "/(ads)\\1/" }.Flawed .invalidRegex) ∧
    ((sampleAny "").condition = (sampleAny "*").condition ∧
      ("" = "*" ∨ ("" = "" ∨ "" = "*") ∧ ("*" = "" ∨ "*" = "*"))) := by
  obtain ⟨-, hflawed, hexpresses⟩ := condition_exact
  have hscoped : sampleScoped.condition = .ok
      { regexFilter := some "^https?:"
        initiators := some ["b.example"]
        resourceTypes := some [.script]
        domainType := some .thirdParty } := by
    decide +kernel
  have hback : { sampleScoped with pattern := "/(ads)\\1/" }.condition = .error .invalidRegex := by
    decide +kernel
  have hany : ∀ pattern ∈ ["", "*"], (sampleAny pattern).condition =
      .ok { excludedResourceTypes := some [.image] } := by
    decide +kernel
  have hempty := hany "" (by decide)
  have hstar := hany "*" (by decide)
  exact ⟨hscoped, ⟨_, hscoped, (hexpresses _ _ hscoped).1⟩, hflawed _ _ (by decide +kernel),
    ⟨hback, hflawed _ _ hback⟩, hempty.trans hstar.symm,
    (hexpresses _ _ hempty).2 _ _ hstar rfl rfl⟩

end Blocklist
