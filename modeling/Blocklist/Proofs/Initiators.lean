import Mathlib.Data.List.Basic
import Blocklist.Proofs.Conditions
import Blocklist.Proofs.Domains

/-! # Initiators of declarative rules

A declarative rule names the pages that it holds on and those that it does not hold on. The former
are the permitted domains of the rules that it is made of, the latter their restricted domains. A
piece of a domain option is trimmed before its tilde is taken off, so that blanks behind the tilde
become part of the domain, and a tilde on its own restricts a domain without a name.

* `DomainEntry.tidy_iff_of_ofPiece?`: when the domain behind a tilde is tidy;
* `Rule.BuiltBy.mem_domainEntries_iff`: the domains of a rule and the pieces of its options;
* `Rule.BuiltBy.tidy_restricted_iff`: when all restricted domains of a rule are tidy;
* `Lineage.excludedInitiators_eq`: what a declarative rule excludes is what its rules restrict;
* `convert_initiators`: which initiators of declarative rules are tidy.
-/

namespace Blocklist

/-! ## Domains behind a tilde -/

namespace DomainEntry

variable {piece : List Char} {domain : String}

/-- The piece begins with a tilde, which a blank follows or nothing at all. -/
def IsLoose (piece : List Char) : Prop :=
  ∃ rest, Text.trimmed piece = '~' :: rest ∧ ∀ c, rest.head? = some c → Text.isBlank c = true

/-- The end of the domain is the end of the piece, which is trimmed. -/
theorem isBlank_getLast?_of_ofPiece? (h : ofPiece? piece = some (restricted domain)) {c : Char}
    (hc : domain.toList.getLast? = some c) : Text.isBlank c = false := by
  obtain ⟨rest, hrest, hdomain⟩ := ofPiece?_eq_restricted_iff.mp h
  rw [hdomain, List.getLast?_map] at hc
  obtain ⟨d, hd, rfl⟩ := Option.map_eq_some_iff.mp hc
  rw [Text.isBlank_toLower]
  refine (Text.isTrimmed_trimmed piece).last d ?_
  rw [hrest, List.getLast?_cons, hd]
  rfl

theorem tidy_iff_of_ofPiece? (h : ofPiece? piece = some (restricted domain)) :
    Text.Tidy domain ↔ ¬ IsLoose piece := by
  obtain ⟨rest, hrest, hdomain⟩ := ofPiece?_eq_restricted_iff.mp h
  constructor
  · rintro htidy ⟨behind, hbehind, hblank⟩
    have hsame : behind = rest := (List.cons.inj (hbehind.symm.trans hrest)).2
    rw [hsame] at hblank
    cases rest with
    | nil => exact htidy.nonempty (String.toList_eq_nil_iff.mp hdomain)
    | cons c more =>
      have hfirst : Text.isBlank c.toLower = false := by
        refine htidy.trimmed.first c.toLower ?_
        rw [hdomain]
        rfl
      rw [Text.isBlank_toLower, hblank c rfl] at hfirst
      cases hfirst
  · intro htight
    constructor
    case nonempty =>
      rintro rfl
      have hnil : rest = [] := List.map_eq_nil_iff.mp hdomain.symm
      refine htight ⟨rest, hrest, fun c hc => ?_⟩
      rw [hnil] at hc
      cases hc
    case trimmed =>
      refine ⟨fun c hc => ?_, fun c hc => isBlank_getLast?_of_ofPiece? h hc⟩
      rw [hdomain, List.head?_map] at hc
      obtain ⟨d, hd, rfl⟩ := Option.map_eq_some_iff.mp hc
      rw [Text.isBlank_toLower, ← Bool.not_eq_true]
      intro hblank
      refine htight ⟨rest, hrest, fun first hfirst => ?_⟩
      rw [hd] at hfirst
      rw [← Option.some.inj hfirst]
      exact hblank

end DomainEntry

/-! ## Domains of rules -/

/-- The pieces of all domain options. -/
def domainPieces (options : List (String × String)) : List (List Char) :=
  (options.filter fun o => optionName o.1 = "domain").flatMap fun o =>
    Text.pieces '|' o.2.toList

namespace Rule

variable {rule : Rule} {options : List (String × String)}

/-- The domains of a rule are those that the pieces of its options are read as. -/
theorem BuiltBy.mem_domainEntries_iff (h : rule.BuiltBy options) {entry : DomainEntry} :
    entry ∈ rule.domainEntries ↔
      ∃ piece ∈ domainPieces options, DomainEntry.ofPiece? piece = some entry := by
  have hnone : entry ∉ (bare rule.pattern rule.allowlist).domainEntries := List.not_mem_nil
  rw [mem_domainEntries_withOptions h, or_iff_right hnone]
  simp only [domainPieces, DomainEntry.ofValue, List.mem_filterMap, List.mem_flatMap,
    List.mem_filter, decide_eq_true_eq]
  constructor
  · rintro ⟨o, ho, hname, piece, hpiece, hentry⟩
    exact ⟨piece, ⟨o, ⟨ho, hname⟩, hpiece⟩, hentry⟩
  · rintro ⟨piece, ⟨o, ⟨ho, hname⟩, hpiece⟩, hentry⟩
    exact ⟨o, ho, hname, piece, hpiece, hentry⟩

theorem BuiltBy.tidy_permitted (h : rule.BuiltBy options) :
    ∀ d ∈ rule.permittedDomains, Text.Tidy d := by
  intro d hd
  obtain ⟨piece, -, hentry⟩ := h.mem_domainEntries_iff.mp (permitted_mem_domainEntries.mpr hd)
  exact (DomainEntry.named_of_ofPiece? hentry).1

theorem BuiltBy.isBlank_getLast?_restricted (h : rule.BuiltBy options) :
    ∀ d ∈ rule.restrictedDomains, ∀ c, d.toList.getLast? = some c → Text.isBlank c = false := by
  intro d hd c hc
  obtain ⟨piece, -, hentry⟩ := h.mem_domainEntries_iff.mp (restricted_mem_domainEntries.mpr hd)
  exact DomainEntry.isBlank_getLast?_of_ofPiece? hentry hc

/-- All restricted domains are tidy just if no tilde is followed by a blank or by nothing. -/
theorem BuiltBy.tidy_restricted_iff (h : rule.BuiltBy options) :
    (∀ d ∈ rule.restrictedDomains, Text.Tidy d) ↔
      ∀ piece ∈ domainPieces options, ¬ DomainEntry.IsLoose piece := by
  constructor
  · intro htidy piece hpiece hloose
    obtain ⟨rest, hrest, -⟩ := id hloose
    have hentry : DomainEntry.ofPiece? piece =
        some (.restricted (Text.lower (String.ofList rest))) := by
      refine DomainEntry.ofPiece?_eq_restricted_iff.mpr ⟨rest, hrest, ?_⟩
      rw [Text.toList_lower, String.toList_ofList]
    have hmem := h.mem_domainEntries_iff.mpr ⟨piece, hpiece, hentry⟩
    have hdomain := htidy _ (restricted_mem_domainEntries.mp hmem)
    exact (DomainEntry.tidy_iff_of_ofPiece? hentry).mp hdomain hloose
  · intro htight d hd
    obtain ⟨piece, hpiece, hentry⟩ :=
      h.mem_domainEntries_iff.mp (restricted_mem_domainEntries.mpr hd)
    exact (DomainEntry.tidy_iff_of_ofPiece? hentry).mpr (htight piece hpiece)

end Rule

/-! ## Domains of declarative rules -/

/-- What a group makes of a condition is for the same pages. -/
theorem Group.domains_finish (group : Group) (condition : Declarative.Condition) :
    (group.finish condition).initiators = condition.initiators ∧
      (group.finish condition).excludedInitiators = condition.excludedInitiators := by
  cases group with
  | csp =>
    unfold finish Csp.documentTypes
    dsimp only
    split
    · exact ⟨rfl, rfl⟩
    · exact ⟨rfl, rfl⟩
  | regular | removeParam | removeHeader | badFilter => exact ⟨rfl, rfl⟩

section Lineage

variable {options : Options} {filters : List Filter} {result : ConversionResult}
  {rule : Declarative.Rule}

/-- The initiators of a declarative rule are permitted by the rules that it is made of. -/
theorem Lineage.initiators_subset (l : Lineage options filters result rule) {r : SourceRule}
    (hr : r ∈ l.contributors) : rule.condition.initiators.getD [] ⊆ r.rule.permittedDomains := by
  obtain ⟨condition, hcondition, hfinish⟩ := l.condition r hr
  rw [hfinish, (l.group.domains_finish condition).1,
    (Rule.expresses_of_condition hcondition).initiators]
  split
  · exact List.nil_subset _
  · exact List.filter_subset_self _

/-- What a declarative rule excludes is what the rules that it is made of restrict. -/
theorem Lineage.excludedInitiators_eq (l : Lineage options filters result rule) {r : SourceRule}
    (hr : r ∈ l.contributors) :
    rule.condition.excludedInitiators.getD [] = r.rule.restrictedDomains := by
  obtain ⟨condition, hcondition, hfinish⟩ := l.condition r hr
  rw [hfinish, (l.group.domains_finish condition).2,
    (Rule.expresses_of_condition hcondition).excludedInitiators]
  split
  · next hnone => exact hnone.symm
  · rfl

end Lineage

/-- Whatever options the rules of a batch were built by, all initiators of declarative rules are
tidy, and the excluded ones do not end with a blank. They are all tidy just if no piece of the
domain options has a tilde which a blank follows or nothing at all. -/
theorem convert_initiators (options : Options) (filters : List Filter)
    (written : SourceRule → List (String × String))
    (built : ∀ filter ∈ filters, ∀ r ∈ filter.rules, r.rule.BuiltBy (written r))
    (enough : convert options filters ≠ .error .idsExhausted) :
    ∃ run, convert options filters = .ok run ∧ ∀ rule ∈ run.result.rules,
      (∀ d ∈ rule.condition.initiators.getD [], Text.Tidy d) ∧
      (∀ d ∈ rule.condition.excludedInitiators.getD [], ∀ c, d.toList.getLast? = some c →
        Text.isBlank c = false) ∧
      Nonempty (Lineage options filters run.result rule) ∧
      ∀ l : Lineage options filters run.result rule, ∀ r ∈ l.contributors,
        (∀ d ∈ rule.condition.excludedInitiators.getD [], Text.Tidy d) ↔
          ∀ piece ∈ domainPieces (written r), ¬ DomainEntry.IsLoose piece := by
  obtain ⟨hrun, hids⟩ := convert_eq_ok enough
  refine ⟨options.runOn filters, hrun, fun rule hrule => ?_⟩
  obtain ⟨origin⟩ := Options.nonempty_lineage hids hrule
  -- Any of the rules tells the domains, for they share the condition.
  obtain ⟨s, hs⟩ := List.exists_mem_of_ne_nil _ origin.nonempty
  have hbuilt := origin.forall_contributors built s hs
  refine ⟨fun d hd => ?_, ?_, ⟨origin⟩, fun l r hr => ?_⟩
  · exact hbuilt.tidy_permitted d (origin.initiators_subset hs hd)
  · rw [origin.excludedInitiators_eq hs]
    exact hbuilt.isBlank_getLast?_restricted
  · rw [l.excludedInitiators_eq hr]
    exact (l.forall_contributors built r hr).tidy_restricted_iff

/-- Two rules with restricted domains. -/
def sampleRestricting : List SourceRule :=
  [⟨0, { pattern := "||a.example^", allowlist := false
         permittedDomains := ["b.example"], restrictedDomains := ["c.b.example"] }⟩,
    ⟨1, { pattern := "||a.example^", allowlist := false
          restrictedDomains := ["", " c.example"] }⟩]

/-- The domain options that build them. -/
def sampleTildes (r : SourceRule) : List (String × String) :=
  if r.index = 0 then [(" Domain", " B.example |~c.b.example\u3000")]
  else [("domain", "~ c.example "), ("domain", "~")]

theorem convert_initiators_sample :
    (convert {} [⟨7, sampleRestricting⟩]).toOption.map (fun run =>
        run.result.rules.map fun rule =>
          (rule.condition.initiators, rule.condition.excludedInitiators)) =
      some [(some ["b.example"], some ["c.b.example"]), (none, some ["", " c.example"])] ∧
    ∃ run, convert {} [⟨7, sampleRestricting⟩] = .ok run ∧ ∀ rule ∈ run.result.rules,
      (∀ d ∈ rule.condition.initiators.getD [], Text.Tidy d) ∧
      ∃ l : Lineage {} [⟨7, sampleRestricting⟩] run.result rule, ∀ r ∈ l.contributors,
        (∀ d ∈ rule.condition.excludedInitiators.getD [], Text.Tidy d) ↔
          ∀ piece ∈ domainPieces (sampleTildes r), ¬ DomainEntry.IsLoose piece := by
  have built : ∀ filter ∈ [Filter.mk 7 sampleRestricting], ∀ r ∈ filter.rules,
      r.rule.BuiltBy (sampleTildes r) := by
    decide +kernel
  have enough : convert {} [⟨7, sampleRestricting⟩] ≠ .error .idsExhausted := by
    decide +kernel
  obtain ⟨run, hrun, hrules⟩ :=
    convert_initiators {} [⟨7, sampleRestricting⟩] sampleTildes built enough
  refine ⟨by decide +kernel, run, hrun, fun rule hrule => ?_⟩
  obtain ⟨htidy, -, ⟨l⟩, hexcluded⟩ := hrules rule hrule
  exact ⟨htidy, l, hexcluded l⟩

/-- Two rules that are loaded with a blank or nothing behind a tilde. -/
def sampleLoose : FilterInput where
  filterId := 7
  rules :=
    [{ index := 0, pattern := "||a.example^", options := ["domain=~"] },
     { index := 1, pattern := "||a.example^", options := ["domain=~ b.example"] }]

/-- Not all initiators are tidy: one of these has no name, and the other begins with a blank. -/
theorem excludedInitiators_of_sampleLoose :
    (convert {} sampleLoose.load.filters).toOption.map (fun run =>
        run.result.rules.map fun rule => rule.condition.excludedInitiators) =
      some [some [""], some [" b.example"]] ∧
    ¬ Text.Tidy "" ∧ ¬ Text.Tidy " b.example" := by
  refine ⟨by decide +kernel, fun htidy => htidy.nonempty rfl, fun htidy => ?_⟩
  have hfirst : Text.isBlank ' ' = false := htidy.trimmed.first ' ' (by decide +kernel)
  exact absurd hfirst (by decide)

end Blocklist
