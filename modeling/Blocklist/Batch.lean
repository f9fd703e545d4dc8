import Blocklist.Badfilter
import Blocklist.Conversion.OfGroup
import Blocklist.Limits
import Blocklist.Log

/-! # Conversion of a batch

A batch of filters is converted in four steps: badfilter rules are resolved over the whole batch,
the groups of every filter become outcomes, the drafts among them get ids from 1 on without gaps,
and the limits are enforced.
-/

namespace Blocklist

/-- Settings of a conversion. -/
structure Options where
  /-- Path of the bundled resources that redirects lead to. -/
  resourcesPath : Option String := none
  limits : Limits := {}
  deriving Repr, DecidableEq

/-- Settings that say nothing. -/
def Options.isDefault (options : Options) : Bool :=
  options == {}

/-- The first id that is given to a declarative rule. -/
def firstId : UInt32 := 1

/-- A group of one filter with the outcomes of its rules. -/
structure Section where
  group : Group
  ruleCount : Nat
  outcomes : List Outcome
  deriving Repr, DecidableEq

/-- The sections of one filter. -/
structure FilterSections where
  filterId : UInt32
  sections : List Section
  deriving Repr, DecidableEq

namespace FilterSections

/-- Sections of a filter, in the order in which groups are converted. -/
def ofFilter (resources : Option String) (filter : GroupedFilter) : FilterSections where
  filterId := filter.id
  sections := Group.all.map fun group =>
    let rules := filter.groups.get group
    ⟨group, rules.length, group.outcomes resources rules⟩

/-- Outcomes of the filter, each with the id of the filter. -/
def outcomes (filter : FilterSections) : List (UInt32 × Outcome) :=
  filter.sections.flatMap fun part => part.outcomes.map fun outcome => (filter.filterId, outcome)

/-- Number of declarative rules of the filter. -/
def drafts (filter : FilterSections) : Nat :=
  draftCount (filter.outcomes.map Prod.snd)

end FilterSections

/-- Record of a conversion: what happened on the way, and the result. -/
structure Run where
  badfilters : Badfilter.Stats
  filters : List FilterSections
  result : ConversionResult
  deriving Repr, DecidableEq

/-- Converts a batch of filters. It fails only when the ids do not suffice. -/
def convert (options : Options) (filters : List Filter) : Except Failure Run := do
  let (grouped, badfilters) := Badfilter.resolve (filters.map GroupedFilter.ofFilter)
  let parts := grouped.map (FilterSections.ofFilter options.resourcesPath)
  let (converted, _) ← numberFrom firstId (parts.flatMap FilterSections.outcomes)
  return ⟨badfilters, parts, options.limits.enforce converted⟩

namespace Run

/-- Log of one section. -/
def sectionEntry (filterId : UInt32) (part : Section) : LogEntry :=
  ⟨.debug,
    "Filter " ++ toString filterId.toNat ++ " " ++ part.group.name ++ ": " ++
    toString part.ruleCount ++ " rules -> " ++ toString (draftCount part.outcomes) ++
    " declarative rules, " ++ toString (errorCount part.outcomes) ++ " errors"⟩

/-- Log of the filters when `next` is the first id that is left. -/
def filterEntries (next : Nat) : List FilterSections → List LogEntry
  | [] => []
  | filter :: rest =>
    let after := next + filter.drafts
    (filter.sections.filter (·.ruleCount ≠ 0)).map (sectionEntry filter.filterId) ++
    [⟨.debug,
      "Filter " ++ toString filter.filterId.toNat ++ ": declarative ids " ++ toString next ++
      ".." ++ toString after⟩] ++
    filterEntries after rest

/-- Log of the limits that were exceeded. -/
def limitEntries (result : ConversionResult) : List LogEntry :=
  result.limitations.map fun limitation => ⟨.warn, limitation.warning⟩

/-- Log of the whole conversion. -/
def log (run : Run) : List LogEntry :=
  (if run.badfilters.badfilters = 0 then []
    else [⟨.debug,
      "Applied " ++ toString run.badfilters.badfilters ++ " badfilter rules, " ++
      toString run.badfilters.negated ++ " rules removed"⟩]) ++
  filterEntries firstId.toNat run.filters ++
  limitEntries run.result ++
  [⟨.info,
    "Converted " ++ toString run.filters.length ++ " filters: " ++
    toString run.result.rules.length ++ " declarative rules (" ++
    toString run.result.regexpRules ++ " regexp), " ++
    toString run.result.errors.length ++ " errors, " ++
    toString run.result.limitations.length ++ " limitations"⟩]

end Run

end Blocklist
