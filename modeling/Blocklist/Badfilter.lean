import Blocklist.Group

/-! # Badfilter rules

A badfilter rule takes its twins out of every filter of a batch, wherever it stands itself. The
badfilter rules are used up by that.
-/

namespace Blocklist.Badfilter

/-- What badfilter rules did to a batch. -/
structure Stats where
  /-- Number of badfilter rules. -/
  badfilters : Nat
  /-- Number of rules that they negated. -/
  negated : Nat
  deriving Repr, DecidableEq

/-- One of the rules negates `target`. -/
def negatedBy (badfilters : List Rule) (target : Rule) : Bool :=
  badfilters.any (·.negates target)

/-- The badfilter rules of a batch, in order. -/
def rulesOf (filters : List GroupedFilter) : List Rule :=
  filters.flatMap fun filter => (filter.groups.get .badFilter).map SourceRule.rule

/-- A filter without its badfilter group. -/
def withoutBadfilters (filter : GroupedFilter) : GroupedFilter :=
  { filter with groups := (filter.groups.take .badFilter).2 }

/-- A filter without the rules that `badfilters` negate. -/
def withoutNegated (badfilters : List Rule) (filter : GroupedFilter) : GroupedFilter :=
  { filter with
    groups := filter.groups.map (·.filter fun r => !negatedBy badfilters r.rule) }

/-- Number of rules of some filters that `badfilters` negate. -/
def negatedIn (badfilters : List Rule) (filters : List GroupedFilter) : Nat :=
  (filters.flatMap fun filter => filter.groups.toList).countP fun r => negatedBy badfilters r.rule

/-- Takes the badfilter rules and all rules that they negate out of the filters of a batch. -/
def resolve (filters : List GroupedFilter) : List GroupedFilter × Stats :=
  let badfilters := rulesOf filters
  let others := filters.map withoutBadfilters
  (others.map (withoutNegated badfilters),
    ⟨badfilters.length, negatedIn badfilters others⟩)

end Blocklist.Badfilter
