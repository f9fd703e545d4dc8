import Blocklist.Conversion.Condition
import Blocklist.Conversion.Outcome

/-! # Merging rules with one condition

Rules that share their condition and their priority become one declarative rule. Each of them is a
`Contribution`, and a `Bucket` holds the contributions that belong together in the order of the
filter. Buckets stand in the order in which their keys first appear.
-/

namespace Blocklist

/-- What one source rule brings to a merged rule. -/
structure Contribution (α : Type) where
  condition : Declarative.Condition
  priority : UInt32
  /-- Permitted domains that the condition leaves out. -/
  dropped : List String
  /-- Position of the source rule. -/
  index : UInt32
  /-- Part of the action that the source rule asks for. -/
  item : α

namespace Contribution

variable {α : Type}

/-- Contributions with equal keys are merged. -/
def key (c : Contribution α) : Declarative.Condition × UInt32 :=
  (c.condition, c.priority)

/-- Report on the domains that were left out. -/
def note? (c : Contribution α) : Option (UInt32 × String) :=
  if c.dropped = [] then none else some (c.index, droppedDomainsMessage c.dropped)

/-- Contribution of a rule whose condition is known. -/
def ofRule (r : SourceRule) (condition : Declarative.Condition) (item : α) : Contribution α where
  condition
  priority := r.rule.priority
  dropped := r.rule.droppedDomains
  index := r.index
  item

end Contribution

/-- Contributions that have the key of the first one. -/
structure Bucket (α : Type) where
  first : Contribution α
  more : List (Contribution α) := []

namespace Bucket

variable {α : Type}

/-- All contributions of the bucket. -/
def members (b : Bucket α) : List (Contribution α) :=
  b.first :: b.more

/-- Parts of the action. -/
def items (b : Bucket α) : List α :=
  b.members.map Contribution.item

/-- Puts a contribution into the bucket of its key, or into a new one at the end. -/
def add (c : Contribution α) : List (Bucket α) → List (Bucket α)
  | [] => [⟨c, []⟩]
  | b :: rest =>
    if b.first.key = c.key then { b with more := b.more ++ [c] } :: rest
    else b :: add c rest

/-- Sorts contributions into buckets. -/
def collect (contributions : List (Contribution α)) : List (Bucket α) :=
  contributions.foldl (fun buckets c => add c buckets) []

/-- The declarative rule that a bucket becomes. -/
def draft (action : List α → Declarative.Action) (b : Bucket α) : Draft where
  priority := b.first.priority
  action := action b.items
  condition := b.first.condition
  sources := b.members.map Contribution.index
  notes := b.members.filterMap Contribution.note?

end Bucket

/-- Outcomes of a group whose rules are merged: rejections first, then the merged rules. -/
def mergedOutcomes {α : Type} (contribution : SourceRule → Except Rejection (Contribution α))
    (action : List α → Declarative.Action) (rules : List SourceRule) : List Outcome :=
  let rejections := rules.filterMap fun r =>
    match contribution r with
    | .error reason => some (.reject r.index reason)
    | .ok _ => none
  let contributions := rules.filterMap fun r => (contribution r).toOption
  rejections ++ (Bucket.collect contributions).map fun b => .emit (b.draft action)

end Blocklist
