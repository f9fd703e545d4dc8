import Blocklist.Conversion.Rejection
import Blocklist.Report

/-! # Outcomes and ids

The conversion of a group is a list of outcomes: drafts of declarative rules, which have no id yet,
and rejections. `Converted.number` hands out ids to the drafts without gaps, so that a rejected rule
uses up none.
-/

namespace Blocklist

/-- A declarative rule without its id. -/
structure Draft where
  priority : UInt32
  action : Declarative.Action
  condition : Declarative.Condition
  /-- Positions of the source rules that it comes from. -/
  sources : List UInt32
  /-- Source rules that lost a part, with the reports on it. -/
  notes : List (UInt32 × String)
  deriving Repr, DecidableEq

/-- What became of a source rule, or of several that were merged. -/
inductive Outcome where
  | reject (ruleIndex : UInt32) (reason : Rejection)
  | emit (draft : Draft)
  deriving Repr, DecidableEq

namespace Outcome

/-- The draft of the outcome. -/
def draft? : Outcome → Option Draft
  | reject .. => none
  | emit draft => some draft

/-- Positions of the source rules on which the outcome reports an error. -/
def reported : Outcome → List UInt32
  | reject index _ => [index]
  | emit draft => draft.notes.map Prod.fst

end Outcome

/-- Number of drafts among the outcomes. -/
def draftCount (outcomes : List Outcome) : Nat :=
  (outcomes.filterMap Outcome.draft?).length

/-- Number of errors that the outcomes report. -/
def errorCount (outcomes : List Outcome) : Nat :=
  (outcomes.flatMap Outcome.reported).length

/-- A draft as the declarative rule with this id. -/
def Draft.withId (draft : Draft) (filterId id : UInt32) : Converted where
  rules := [⟨id, draft.priority, draft.action, draft.condition⟩]
  sourceMap := draft.sources.map fun index => ⟨filterId, index, id⟩
  errors := draft.notes.map fun note => .degraded id filterId note.1 note.2

/-- Gives ids to the drafts of filters, from `next` upwards. Each outcome comes with the id of its
filter. -/
def Converted.number (next : Nat) : List (UInt32 × Outcome) → Converted
  | [] => {}
  | (filterId, .reject index reason) :: rest =>
    { errors := [.unsupported filterId index reason.message] } ++ number next rest
  | (filterId, .emit draft) :: rest =>
    draft.withId filterId (UInt32.ofNat next) ++ number (next + 1) rest

end Blocklist
