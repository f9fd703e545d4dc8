import Blocklist.Conversion.Merge

/-! # Header rules

Rules that take a header out of the request or the response. Headers of one condition are removed
together.
-/

namespace Blocklist.RemoveHeader

/-- The header that a rule removes. -/
def contribution (r : SourceRule) : Except Rejection (Contribution HeaderTarget) :=
  match r.rule.modifier with
  | some (.removeHeader value) =>
    let target := HeaderTarget.ofValue value
    if r.rule.allowlist then .error (.exception .removeHeader)
    else if !target.isValid then .error (.protectedHeader value)
    else if target.name = "" then .error .emptyHeader
    else r.rule.condition.map fun condition => .ofRule r condition target
  | _ => .error (.expected .removeHeader)

/-- Removals of the headers on one side of the exchange, each of them once. -/
def removals (targets : List HeaderTarget) (direction : Direction) :
    Option (List Declarative.HeaderChange) :=
  someUnlessEmpty
    ((targets.filterMap fun target => target.nameIn? direction).eraseDups.map fun name =>
      ⟨name, .remove, none⟩)

/-- Removes the headers on both sides. -/
def action (targets : List HeaderTarget) : Declarative.Action where
  kind := .modifyHeaders
  requestHeaders := removals targets .request
  responseHeaders := removals targets .response

/-- Outcomes of header rules. -/
def outcomes (rules : List SourceRule) : List Outcome :=
  mergedOutcomes contribution action rules

end Blocklist.RemoveHeader
