import Blocklist.Conversion.Merge

/-! # Parameter rules

Rules that take parameters out of a query. Parameters of one condition are removed together, and a
rule that removes the whole query makes the other removals of its condition needless.
-/

namespace Blocklist.RemoveParam

/-- The parameter that a rule removes, or `none` for the whole query. -/
def contribution (r : SourceRule) : Except Rejection (Contribution (Option String)) :=
  match r.rule.modifier with
  | some (.removeParam value) =>
    if r.rule.allowlist then .error (.exception .removeParam)
    else match ParamSelection.ofValue value with
      | .inverted _ => .error .invertedParam
      | .regex _ => .error .regexParam
      | .all => r.rule.condition.map fun condition => .ofRule r condition none
      | .name param => r.rule.condition.map fun condition => .ofRule r condition (some param)
  | _ => .error (.expected .removeParam)

/-- The change of the address that removes the parameters. -/
def transform (params : List (Option String)) : Declarative.UrlTransform :=
  if none ∈ params then { query := some "" }
  else { queryTransform := some ⟨(params.filterMap id).eraseDups⟩ }

/-- Sends the request to its address without the parameters. -/
def action (params : List (Option String)) : Declarative.Action where
  kind := .redirect
  redirect := some { transform := some (transform params) }

/-- Outcomes of parameter rules. -/
def outcomes (rules : List SourceRule) : List Outcome :=
  mergedOutcomes contribution action rules

end Blocklist.RemoveParam
