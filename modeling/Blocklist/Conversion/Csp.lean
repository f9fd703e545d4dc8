import Blocklist.Conversion.Merge

/-! # Policy rules

Rules that add a content security policy to a document. Policies of one condition are added
together.
-/

namespace Blocklist.Csp

/-- Policies apply to documents only, unless the rule permits certain types. -/
def documentTypes (condition : Declarative.Condition) : Declarative.Condition :=
  match condition.resourceTypes with
  | none => { condition with resourceTypes := some [.mainFrame, .subFrame] }
  | some _ => condition

/-- The policy that a rule adds. -/
def contribution (r : SourceRule) : Except Rejection (Contribution String) :=
  match r.rule.modifier with
  | some (.csp policy) =>
    if r.rule.allowlist then .error (.exception .csp)
    else r.rule.condition.map fun condition => .ofRule r (documentTypes condition) policy
  | _ => .error (.expected .csp)

/-- Appends the policies to the response, each of them once. -/
def action (policies : List String) : Declarative.Action where
  kind := .modifyHeaders
  responseHeaders := some
    [⟨"content-security-policy", .append, some (Text.joined "; " policies.eraseDups)⟩]

/-- Outcomes of policy rules. -/
def outcomes (rules : List SourceRule) : List Outcome :=
  mergedOutcomes contribution action rules

end Blocklist.Csp
