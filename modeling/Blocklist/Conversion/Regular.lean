import Blocklist.Conversion.Condition
import Blocklist.Conversion.Outcome

/-! # Regular rules

Rules that block, allow or redirect. Each of them becomes a declarative rule of its own.
-/

namespace Blocklist.Regular

/-- Path of a bundled resource. Slashes at the end of the base path do not matter. -/
def resourcePath (base resource : String) : String :=
  String.ofList (Text.withoutEnd '/' base.toList ++ '/' :: resource.toList)

/-- The action that a rule asks for. -/
def action (resources : Option String) (rule : Rule) : Except Rejection Declarative.Action :=
  match rule.modifier with
  | none => .ok { kind := if rule.allowlist then .allow else .block }
  | some (.redirect resource) =>
    if rule.allowlist then .error (.exception .redirect)
    else match resources with
      | none => .error .noResourcesPath
      | some base =>
        .ok { kind := .redirect, redirect := some { extensionPath := resourcePath base resource } }
  | some modifier => .error (.irregular modifier.kind)

/-- The declarative rule that a rule becomes. -/
def draft (resources : Option String) (r : SourceRule) : Except Rejection Draft := do
  let action ← action resources r.rule
  let condition ← r.rule.condition
  return {
    priority := r.rule.priority
    action
    condition
    sources := [r.index]
    notes :=
      if r.rule.droppedDomains = [] then []
      else [(r.index, droppedDomainsMessage r.rule.droppedDomains)] }

/-- Outcomes of regular rules, in the order of the filter. -/
def outcomes (resources : Option String) (rules : List SourceRule) : List Outcome :=
  rules.map fun r =>
    match draft resources r with
    | .ok draft => .emit draft
    | .error reason => .reject r.index reason

end Blocklist.Regular
