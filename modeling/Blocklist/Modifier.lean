import Blocklist.Modifier.Header
import Blocklist.Modifier.Kind
import Blocklist.Modifier.Param
import Blocklist.RuleError
import Blocklist.Text.Ascii
import Blocklist.Text.Blank
import Blocklist.Text.Lowercase

/-! # Modifiers

A modifier holds its value in normal form: policies, parameters and resources are trimmed, headers
are in lowercase. What the value means is read off it by `HeaderTarget.ofValue` and
`ParamSelection.ofValue`.
-/

namespace Blocklist

/-- The modifier of a rule. -/
inductive Modifier where
  | csp (policy : String)
  | removeParam (value : String)
  | removeHeader (value : String)
  | redirect (resource : String)
  deriving Repr, DecidableEq

namespace Modifier

/-- Kind of the modifier. -/
def kind : Modifier → ModifierKind
  | csp _ => .csp
  | removeParam _ => .removeParam
  | removeHeader _ => .removeHeader
  | redirect _ => .redirect

/-- The first directive of a policy that sends reports, looked for anywhere in its text. -/
def reportDirective? (policy : String) : Option ReportDirective :=
  let text := (Text.lower policy).toList
  [ReportDirective.reportUri, .reportTo].find? fun directive =>
    Text.occursIn directive.name.toList text

/-- A modifier of the given kind. Only an exception may leave its value empty. -/
def make (kind : ModifierKind) (value : String) (allowlist : Bool) : Except RuleError Modifier :=
  match kind with
  | .csp =>
    let policy := Text.trim value
    if allowlist then .ok (.csp policy)
    else if policy = "" then .error (.emptyModifierValue .csp)
    else match reportDirective? policy with
      | some directive => .error (.forbiddenDirective directive)
      | none => .ok (.csp policy)
  | .removeParam => .ok (.removeParam (Text.trim value))
  | .removeHeader =>
    let header := Text.lowercase value
    if !allowlist && header = "" then .error (.emptyModifierValue .removeHeader)
    else .ok (.removeHeader header)
  | .redirect =>
    let resource := Text.trim value
    if !allowlist && resource = "" then .error (.emptyModifierValue .redirect)
    else .ok (.redirect resource)

/-- The modifier that an option names, or `none` when the name is not that of a modifier. -/
def parse (name value : String) (allowlist : Bool) : Except RuleError (Option Modifier) :=
  match ModifierKind.ofName? name with
  | some kind => (make kind value allowlist).map some
  | none => .ok none

theorem kind_of_make {k : ModifierKind} {value : String} {allowlist : Bool} {m : Modifier}
    (h : make k value allowlist = .ok m) : m.kind = k := by
  unfold make at h
  cases k <;> simp only at h <;> repeat' split at h
  all_goals first | (cases h; rfl) | simp at h

end Modifier

end Blocklist
