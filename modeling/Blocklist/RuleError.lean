import Blocklist.Modifier.Kind

/-! # Why a rule cannot be built

A rule is refused as a whole when one of its options is refused.
-/

namespace Blocklist

/-- Directives that would make a policy send reports. No rule may inject them. -/
inductive ReportDirective where
  | reportUri
  | reportTo
  deriving Repr, DecidableEq

/-- Name of the directive in a policy. -/
def ReportDirective.name : ReportDirective → String
  | reportUri => "report-uri"
  | reportTo => "report-to"

/-- Reasons to refuse an option. -/
inductive RuleError where
  /-- The modifier says nothing, and the rule is not an exception. -/
  | emptyModifierValue (kind : ModifierKind)
  /-- The policy would send reports. -/
  | forbiddenDirective (directive : ReportDirective)
  /-- The rule has a modifier already. -/
  | conflictingModifiers (first second : ModifierKind)
  /-- No option has this name. -/
  | unknownOption (name : String)
  deriving Repr, DecidableEq

/-- Wording of the error. -/
def RuleError.message : RuleError → String
  | emptyModifierValue kind => "$" ++ kind.name ++ " value must not be empty"
  | forbiddenDirective directive => "forbidden CSP directive: " ++ directive.name
  | conflictingModifiers first second =>
    "rule can not combine $" ++ first.name ++ " and $" ++ second.name
  | unknownOption name => "unknown option: " ++ name

end Blocklist
