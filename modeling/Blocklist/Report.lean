import Blocklist.Declarative

/-! # Reports of a conversion

A conversion never stops at a bad rule. It reports which declarative rule came from which source
rules, what could not be converted, and what was cut to fit the limits.
-/

namespace Blocklist

/-- A declarative rule comes from this rule of this filter. -/
structure Source where
  filterId : UInt32
  ruleIndex : UInt32
  declarativeId : UInt32
  deriving Repr, DecidableEq

/-- A source rule that was not converted as it stands. -/
inductive ConversionError where
  /-- The rule has no declarative rule. -/
  | unsupported (filterId ruleIndex : UInt32) (reason : String)
  /-- Part of the rule is missing in its declarative rule. -/
  | degraded (declarativeId filterId ruleIndex : UInt32) (reason : String)
  deriving Repr, DecidableEq

namespace ConversionError

/-- The declarative rule that the error belongs to. -/
def declarativeId? : ConversionError → Option UInt32
  | unsupported .. => none
  | degraded id .. => some id

/-- Position of the source rule in its filter. -/
def ruleIndex : ConversionError → UInt32
  | unsupported _ index _ => index
  | degraded _ _ index _ => index

/-- Wording of the error. -/
def message : ConversionError → String
  | unsupported filterId index reason =>
    "rule " ++ toString index.toNat ++ " of filter " ++ toString filterId.toNat ++
      " can not be converted: " ++ reason
  | degraded id filterId index reason =>
    "rule " ++ toString index.toNat ++ " of filter " ++ toString filterId.toNat ++
      " was partially converted into declarative rule " ++ toString id.toNat ++ ": " ++ reason

end ConversionError

/-- Which limit was exceeded. -/
inductive LimitKind where
  /-- The limit of all declarative rules. -/
  | rules
  /-- The limit of rules with a regular expression. -/
  | regexpRules
  deriving Repr, DecidableEq

/-- What was cut to keep a limit. -/
structure Limitation where
  kind : LimitKind
  /-- Positions of the source rules whose declarative rules were cut. -/
  excluded : List UInt32
  limit : Nat
  /-- Number of declarative rules that were cut. -/
  excess : Nat
  deriving Repr, DecidableEq

namespace Limitation

/-- Wording of the limitation. -/
def message (limitation : Limitation) : String :=
  (match limitation.kind with
    | .rules => "too many declarative rules: "
    | .regexpRules => "too many regexp rules: ") ++
  toString limitation.excess ++ " over the limit of " ++ toString limitation.limit

/-- Wording of the limitation in the log. -/
def warning (limitation : Limitation) : String :=
  (match limitation.kind with
    | .rules => "Too many declarative rules: "
    | .regexpRules => "Too many regexp rules: ") ++
  toString limitation.excess ++ " exceed the limit of " ++ toString limitation.limit

end Limitation

/-- Declarative rules with the reports on where they come from. -/
structure Converted where
  rules : List Declarative.Rule := []
  sourceMap : List Source := []
  errors : List ConversionError := []
  deriving Repr, DecidableEq

instance : Append Converted where
  append a b := ⟨a.rules ++ b.rules, a.sourceMap ++ b.sourceMap, a.errors ++ b.errors⟩

namespace Converted

/-- Several parts, one after the other. -/
def join (parts : List Converted) : Converted :=
  parts.foldr (· ++ ·) {}

@[simp] theorem rules_append (a b : Converted) : (a ++ b).rules = a.rules ++ b.rules := rfl

@[simp] theorem sourceMap_append (a b : Converted) :
    (a ++ b).sourceMap = a.sourceMap ++ b.sourceMap := rfl

@[simp] theorem errors_append (a b : Converted) : (a ++ b).errors = a.errors ++ b.errors := rfl

end Converted

/-- Declarative rules that keep the limits, with all reports. -/
structure ConversionResult where
  rules : List Declarative.Rule := []
  sourceMap : List Source := []
  errors : List ConversionError := []
  limitations : List Limitation := []
  deriving Repr, DecidableEq

/-- Number of rules with a regular expression. -/
def ConversionResult.regexpRules (result : ConversionResult) : Nat :=
  result.rules.countP Declarative.Rule.isRegex

end Blocklist
