import Blocklist.Declarative.Wire
import Blocklist.Report

/-! # Wire form of reports

How the reports of a conversion stand in the source map file.
-/

namespace Blocklist

open Json (Value)

/-- Writes an entry of the source map. -/
def Source.toJson (source : Source) : Value :=
  .object
    [("filterId", .nat source.filterId.toNat),
     ("sourceRuleIndex", .nat source.ruleIndex.toNat),
     ("declarativeRuleId", .nat source.declarativeId.toNat)]

/-- Writes an error. -/
def ConversionError.toJson : ConversionError → Value
  | unsupported filterId index reason =>
    .object
      [("kind", .string "unsupported"),
       ("filterId", .nat filterId.toNat),
       ("sourceRuleIndex", .nat index.toNat),
       ("reason", .string reason)]
  | degraded id filterId index reason =>
    .object
      [("kind", .string "degraded"),
       ("declarativeRuleId", .nat id.toNat),
       ("filterId", .nat filterId.toNat),
       ("sourceRuleIndex", .nat index.toNat),
       ("reason", .string reason)]

/-- Name of the limit. -/
def LimitKind.name : LimitKind → String
  | rules => "tooManyRules"
  | regexpRules => "tooManyRegexpRules"

/-- Writes a limitation. -/
def Limitation.toJson (limitation : Limitation) : Value :=
  .object
    [("kind", .string limitation.kind.name),
     ("excludedRuleIndices", .array (limitation.excluded.map fun index => .nat index.toNat)),
     ("limit", .nat limitation.limit),
     ("excess", .nat limitation.excess)]

namespace ConversionResult

/-- Text of the file that holds the declarative rules. -/
def ruleSetText (result : ConversionResult) : String :=
  (Declarative.rulesToJson result.rules).render .pretty

/-- Text of the file that holds the reports. -/
def sourceMapText (result : ConversionResult) : String :=
  (Value.object
    [("sourceMap", .array (result.sourceMap.map Source.toJson)),
     ("errors", .array (result.errors.map ConversionError.toJson)),
     ("limitations", .array (result.limitations.map Limitation.toJson))]).render .pretty

end ConversionResult

end Blocklist
