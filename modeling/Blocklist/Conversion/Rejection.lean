import Blocklist.Modifier.Kind
import Blocklist.Text.Pieces

/-! # Why a rule converts to nothing

A rejected rule is reported and the conversion goes on. A rule that converts only in part is not
rejected: it is reported with the domains that were left out.
-/

namespace Blocklist

/-- Reasons to leave a rule out of the declarative rules. -/
inductive Rejection where
  /-- The regular expression of the pattern is not one. What is wrong with it is not kept. -/
  | invalidRegex
  /-- The pattern holds characters that an address never does. -/
  | nonAsciiPattern
  /-- The pattern asks for a domain that begins with anything. -/
  | wildcardAnchor
  /-- All permitted domains are wildcard domains. -/
  | noSupportedDomain
  /-- A restricted domain is a wildcard domain. -/
  | unsupportedRestriction (domain : String)
  /-- All permitted resource types are restricted too. -/
  | noResourceType
  /-- Exceptions with this modifier have no meaning. -/
  | exception (kind : ModifierKind)
  /-- A redirect needs the path of the bundled resources. -/
  | noResourcesPath
  /-- The modifier belongs to another group of rules. -/
  | irregular (kind : ModifierKind)
  /-- The group of rules asks for a modifier that the rule does not have. -/
  | expected (kind : ModifierKind)
  /-- The removal keeps one parameter instead of naming those to remove. -/
  | invertedParam
  /-- The removal selects its parameters by a regular expression. -/
  | regexParam
  /-- The header may not be removed. -/
  | protectedHeader (value : String)
  /-- The removal names no header. -/
  | emptyHeader
  deriving Repr, DecidableEq

namespace Rejection

/-- Wording of the reason. Of a regular expression it tells only that it was refused: what the
checker has to say about it, which would stand behind a colon, is left out. -/
def message : Rejection → String
  | invalidRegex => "unsupported regular expression"
  | nonAsciiPattern => "url filter must be ASCII"
  | wildcardAnchor => "url filter can not start with ||*"
  | noSupportedDomain => "none of the permitted domains are supported"
  | unsupportedRestriction domain => "unsupported restricted domain: " ++ domain
  | noResourceType => "rule matches no resource types"
  | exception kind => "allowlist $" ++ kind.name ++ " rules are not supported"
  | noResourcesPath => "no resources path configured for $redirect"
  | irregular kind => "$" ++ kind.name ++ " is not a regular rule modifier"
  | expected kind => "expected a $" ++ kind.name ++ " rule"
  | invertedParam => "inverted $removeparam values are not supported"
  | regexParam => "regexp $removeparam values are not supported"
  | protectedHeader value => "header can not be removed: " ++ value
  | emptyHeader => "empty header name"

end Rejection

/-- Wording of the report on a rule that lost some of its permitted domains. -/
def droppedDomainsMessage (domains : List String) : String :=
  "unsupported domains dropped: " ++ Text.joined ", " domains

end Blocklist
