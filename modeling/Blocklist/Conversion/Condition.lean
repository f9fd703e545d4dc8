import Blocklist.Conversion.Rejection
import Blocklist.Declarative
import Blocklist.Regex
import Blocklist.Rule

/-! # The condition of a rule

A condition is made part by part: of the pattern of a rule, its domains, its party flags and its
resource types. Parts that a declarative condition cannot express make the rule rejected, except
that wildcard domains are dropped from the permitted ones as long as another domain is left.
-/

namespace Blocklist

/-- How a condition tests the address of a request. -/
inductive AddressFilter where
  | any
  | url (pattern : String)
  | regex (source : String)
  deriving Repr, DecidableEq

namespace AddressFilter

/-- The filter that the pattern of a rule asks for. Whether a regular expression is taken over is up
to the checker alone, and nothing else is done with its answer. -/
def ofRule (rule : Rule) : Except Rejection AddressFilter :=
  match rule.regexSource? with
  | some source => if Regex.accepts source.toList then .ok (regex source) else .error .invalidRegex
  | none =>
    if rule.pattern = "" ∨ rule.pattern = "*" then .ok any
    else if !rule.pattern.toList.all Text.isAscii then .error .nonAsciiPattern
    else if "||*".toList.isPrefixOf rule.pattern.toList then .error .wildcardAnchor
    else .ok (url rule.pattern)

/-- The address pattern of the filter. -/
def urlFilter? : AddressFilter → Option String
  | url pattern => some pattern
  | _ => none

/-- The regular expression of the filter. -/
def regexFilter? : AddressFilter → Option String
  | regex source => some source
  | _ => none

end AddressFilter

/-- `example.*` stands for a name under every public suffix. -/
def isWildcardDomain (domain : String) : Bool :=
  ".*".toList.isSuffixOf domain.toList

/-- The list, unless it is empty. -/
def someUnlessEmpty {α : Type} : List α → Option (List α)
  | [] => none
  | xs => some xs

/-- The permitted domains that a condition can name. It may drop some, but not all of them. -/
def Rule.initiators (rule : Rule) : Except Rejection (Option (List String)) :=
  let named := rule.permittedDomains.filter fun domain => !isWildcardDomain domain
  if rule.permittedDomains ≠ [] ∧ named = [] then .error .noSupportedDomain
  else .ok (someUnlessEmpty named)

/-- The permitted domains that a condition cannot name. -/
def Rule.droppedDomains (rule : Rule) : List String :=
  rule.permittedDomains.filter isWildcardDomain

/-- The restricted domains, none of which may be dropped. -/
def Rule.excludedInitiators (rule : Rule) : Except Rejection (Option (List String)) :=
  match rule.restrictedDomains.find? isWildcardDomain with
  | some domain => .error (.unsupportedRestriction domain)
  | none => .ok (someUnlessEmpty rule.restrictedDomains)

/-- The party that the rule is limited to. Both flags together limit it to nothing. -/
def Rule.domainType (rule : Rule) : Option Declarative.DomainType :=
  match rule.flags.thirdParty, rule.flags.firstParty with
  | true, false => some .thirdParty
  | false, true => some .firstParty
  | _, _ => none

/-- The resource types to match. If the rule permits some, those that it restricts are taken out. -/
def Rule.resourceTypes (rule : Rule) : Except Rejection (Option (List ResourceType)) :=
  if rule.permittedTypes.isEmpty then .ok none
  else
    let types := (rule.permittedTypes \ rule.restrictedTypes).toList
    if types = [] then .error .noResourceType else .ok (some types)

/-- The resource types not to match. They are named only if the rule permits none. -/
def Rule.excludedResourceTypes (rule : Rule) : Option (List ResourceType) :=
  if rule.permittedTypes.isEmpty then someUnlessEmpty rule.restrictedTypes.toList else none

/-- The declarative condition of a rule. Of several reasons to reject it, the first one is given. -/
def Rule.condition (rule : Rule) : Except Rejection Declarative.Condition := do
  let filter ← AddressFilter.ofRule rule
  let initiators ← rule.initiators
  let excludedInitiators ← rule.excludedInitiators
  let resourceTypes ← rule.resourceTypes
  return {
    urlFilter := filter.urlFilter?
    regexFilter := filter.regexFilter?
    caseSensitive := if rule.flags.matchCase then some true else none
    initiators
    excludedInitiators
    resourceTypes
    excludedResourceTypes := rule.excludedResourceTypes
    domainType := rule.domainType }

/-- Priority of the declarative rule. More specific rules win over general ones, exceptions over
blocking rules, and important rules over all others of their kind. -/
def Rule.priority (rule : Rule) : UInt32 :=
  1 + (if rule.permittedDomains = [] then 0 else 1)
    + (if rule.permittedTypes.isEmpty then 0 else 1)
    + (if rule.allowlist then 100 else 0)
    + (if rule.flags.important then 10000 else 0)

end Blocklist
