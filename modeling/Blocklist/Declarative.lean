import Blocklist.ResourceType

/-! # Declarative rules

The rules that a browser applies to requests: a condition on the request and an action for those
that meet it. What is not set is `none`.
-/

namespace Blocklist.Declarative

/-- Relation between a request and the page that makes it. -/
inductive DomainType where
  | firstParty
  | thirdParty
  deriving Repr, DecidableEq

/-- What a request has to be like. -/
structure Condition where
  /-- Pattern that the address matches. -/
  urlFilter : Option String := none
  /-- Regular expression that the address matches. -/
  regexFilter : Option String := none
  caseSensitive : Option Bool := none
  /-- Domains of the pages that make the request. -/
  initiators : Option (List String) := none
  excludedInitiators : Option (List String) := none
  resourceTypes : Option (List ResourceType) := none
  excludedResourceTypes : Option (List ResourceType) := none
  domainType : Option DomainType := none
  deriving Repr, DecidableEq

/-- Kinds of actions. -/
inductive ActionKind where
  | block
  | allow
  | redirect
  | modifyHeaders
  deriving Repr, DecidableEq

/-- What is done with a header. -/
inductive HeaderOperation where
  | append
  | set
  | remove
  deriving Repr, DecidableEq

/-- A change of one header. -/
structure HeaderChange where
  header : String
  operation : HeaderOperation
  value : Option String := none
  deriving Repr, DecidableEq

/-- A change of single parameters of a query. -/
structure QueryTransform where
  removeParams : List String
  deriving Repr, DecidableEq

/-- A change of an address. -/
structure UrlTransform where
  /-- The new query. -/
  query : Option String := none
  queryTransform : Option QueryTransform := none
  deriving Repr, DecidableEq

/-- Where a request is sent instead. -/
structure Redirect where
  /-- Path of a bundled resource. -/
  extensionPath : Option String := none
  /-- Change of the address of the request. -/
  transform : Option UrlTransform := none
  deriving Repr, DecidableEq

/-- What is done with a request. -/
structure Action where
  kind : ActionKind
  redirect : Option Redirect := none
  requestHeaders : Option (List HeaderChange) := none
  responseHeaders : Option (List HeaderChange) := none
  deriving Repr, DecidableEq

/-- A rule of the browser. -/
structure Rule where
  id : UInt32
  priority : UInt32
  action : Action
  condition : Condition
  deriving Repr, DecidableEq

/-- The rule counts against the limit of rules with a regular expression. -/
def Rule.isRegex (rule : Rule) : Bool :=
  rule.condition.regexFilter.isSome

/-- The condition leaves room for requests of type `t`. -/
def Condition.admits (condition : Condition) (t : ResourceType) : Bool :=
  (match condition.resourceTypes with
    | some types => types.contains t
    | none => true) &&
  (match condition.excludedResourceTypes with
    | some types => !types.contains t
    | none => true)

end Blocklist.Declarative
