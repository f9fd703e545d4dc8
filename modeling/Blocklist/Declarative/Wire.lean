import Blocklist.Declarative
import Blocklist.Json.Layout
import Blocklist.Json.Value

/-! # Wire form of declarative rules

How declarative rules stand in JSON. Each type has a writer `toJson`, which leaves out what is not
set, and a reader `read`, which takes a missing or null member as not set.
-/

namespace Blocklist.Declarative

open Json (Value Reader Layout member? strings)

/-- Name of a value in a table of names. -/
def nameIn {α : Type} [DecidableEq α] (known : List (String × α)) (value : α) : String :=
  match known.find? (·.2 = value) with
  | some (name, _) => name
  | none => ""

/-- Wire names of resource types. -/
def resourceTypeNames : List (String × ResourceType) :=
  [("main_frame", .mainFrame), ("sub_frame", .subFrame), ("stylesheet", .stylesheet),
   ("script", .script), ("image", .image), ("font", .font), ("object", .object),
   ("xmlhttprequest", .xmlHttpRequest), ("ping", .ping), ("csp_report", .cspReport),
   ("media", .media), ("websocket", .webSocket), ("other", .other)]

/-- Wire names of parties. -/
def domainTypeNames : List (String × DomainType) :=
  [("firstParty", .firstParty), ("thirdParty", .thirdParty)]

/-- Wire names of actions. -/
def actionKindNames : List (String × ActionKind) :=
  [("block", .block), ("allow", .allow), ("redirect", .redirect),
   ("modifyHeaders", .modifyHeaders)]

/-- Wire names of header operations. -/
def headerOperationNames : List (String × HeaderOperation) :=
  [("append", .append), ("set", .set), ("remove", .remove)]

/-- Writes a resource type. -/
def resourceTypeToJson (t : ResourceType) : Value :=
  .string (nameIn resourceTypeNames t)

/-! ## Conditions -/

/-- Writes a condition. -/
def Condition.toJson (c : Condition) : Value :=
  .object (
    member? "urlFilter" (c.urlFilter.map .string) ++
    member? "regexFilter" (c.regexFilter.map .string) ++
    member? "isUrlFilterCaseSensitive" (c.caseSensitive.map .bool) ++
    member? "initiatorDomains" (c.initiators.map strings) ++
    member? "excludedInitiatorDomains" (c.excludedInitiators.map strings) ++
    member? "resourceTypes" (c.resourceTypes.map fun ts => .array (ts.map resourceTypeToJson)) ++
    member? "excludedResourceTypes"
      (c.excludedResourceTypes.map fun ts => .array (ts.map resourceTypeToJson)) ++
    member? "domainType" (c.domainType.map fun d => .string (nameIn domainTypeNames d)))

/-- Fields of a condition. -/
def Condition.layout :=
  let types := Reader.list (Reader.oneOf resourceTypeNames)
  Layout.field (.maybe "urlFilter" Reader.string) <|
  .field (.maybe "regexFilter" Reader.string) <|
  .field (.maybe "isUrlFilterCaseSensitive" Reader.bool) <|
  .field (.maybe "initiatorDomains" (Reader.list Reader.string)) <|
  .field (.maybe "excludedInitiatorDomains" (Reader.list Reader.string)) <|
  .field (.maybe "resourceTypes" types) <|
  .field (.maybe "excludedResourceTypes" types) <|
  .field (.maybe "domainType" (Reader.oneOf domainTypeNames)) .done

/-- Reads a condition. -/
def Condition.read : Reader Condition := fun fragment =>
  (Condition.layout.reader "RuleCondition" fragment).map
    fun (urlFilter, regexFilter, caseSensitive, initiators, excludedInitiators, resourceTypes,
        excludedResourceTypes, domainType, ()) =>
      { urlFilter, regexFilter, caseSensitive, initiators, excludedInitiators, resourceTypes,
        excludedResourceTypes, domainType }

/-! ## Actions -/

/-- Writes a change of a header. -/
def HeaderChange.toJson (change : HeaderChange) : Value :=
  .object (
    [("header", .string change.header),
     ("operation", .string (nameIn headerOperationNames change.operation))] ++
    member? "value" (change.value.map .string))

/-- Fields of a change of a header. -/
def HeaderChange.layout :=
  Layout.field { name := "header", read := Reader.string } <|
  .field { name := "operation", read := Reader.oneOf headerOperationNames } <|
  .field (.maybe "value" Reader.string) .done

/-- Reads a change of a header. -/
def HeaderChange.read : Reader HeaderChange := fun fragment =>
  (HeaderChange.layout.reader "ModifyHeaderInfo" fragment).map
    fun (header, operation, value, ()) => { header, operation, value }

/-- Writes a change of a query. -/
def QueryTransform.toJson (transform : QueryTransform) : Value :=
  .object [("removeParams", strings transform.removeParams)]

/-- Fields of a change of a query. -/
def QueryTransform.layout :=
  Layout.field { name := "removeParams", read := Reader.list Reader.string } .done

/-- Reads a change of a query. -/
def QueryTransform.read : Reader QueryTransform := fun fragment =>
  (QueryTransform.layout.reader "QueryTransform" fragment).map
    fun (removeParams, ()) => { removeParams }

/-- Writes a change of an address. -/
def UrlTransform.toJson (transform : UrlTransform) : Value :=
  .object (
    member? "query" (transform.query.map .string) ++
    member? "queryTransform" (transform.queryTransform.map QueryTransform.toJson))

/-- Fields of a change of an address. -/
def UrlTransform.layout :=
  Layout.field (.maybe "query" Reader.string) <|
  .field (.maybe "queryTransform" QueryTransform.read) .done

/-- Reads a change of an address. -/
def UrlTransform.read : Reader UrlTransform := fun fragment =>
  (UrlTransform.layout.reader "UrlTransform" fragment).map
    fun (query, queryTransform, ()) => { query, queryTransform }

/-- Writes a redirect. -/
def Redirect.toJson (redirect : Redirect) : Value :=
  .object (
    member? "extensionPath" (redirect.extensionPath.map .string) ++
    member? "transform" (redirect.transform.map UrlTransform.toJson))

/-- Fields of a redirect. -/
def Redirect.layout :=
  Layout.field (.maybe "extensionPath" Reader.string) <|
  .field (.maybe "transform" UrlTransform.read) .done

/-- Reads a redirect. -/
def Redirect.read : Reader Redirect := fun fragment =>
  (Redirect.layout.reader "Redirect" fragment).map
    fun (extensionPath, transform, ()) => { extensionPath, transform }

/-- Writes an action. -/
def Action.toJson (action : Action) : Value :=
  .object (
    [("type", .string (nameIn actionKindNames action.kind))] ++
    member? "redirect" (action.redirect.map Redirect.toJson) ++
    member? "requestHeaders"
      (action.requestHeaders.map fun changes => .array (changes.map HeaderChange.toJson)) ++
    member? "responseHeaders"
      (action.responseHeaders.map fun changes => .array (changes.map HeaderChange.toJson)))

/-- Fields of an action. -/
def Action.layout :=
  let changes := Reader.list HeaderChange.read
  Layout.field { name := "type", read := Reader.oneOf actionKindNames } <|
  .field (.maybe "redirect" Redirect.read) <|
  .field (.maybe "requestHeaders" changes) <|
  .field (.maybe "responseHeaders" changes) .done

/-- Reads an action. -/
def Action.read : Reader Action := fun fragment =>
  (Action.layout.reader "RuleAction" fragment).map
    fun (kind, redirect, requestHeaders, responseHeaders, ()) =>
      { kind, redirect, requestHeaders, responseHeaders }

/-! ## Rules -/

/-- Writes a rule. -/
def Rule.toJson (rule : Rule) : Value :=
  .object
    [("id", .nat rule.id.toNat),
     ("priority", .nat rule.priority.toNat),
     ("action", rule.action.toJson),
     ("condition", rule.condition.toJson)]

/-- Fields of a rule. -/
def Rule.layout :=
  Layout.field { name := "id", read := Reader.u32 } <|
  .field { name := "priority", read := Reader.u32 } <|
  .field { name := "action", read := Action.read } <|
  .field { name := "condition", read := Condition.read } .done

/-- Reads a rule. -/
def Rule.read : Reader Rule := fun fragment =>
  (Rule.layout.reader "DeclarativeRule" fragment).map
    fun (id, priority, action, condition, ()) => { id, priority, action, condition }

/-- Writes a list of rules. -/
def rulesToJson (rules : List Rule) : Value :=
  .array (rules.map Rule.toJson)

end Blocklist.Declarative
