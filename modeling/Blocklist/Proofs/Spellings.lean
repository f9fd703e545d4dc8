import Blocklist.Declarative.Wire
import Blocklist.Proofs.Json.Forms

/-! # Rules are read from every spelling

A declarative rule is a record of records. Each of them may be an object with its members in any
order and others among them, or an array of its fields, each member that is not set may be left out
or be null, and the text may have any white space between its parts. Whichever way a rule is
written, the reader finds the same rule.

* `Declarative.Condition.entries`, `Declarative.Action.entries`, ...: what is written for the fields
  of each record;
* `Declarative.Rule.WrittenIn`: the text is one of the spellings of the rule;
* `Declarative.readText_of_writtenIn`: every spelling of a rule is read as the rule.
-/

namespace Blocklist.Declarative

open Json

/-! ## Names -/

/-- The tree is the name that the value has in the table. -/
def IsName {α : Type} [DecidableEq α] (known : List (String × α)) (x : α) : Fragment → Prop :=
  IsString (nameIn known x)

theorem accepts_resourceType :
    (Reader.oneOf resourceTypeNames).Accepts (IsName resourceTypeNames) :=
  Reader.accepts_oneOf fun t => by cases t <;> rfl

theorem accepts_domainType : (Reader.oneOf domainTypeNames).Accepts (IsName domainTypeNames) :=
  Reader.accepts_oneOf fun d => by cases d <;> rfl

theorem accepts_actionKind : (Reader.oneOf actionKindNames).Accepts (IsName actionKindNames) :=
  Reader.accepts_oneOf fun k => by cases k <;> rfl

theorem accepts_headerOperation :
    (Reader.oneOf headerOperationNames).Accepts (IsName headerOperationNames) :=
  Reader.accepts_oneOf fun o => by cases o <;> rfl

/-! ## Conditions -/

/-- What is written for a condition. -/
def Condition.entries (c : Condition) : List Json.Entry :=
  [.maybe "urlFilter" IsString c.urlFilter,
   .maybe "regexFilter" IsString c.regexFilter,
   .maybe "isUrlFilterCaseSensitive" IsBool c.caseSensitive,
   .maybe "initiatorDomains" (IsList IsString) c.initiators,
   .maybe "excludedInitiatorDomains" (IsList IsString) c.excludedInitiators,
   .maybe "resourceTypes" (IsList (IsName resourceTypeNames)) c.resourceTypes,
   .maybe "excludedResourceTypes" (IsList (IsName resourceTypeNames)) c.excludedResourceTypes,
   .maybe "domainType" (IsName domainTypeNames) c.domainType]

theorem Condition.accepts : Condition.read.Accepts fun c => RecordForm c.entries := by
  refine Layout.accepts_of_fits (by decide) (fun c => ?_) "RuleCondition"
  refine ⟨(c.urlFilter, c.regexFilter, c.caseSensitive, c.initiators, c.excludedInitiators,
    c.resourceTypes, c.excludedResourceTypes, c.domainType, ()), ?_, rfl⟩
  exact .maybe Reader.accepts_string _ _ <|
    .maybe Reader.accepts_string _ _ <|
    .maybe Reader.accepts_bool _ _ <|
    .maybe Reader.accepts_string.list _ _ <|
    .maybe Reader.accepts_string.list _ _ <|
    .maybe accepts_resourceType.list _ _ <|
    .maybe accepts_resourceType.list _ _ <|
    .maybe accepts_domainType _ _ .done

/-! ## Actions -/

/-- What is written for a change of a header. -/
def HeaderChange.entries (change : HeaderChange) : List Json.Entry :=
  [.required "header" IsString change.header,
   .required "operation" (IsName headerOperationNames) change.operation,
   .maybe "value" IsString change.value]

theorem HeaderChange.accepts :
    HeaderChange.read.Accepts fun change => RecordForm change.entries := by
  refine Layout.accepts_of_fits (by decide) (fun change => ?_) "ModifyHeaderInfo"
  refine ⟨(change.header, change.operation, change.value, ()), ?_, rfl⟩
  exact .required Reader.accepts_string _ _ <|
    .required accepts_headerOperation _ _ <|
    .maybe Reader.accepts_string _ _ .done

/-- What is written for a change of a query. -/
def QueryTransform.entries (transform : QueryTransform) : List Json.Entry :=
  [.required "removeParams" (IsList IsString) transform.removeParams]

theorem QueryTransform.accepts :
    QueryTransform.read.Accepts fun transform => RecordForm transform.entries := by
  refine Layout.accepts_of_fits (by decide) (fun transform => ?_) "QueryTransform"
  refine ⟨(transform.removeParams, ()), ?_, rfl⟩
  exact .required Reader.accepts_string.list _ _ .done

/-- What is written for a change of an address. -/
def UrlTransform.entries (transform : UrlTransform) : List Json.Entry :=
  [.maybe "query" IsString transform.query,
   .maybe "queryTransform" (fun change => RecordForm change.entries) transform.queryTransform]

theorem UrlTransform.accepts :
    UrlTransform.read.Accepts fun transform => RecordForm transform.entries := by
  refine Layout.accepts_of_fits (by decide) (fun transform => ?_) "UrlTransform"
  refine ⟨(transform.query, transform.queryTransform, ()), ?_, rfl⟩
  exact .maybe Reader.accepts_string _ _ <|
    .maybe QueryTransform.accepts _ _ .done

/-- What is written for a redirect. -/
def Redirect.entries (redirect : Redirect) : List Json.Entry :=
  [.maybe "extensionPath" IsString redirect.extensionPath,
   .maybe "transform" (fun transform => RecordForm transform.entries) redirect.transform]

theorem Redirect.accepts : Redirect.read.Accepts fun redirect => RecordForm redirect.entries := by
  refine Layout.accepts_of_fits (by decide) (fun redirect => ?_) "Redirect"
  refine ⟨(redirect.extensionPath, redirect.transform, ()), ?_, rfl⟩
  exact .maybe Reader.accepts_string _ _ <|
    .maybe UrlTransform.accepts _ _ .done

/-- What is written for an action. -/
def Action.entries (action : Action) : List Json.Entry :=
  [.required "type" (IsName actionKindNames) action.kind,
   .maybe "redirect" (fun redirect => RecordForm redirect.entries) action.redirect,
   .maybe "requestHeaders" (IsList fun change => RecordForm change.entries) action.requestHeaders,
   .maybe "responseHeaders" (IsList fun change => RecordForm change.entries)
     action.responseHeaders]

theorem Action.accepts : Action.read.Accepts fun action => RecordForm action.entries := by
  refine Layout.accepts_of_fits (by decide) (fun action => ?_) "RuleAction"
  refine ⟨(action.kind, action.redirect, action.requestHeaders, action.responseHeaders, ()), ?_,
    rfl⟩
  exact .required accepts_actionKind _ _ <|
    .maybe Redirect.accepts _ _ <|
    .maybe HeaderChange.accepts.list _ _ <|
    .maybe HeaderChange.accepts.list _ _ .done

/-! ## Rules -/

/-- What is written for a rule. -/
def Rule.entries (rule : Rule) : List Json.Entry :=
  [.required "id" IsNumber rule.id,
   .required "priority" IsNumber rule.priority,
   .required "action" (fun action => RecordForm action.entries) rule.action,
   .required "condition" (fun condition => RecordForm condition.entries) rule.condition]

theorem Rule.accepts : Rule.read.Accepts fun rule => RecordForm rule.entries := by
  refine Layout.accepts_of_fits (by decide) (fun rule => ?_) "DeclarativeRule"
  refine ⟨(rule.id, rule.priority, rule.action, rule.condition, ()), ?_, rfl⟩
  exact .required Reader.accepts_u32 _ _ <|
    .required Reader.accepts_u32 _ _ <|
    .required Action.accepts _ _ <|
    .required Condition.accepts _ _ .done

/-- The text spells a tree that holds the entries of the rule. -/
def Rule.WrittenIn (rule : Rule) (text : String) : Prop :=
  ∃ fragment, Spells fragment text.toList ∧ RecordForm rule.entries fragment

/-- Every spelling of a rule is read as the rule. -/
theorem readText_of_writtenIn {rule : Rule} {text : String} (h : rule.WrittenIn text) :
    Json.readText Rule.read text = .ok rule := by
  obtain ⟨fragment, hspells, hform⟩ := h
  exact Rule.accepts.readText hspells hform

/-- A rule with a pattern. -/
def sampleRule : Rule where
  id := 7
  priority := 1
  action := { kind := .block }
  condition := { urlFilter := some "|ads" }

/-- The rule with its members in reverse, one before them that nobody knows, characters that are
escaped without need, and an array for the condition. -/
def sampleSpelling : String :=
  "\x7b\"not\\u0065\":[\x7b\x7d],\t\"condition\" :[\"\\u007cads\", null,null,null,null," ++
    "null,null,null],\"action\":\x7b\"type\":\"block\"\x7d,\"priority\":1,\"id\":7\x7d"

theorem readText_of_writtenIn_sample :
    sampleRule.WrittenIn sampleSpelling ∧ sampleRule.toJson.render .compact ≠ sampleSpelling ∧
      Json.readText Rule.read sampleSpelling = .ok sampleRule := by
  have hspace : Blank [' '] := by simp [Blank]
  have htab : Blank ['\t'] := by simp [Blank]
  have hnote : SpellsString "note" ['"', 'n', 'o', 't', '\\', 'u', '0', '0', '6', '5', '"'] :=
    ⟨[['n'], ['o'], ['t'], ['\\', 'u', '0', '0', '6', '5']],
      .cons (spellsChar_escaped 'n') (.cons (spellsChar_escaped 'o')
        (.cons (spellsChar_escaped 't') (.cons (.unit (spellsUnit_of_lt (by decide))) .nil))), rfl⟩
  have hpattern : SpellsString "|ads" ['"', '\\', 'u', '0', '0', '7', 'c', 'a', 'd', 's', '"'] :=
    ⟨[['\\', 'u', '0', '0', '7', 'c'], ['a'], ['d'], ['s']],
      .cons (.unit (spellsUnit_of_lt (by decide))) (.cons (spellsChar_escaped 'a')
        (.cons (spellsChar_escaped 'd') (.cons (spellsChar_escaped 's') .nil))), rfl⟩
  have hcondition : SpellsName "condition" ('\t' :: (stringText "condition" ++ [' '])) :=
    ⟨['\t'], stringText "condition", [' '], htab, spellsString_stringText "condition", hspace, rfl⟩
  have hitems := SpellsItems.more (.string hpattern) (.more (.after_blank hspace .null)
    (.more .null (.more .null (.more .null (.more .null (.more .null (.last .null)))))))
  -- The other members stand as they are written without white space.
  have hplain := spells_memberChars .compact 0
    [("action", .object [("type", .string "block")]), ("priority", .nat 1), ("id", .nat 7)]
    hcondition (.array hitems) blank_nil
  have hspells := Spells.object (.more ⟨[], _, [], blank_nil, hnote, blank_nil, rfl⟩
    ((Value.array [.object []]).spells_chars .compact 0) hplain)
  have haction : RecordForm sampleRule.action.entries
      (Value.object [("type", .string "block")]).fragment :=
    .of_listed (.written rfl (.omitted rfl (.omitted rfl (.omitted rfl .nil))))
  have hfields : RecordForm sampleRule.condition.entries (.array
      [.string (some "|ads"), .null, .null, .null, .null, .null, .null, .null] true) :=
    .array (.cons rfl (.cons rfl (.cons rfl (.cons rfl (.cons rfl (.cons rfl (.cons rfl
      (.cons rfl .nil))))))))
  have hunknown : ∀ m ∈ [(some "note", (Value.array [.object []]).fragment)],
      Unknown sampleRule.entries m := by
    simp [Unknown, Rule.entries, Json.Entry.required]
  have hform := RecordForm.object
    (.written rfl (.written rfl (.written haction (.written hfields .nil)))) hunknown
    (List.reverse_perm _)
  have hwritten : sampleRule.WrittenIn sampleSpelling := by
    refine ⟨_, (congrArg (Spells _) ?_).mpr hspells, hform⟩
    decide +kernel
  exact ⟨hwritten, by decide +kernel, readText_of_writtenIn hwritten⟩

end Blocklist.Declarative
