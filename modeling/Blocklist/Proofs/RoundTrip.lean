import Blocklist.Proofs.Spellings
import Blocklist.Report.Wire

/-! # Declarative rules come back from their text

What the writer of a declarative type makes of its values is one of the forms that the reader of the
type accepts: names of alternatives, fields that are set or not, empty lists, and texts with any
characters in them. So the values come back.

* `Declarative.Condition.form_toJson`, `Declarative.Action.form_toJson`, ...: the records, each from
  its fields;
* `Declarative.Rule.writtenIn_render`: the text of a rule is one of its spellings;
* `rules_roundTrip`: the file of the rules and the text of one rule come back as they were.
-/

namespace Blocklist

open Json

namespace Declarative

theorem isName_string {α : Type} [DecidableEq α] (known : List (String × α)) (x : α) :
    IsName known x (Value.string (nameIn known x)).fragment :=
  rfl

theorem isList_strings : ∀ texts, IsList IsString texts (strings texts).fragment :=
  IsList.of_forall isString_string

theorem isList_resourceTypes : ∀ types, IsList (IsName resourceTypeNames) types
    (Value.array (types.map resourceTypeToJson)).fragment :=
  IsList.of_forall (isName_string resourceTypeNames)

theorem HeaderChange.form_toJson (change : HeaderChange) :
    RecordForm change.entries change.toJson.fragment := by
  apply RecordForm.of_listed
  exact .required isString_string _ _ <|
    .required (isName_string headerOperationNames) _ _ <|
    .maybe_nil isString_string _ _

theorem QueryTransform.form_toJson (transform : QueryTransform) :
    RecordForm transform.entries transform.toJson.fragment := by
  apply RecordForm.of_listed
  exact .required isList_strings _ _ .nil

theorem UrlTransform.form_toJson (transform : UrlTransform) :
    RecordForm transform.entries transform.toJson.fragment := by
  apply RecordForm.of_listed
  exact .maybe isString_string _ _ <|
    .maybe_nil QueryTransform.form_toJson _ _

theorem Redirect.form_toJson (redirect : Redirect) :
    RecordForm redirect.entries redirect.toJson.fragment := by
  apply RecordForm.of_listed
  exact .maybe isString_string _ _ <|
    .maybe_nil UrlTransform.form_toJson _ _

theorem Action.form_toJson (action : Action) :
    RecordForm action.entries action.toJson.fragment := by
  apply RecordForm.of_listed
  simp only [List.append_assoc]
  exact .required (isName_string actionKindNames) _ _ <|
    .maybe Redirect.form_toJson _ _ <|
    .maybe (IsList.of_forall HeaderChange.form_toJson) _ _ <|
    .maybe_nil (IsList.of_forall HeaderChange.form_toJson) _ _

theorem Condition.form_toJson (c : Condition) : RecordForm c.entries c.toJson.fragment := by
  apply RecordForm.of_listed
  simp only [List.append_assoc]
  exact .maybe isString_string _ _ <|
    .maybe isString_string _ _ <|
    .maybe isBool_bool _ _ <|
    .maybe isList_strings _ _ <|
    .maybe isList_strings _ _ <|
    .maybe isList_resourceTypes _ _ <|
    .maybe isList_resourceTypes _ _ <|
    .maybe_nil (isName_string domainTypeNames) _ _

theorem Rule.form_toJson (rule : Rule) : RecordForm rule.entries rule.toJson.fragment := by
  apply RecordForm.of_listed
  exact .required isNumber_nat _ _ <|
    .required isNumber_nat _ _ <|
    .required Action.form_toJson _ _ <|
    .required Condition.form_toJson _ _ .nil

/-- The text of a rule is one of its spellings, whatever the style. -/
theorem Rule.writtenIn_render (rule : Rule) (style : Style) :
    rule.WrittenIn (rule.toJson.render style) := by
  refine ⟨rule.toJson.fragment, ?_, rule.form_toJson⟩
  rw [Value.render, String.toList_ofList]
  exact rule.toJson.spells_chars style 0

theorem Rule.recovers : Rule.read.Recovers Rule.toJson :=
  Rule.accepts.recovers Rule.form_toJson

theorem recovers_rules : (Reader.list Rule.read).Recovers rulesToJson :=
  Rule.accepts.list.recovers (IsList.of_forall Rule.form_toJson)

end Declarative

/-- The file of the rules is read back as the same list of rules, and the text of one rule, whatever
its style, as the same rule. -/
theorem rules_roundTrip (result : ConversionResult) (rule : Declarative.Rule)
    (style : Json.Style) :
    Json.readText (Reader.list Declarative.Rule.read) result.ruleSetText = .ok result.rules ∧
      Json.readText Declarative.Rule.read (rule.toJson.render style) = .ok rule :=
  ⟨Declarative.recovers_rules.readText_render .pretty result.rules,
    Declarative.Rule.recovers.readText_render style rule⟩

end Blocklist
