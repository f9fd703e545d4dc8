import Blocklist.Domains
import Blocklist.Flags
import Blocklist.Modifier
import Blocklist.TypeSet

/-! # Rules

A rule is a pattern with everything that its options say. It is built option by option: an option
is read on its own into a `Setting`, and the setting is then added to the rule. Only the second
modifier of a rule is refused at that point.
-/

namespace Blocklist

/-- A network rule of a filter list. -/
structure Rule where
  /-- What addresses the rule matches, without the mark of an exception and without options. -/
  pattern : String
  /-- The rule is an exception. -/
  allowlist : Bool
  flags : Flags := {}
  /-- Domains whose pages the rule holds on, ascending. All domains if there are none. -/
  permittedDomains : List String := []
  /-- Domains whose pages the rule does not hold on, ascending. -/
  restrictedDomains : List String := []
  /-- Resource types that the rule holds for. All of them if there are none. -/
  permittedTypes : TypeSet := .empty
  /-- Resource types that the rule does not hold for. -/
  restrictedTypes : TypeSet := .empty
  modifier : Option Modifier := none
  deriving Repr, DecidableEq

/-- What a single option says. -/
inductive Setting where
  | flag (flag : Flag)
  | domains (entries : List DomainEntry)
  | permitType (type : ResourceType)
  | restrictType (type : ResourceType)
  | modifier (modifier : Modifier)
  deriving Repr, DecidableEq

namespace Setting

/-- The resource type that an option permits or, after a tilde, restricts. -/
def ofTypeName? (name : String) : Option Setting :=
  match name.toList with
  | '~' :: rest => (ResourceType.ofOptionName? (String.ofList rest)).map restrictType
  | _ => (ResourceType.ofOptionName? name).map permitType

/-- Reads an option. Blanks around its name and the case of its letters do not matter. -/
def parse (name value : String) (allowlist : Bool) : Except RuleError Setting :=
  let name := Text.lower (Text.trim name)
  match Flag.ofOptionName? name with
  | some f => .ok (flag f)
  | none =>
    if name = "domain" then .ok (domains (DomainEntry.ofValue value))
    else match ofTypeName? name with
      | some setting => .ok setting
      | none =>
        match Modifier.parse name value allowlist with
        | .ok (some m) => .ok (modifier m)
        | .ok none => .error (.unknownOption name)
        | .error e => .error e

end Setting

namespace Rule

/-- The rule with a modifier. A rule has at most one. -/
def withModifier (rule : Rule) (modifier : Modifier) : Except RuleError Rule :=
  match rule.modifier with
  | some first => .error (.conflictingModifiers first.kind modifier.kind)
  | none => .ok { rule with modifier := some modifier }

/-- The rule with the domains of a domain option. -/
def withDomains (rule : Rule) (entries : List DomainEntry) : Rule :=
  { rule with
    permittedDomains :=
      Domains.insertAll (entries.filterMap DomainEntry.permitted?) rule.permittedDomains
    restrictedDomains :=
      Domains.insertAll (entries.filterMap DomainEntry.restricted?) rule.restrictedDomains }

/-- The rule with one more setting. -/
def withSetting (rule : Rule) : Setting → Except RuleError Rule
  | .flag f => .ok { rule with flags := rule.flags.insert f }
  | .domains entries => .ok (rule.withDomains entries)
  | .permitType t => .ok { rule with permittedTypes := rule.permittedTypes ∪ .single t }
  | .restrictType t => .ok { rule with restrictedTypes := rule.restrictedTypes ∪ .single t }
  | .modifier m => rule.withModifier m

/-- The rule with one more option, given by its name and its value, which may be empty. -/
def withOption (rule : Rule) (name value : String) : Except RuleError Rule := do
  let setting ← Setting.parse name value rule.allowlist
  rule.withSetting setting

/-- The rule with several options, one after the other. The first that is refused ends it. -/
def withOptions (rule : Rule) (options : List (String × String)) : Except RuleError Rule :=
  options.foldlM (fun rule option => rule.withOption option.1 option.2) rule

/-- The rule switches off its twin and converts to nothing. -/
def isBadfilter (rule : Rule) : Bool :=
  rule.flags.badfilter

/-- The regular expression inside a pattern that stands between slashes. -/
def regexSource? (rule : Rule) : Option String :=
  (Text.slashed? rule.pattern.toList).map String.ofList

/-- What the rule is apart from being a badfilter rule. -/
def twin (rule : Rule) : Rule :=
  { rule with flags := { rule.flags with badfilter := false } }

/-- A badfilter rule negates the rule that is like it in all else. -/
def negates (rule target : Rule) : Bool :=
  rule.isBadfilter && rule.twin == target

theorem negates_iff {rule target : Rule} :
    rule.negates target = true ↔ rule.isBadfilter = true ∧ rule.twin = target := by
  simp [negates]

end Rule

/-- A rule together with its position in the filter that it comes from. -/
structure SourceRule where
  index : UInt32
  rule : Rule
  deriving Repr, DecidableEq

end Blocklist
