import Blocklist.Batch
import Blocklist.Files.Error
import Blocklist.Json.Layout

/-! # Loading filters

Filters come from files, each of which holds an array of them in JSON, and settings from a file of
their own. A rule with an option that is refused is skipped with a warning. A file that cannot be
read ends the loading.
-/

namespace Blocklist

open Json (Reader Layout)

/-- A rule as it stands in a file. An option is a name, or a name and a value with `=` between. -/
structure RuleInput where
  index : UInt32
  pattern : String
  allowlist : Bool := false
  options : List String := []
  deriving Repr, DecidableEq

/-- A filter as it stands in a file. -/
structure FilterInput where
  filterId : UInt32
  rules : List RuleInput
  deriving Repr, DecidableEq

/-- Fields of a rule. -/
def RuleInput.layout :=
  Layout.field { name := "index", read := Reader.u32 } <|
  .field { name := "pattern", read := Reader.string } <|
  .field { name := "allowlist", read := Reader.bool, presence := .defaulted false } <|
  .field { name := "options", read := Reader.list Reader.string, presence := .defaulted [] } .done

/-- Reads a rule. -/
def RuleInput.read : Reader RuleInput := fun fragment =>
  (RuleInput.layout.reader "RuleInput" fragment).map
    fun (index, pattern, allowlist, options, ()) => { index, pattern, allowlist, options }

/-- Fields of a filter. -/
def FilterInput.layout :=
  Layout.field { name := "filterId", read := Reader.u32 } <|
  .field { name := "rules", read := Reader.list RuleInput.read } .done

/-- Reads a filter. -/
def FilterInput.read : Reader FilterInput := fun fragment =>
  (FilterInput.layout.reader "FilterInput" fragment).map
    fun (filterId, rules, ()) => { filterId, rules }

/-- A setting that may be left out, also in an array. -/
def settingField {α : Type} (name : String) (read : Reader α) : Json.Field (Option α) where
  name
  read := Reader.option read
  presence := .defaulted none

/-- Fields of the settings. -/
def Options.layout :=
  Layout.field (settingField "resourcesPath" Reader.string) <|
  .field (settingField "maxNumberOfRules" Reader.size) <|
  .field (settingField "maxNumberOfRegexpRules" Reader.size) .done

/-- Reads settings. -/
def Options.read : Reader Options := fun fragment =>
  (Options.layout.reader "ConverterOptions" fragment).map
    fun (resourcesPath, rules, regexpRules, ()) =>
      { resourcesPath, limits := { rules, regexpRules } }

/-- Name and value of an option as it is written. -/
def splitOption (option : String) : String × String :=
  match Text.cutAt '=' option.toList with
  | some (name, value) => (String.ofList name, String.ofList value)
  | none => (option, "")

/-- The rule that a file describes. -/
def RuleInput.build (input : RuleInput) : Except RuleError Rule :=
  Rule.withOptions { pattern := input.pattern, allowlist := input.allowlist }
    (input.options.map splitOption)

/-- The rule with its position, if it can be built. -/
def RuleInput.sourceRule? (input : RuleInput) : Option SourceRule :=
  input.build.toOption.map fun rule => ⟨input.index, rule⟩

/-- The warning about a rule that cannot be built. -/
def RuleInput.warning? (filterId : UInt32) (input : RuleInput) : Option LogEntry :=
  match input.build with
  | .ok _ => none
  | .error e => some ⟨.warn,
      "Skipping rule " ++ toString input.index.toNat ++ " of filter " ++
      toString filterId.toNat ++ " (" ++ input.pattern ++ "): " ++ e.message⟩

/-- Filters that were loaded. -/
structure Loaded where
  filters : List Filter := []
  /-- Number of rules in the files. -/
  total : Nat := 0
  /-- Number of rules that could not be built. -/
  skipped : Nat := 0
  deriving Repr, DecidableEq

instance : Append Loaded where
  append a b := ⟨a.filters ++ b.filters, a.total + b.total, a.skipped + b.skipped⟩

/-- Builds the rules of a filter. -/
def FilterInput.load (input : FilterInput) : Loaded where
  filters := [⟨input.filterId, input.rules.filterMap RuleInput.sourceRule?⟩]
  total := input.rules.length
  skipped := input.rules.countP fun rule => rule.sourceRule?.isNone

/-- Warnings about the rules of a filter. -/
def FilterInput.warnings (input : FilterInput) : List LogEntry :=
  input.rules.filterMap (RuleInput.warning? input.filterId)

/-- Why loading ends early. -/
inductive LoadError where
  | noInput
  | unreadable (path : String) (error : FileError)
  | unparsable (path : String) (error : Json.ReadError)
  | invalidConfig (path : String) (error : Json.ReadError)
  deriving Repr, DecidableEq

/-- Wording of the error. -/
def LoadError.message : LoadError → String
  | noInput => "No input files specified"
  | unreadable path e => "Failed to read '" ++ path ++ "': " ++ e.message
  | unparsable path e => "Failed to parse '" ++ path ++ "': " ++ e.message
  | invalidConfig path e => "Invalid config '" ++ path ++ "': " ++ e.message

/-- A file with what was read from it. -/
abbrev InputFile := String × Except FileError String

/-- Loads the filters of several files, one after the other. The log is that of all files up to the
one that ends the loading. -/
def loadFiles : List InputFile → List LogEntry × Except LoadError Loaded
  | [] => ([], .ok {})
  | (path, .error e) :: _ => ([], .error (.unreadable path e))
  | (path, .ok text) :: rest =>
    match Json.readText (Reader.list FilterInput.read) text with
    | .error e => ([], .error (.unparsable path e))
    | .ok inputs =>
      let (log, loaded) := loadFiles rest
      (inputs.flatMap FilterInput.warnings ++ log,
        loaded.map fun more => inputs.foldr (fun input more => input.load ++ more) more)

/-- Loads filters from files, of which there has to be one. -/
def loadFilters (files : List InputFile) : List LogEntry × Except LoadError Loaded :=
  if files.isEmpty then ([], .error .noInput) else loadFiles files

/-- Loads settings. Without a file they say nothing. -/
def loadOptions : Option InputFile → Except LoadError Options
  | none => .ok {}
  | some (path, .error e) => .error (.unreadable path e)
  | some (path, .ok text) =>
    match Json.readText Options.read text with
    | .ok options => .ok options
    | .error e => .error (.invalidConfig path e)

end Blocklist
