import Blocklist.Files.Access
import Blocklist.Load
import Blocklist.Report.Wire

/-! # Commands

`convert` writes declarative rules, and their reports if asked to, into files. `stats` only counts.
Both read all their files first and work out the rest without effects; `convert` then writes at most
two files, the rules before the reports.
-/

namespace Blocklist

/-- What to do with the filters. -/
inductive Command where
  /-- Write the declarative rules to one file and the reports to another. -/
  | convert (output : String) (sourceMap : Option String)
  | stats
  deriving Repr, DecidableEq

/-- Arguments of a command. Those that are also settings win over the settings of the file. -/
structure Arguments where
  command : Command
  inputs : List String
  config : Option String := none
  resourcesPath : Option String := none
  maxRules : Option Nat := none
  maxRegexpRules : Option Nat := none
  verbose : Bool := false
  deriving Repr, DecidableEq

/-- What a command leaves behind on the terminal. -/
structure Terminal where
  stdout : String
  log : List LogEntry
  /-- What went wrong, if anything did. -/
  error : Option String
  deriving Repr, DecidableEq

/-- Settings of the file, with the arguments that win over them. -/
def Arguments.override (arguments : Arguments) (options : Options) : Options where
  resourcesPath := arguments.resourcesPath <|> options.resourcesPath
  limits :=
    { rules := arguments.maxRules <|> options.limits.rules
      regexpRules := arguments.maxRegexpRules <|> options.limits.regexpRules }

/-- Lines of text. -/
def unlines (lines : List String) : String :=
  String.join (lines.map (· ++ "\n"))

/-- A number of bytes in units of 1024, with one decimal place. A half goes to the even digit. -/
def kilobytes (bytes : Nat) : String :=
  let tenths := 10 * bytes
  let low := tenths / 1024
  let rest := tenths % 1024
  let rounded :=
    if rest < 512 ∨ (rest = 512 ∧ low % 2 = 0) then low else low + 1
  toString (rounded / 10) ++ "." ++ toString (rounded % 10)

/-- Filters that are loaded and converted. -/
structure Converting where
  loaded : Loaded
  run : Run
  deriving Repr, DecidableEq

/-- Loads and converts filters. Settings are loaded before the filters. -/
def convertFiles (arguments : Arguments) (config : Option InputFile) (files : List InputFile) :
    List LogEntry × Except String Converting :=
  match loadOptions config with
  | .error e => ([], .error e.message)
  | .ok options =>
    match loadFilters files with
    | (log, .error e) => (log, .error e.message)
    | (log, .ok loaded) =>
      match convert (arguments.override options) loaded.filters with
      | .error e => (log, .error e.message)
      | .ok run => (log ++ run.log, .ok ⟨loaded, run⟩)

namespace Converting

/-- Summary of a conversion whose rules were written to a file. How long the conversion took is left
out: it would be the last line. -/
def summary (converting : Converting) (output : String) : String :=
  let result := converting.run.result
  let bytes := result.ruleSetText.utf8ByteSize
  unlines (
    ["Converted " ++ toString converting.loaded.filters.length ++ " filters to '" ++ output ++ "'",
     "  Rules:    " ++ toString converting.loaded.total ++ " loaded, " ++
      toString converting.loaded.skipped ++ " skipped -> " ++ toString result.rules.length ++
      " declarative (" ++ toString result.regexpRules ++ " regexp)",
     "  Errors:   " ++ toString result.errors.length] ++
    result.limitations.map (fun limitation => "  Limit:    " ++ limitation.message) ++
    ["  Size:     " ++ toString bytes ++ " bytes (" ++ kilobytes bytes ++ " KB)"])

/-- Number of loaded rules of a group. -/
def groupCount (converting : Converting) (group : Group) : Nat :=
  (converting.loaded.filters.flatMap fun filter =>
    (GroupedRules.ofRules filter.rules).get group).length

/-- Counts of a conversion. -/
def statistics (converting : Converting) : String :=
  let result := converting.run.result
  let groupLine (group : Group) : String :=
    "  " ++ (group.name ++ ":").pushn ' ' (16 - (group.name.length + 1)) ++ " " ++
      toString (converting.groupCount group)
  unlines (
    ["Filters:           " ++ toString converting.loaded.filters.length,
     "Source rules:      " ++ toString converting.loaded.total ++ " (" ++
      toString converting.loaded.skipped ++ " skipped)"] ++
    Group.all.map groupLine ++
    ["Declarative rules: " ++ toString result.rules.length,
     "  Regexp:          " ++ toString result.regexpRules,
     "Source map:        " ++ toString result.sourceMap.length,
     "Errors:            " ++ toString result.errors.length] ++
    result.limitations.map fun limitation => "  " ++ limitation.message)

/-- Warnings about what was not converted. -/
def warnings (converting : Converting) : List LogEntry :=
  converting.run.result.errors.map fun e => ⟨.warn, e.message⟩

end Converting

variable {m : Type → Type} [Monad m] [FileAccess m]

/-- Writes the declarative rules and then the reports. The result tells what was logged. -/
def writeResult (result : ConversionResult) (output : String) (sourceMap : Option String) :
    m (Except String (List LogEntry)) := do
  match ← writeWithFolders output result.ruleSetText with
  | .error message => return .error message
  | .ok () =>
    match sourceMap with
    | none => return .ok []
    | some path =>
      match ← writeWithFolders path result.sourceMapText with
      | .error message => return .error message
      | .ok () => return .ok [⟨.info, "Wrote source map to '" ++ path ++ "'"⟩]

/-- Reads a file. -/
def readInput (path : String) : m InputFile := do
  return (path, ← FileAccess.readText path)

/-- Runs a command. -/
def Arguments.run (arguments : Arguments) : m Terminal := do
  let config ← arguments.config.mapM readInput
  let files ← arguments.inputs.mapM readInput
  match convertFiles arguments config files with
  | (log, .error message) => return ⟨"", log, some message⟩
  | (log, .ok converting) =>
    match arguments.command with
    | .stats => return ⟨converting.statistics, log, none⟩
    | .convert output sourceMap =>
      let log := log ++ converting.warnings
      match ← writeResult converting.run.result output sourceMap with
      | .error message => return ⟨"", log, some message⟩
      | .ok more => return ⟨converting.summary output, log ++ more, none⟩

/-- The entries of a log that are shown. Those for debugging are shown only on request. What the
environment could ask for is left out. -/
def shownLog (verbose : Bool) (log : List LogEntry) : List LogEntry :=
  log.filter fun entry => verbose || entry.level != .debug

end Blocklist
