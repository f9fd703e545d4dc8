import Blocklist.Command

/-! # Command lines

A command line is the name of a command with its options in any order. The value of an option
follows it as the next word, or after `=` in the same word. There are no texts of help, and an error
is told in one line.
-/

namespace Blocklist

/-- What is wrong with a command line. -/
inductive LineError where
  | noCommand
  | unknownCommand (name : String)
  | unknownOption (word : String)
  | missingValue (option : String)
  | invalidNumber (option value : String)
  | noInput
  deriving Repr, DecidableEq

/-- Wording of the error. -/
def LineError.message : LineError → String
  | noCommand => "a command is required: convert or stats"
  | unknownCommand name => "unknown command '" ++ name ++ "'"
  | unknownOption word => "unexpected argument '" ++ word ++ "'"
  | missingValue option => "a value is required for '" ++ option ++ "'"
  | invalidNumber option value => "invalid value '" ++ value ++ "' for '" ++ option ++ "'"
  | noInput => "at least one '--input' is required"

/-- A long option with its value in the same word, as two words. -/
def separateValue (word : String) : List String :=
  match "--".toList.isPrefixOf word.toList, Text.cutAt '=' word.toList with
  | true, some (option, value) => [String.ofList option, String.ofList value]
  | _, _ => [word]

/-- The number that the digits write, if it has 64 bits. -/
def readCount (option value : String) : Except LineError Nat :=
  let digits := value.toList
  let n := Json.Numeral.ofDigits digits
  if !digits.isEmpty && digits.all Char.isDigit && n < UInt64.size then .ok n
  else .error (.invalidNumber option value)

/-- The arguments with the options of a command line. -/
def Arguments.withWords (arguments : Arguments) : List String → Except LineError Arguments
  | [] => .ok arguments
  | "-v" :: rest | "--verbose" :: rest => { arguments with verbose := true }.withWords rest
  | [word] => .error (.missingValue word)
  | option :: value :: rest =>
    match option with
    | "-i" | "--input" => { arguments with inputs := arguments.inputs ++ [value] }.withWords rest
    | "-c" | "--config" => { arguments with config := some value }.withWords rest
    | "--resources-path" => { arguments with resourcesPath := some value }.withWords rest
    | "--max-rules" => do
      let n ← readCount option value
      Arguments.withWords { arguments with maxRules := some n } rest
    | "--max-regexp-rules" => do
      let n ← readCount option value
      Arguments.withWords { arguments with maxRegexpRules := some n } rest
    | "-o" | "--output" =>
      match arguments.command with
      | .convert _ sourceMap =>
        { arguments with command := .convert value sourceMap }.withWords rest
      | .stats => .error (.unknownOption option)
    | "-s" | "--source-map" =>
      match arguments.command with
      | .convert output _ =>
        { arguments with command := .convert output (some value) }.withWords rest
      | .stats => .error (.unknownOption option)
    | _ => .error (.unknownOption option)

/-- Reads a command line. Without a word on it, rules are written to `ruleset.json`. -/
def Arguments.ofLine : List String → Except LineError Arguments
  | [] => .error .noCommand
  | name :: words => do
    let command ←
      match name with
      | "convert" => pure (.convert "ruleset.json" none)
      | "stats" => pure .stats
      | _ => throw (.unknownCommand name)
    let arguments ←
      Arguments.withWords { command, inputs := [] } (words.flatMap separateValue)
    if arguments.inputs.isEmpty then throw .noInput else return arguments

end Blocklist
