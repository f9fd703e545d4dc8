import Blocklist.Command.Line

/-! # The program

Carries out a command on the files of the disk. Only what is done here has effects.
-/

namespace Blocklist

/-- The error of an operation on the disk. -/
def FileError.ofSystem : IO.Error → FileError
  | .noFileOrDirectory .. => .notFound
  | .alreadyExists .. => .alreadyExists
  | .inappropriateType _ 21 _ => .isDirectory
  | .inappropriateType .. => .notDirectory
  | .invalidArgument _ 36 _ => .nameTooLong
  | .permissionDenied _ code _ => .other code.toNat "Permission denied"
  | e => .other 5 (toString e)

/-- Carries out an operation and keeps its error. -/
def onDisk {α : Type} (operation : IO α) : IO (Except FileError α) :=
  try
    return .ok (← operation)
  catch e =>
    return .error (.ofSystem e)

instance : FileAccess IO where
  readText path := do
    match ← onDisk (IO.FS.readBinFile path) with
    | .error e => return .error e
    | .ok bytes =>
      match String.fromUTF8? bytes with
      | some text => return .ok text
      | none => return .error .invalidText
  createFolders path := onDisk (IO.FS.createDirAll path)
  writeText path text := onDisk (IO.FS.writeFile path text)

/-- Runs a command and shows what it leaves behind. -/
def perform (arguments : Arguments) : IO UInt32 := do
  let terminal : Terminal ← arguments.run
  for entry in shownLog arguments.verbose terminal.log do
    IO.eprintln ("[" ++ entry.level.name ++ "] " ++ entry.text)
  IO.print terminal.stdout
  match terminal.error with
  | none => return 0
  | some message =>
    IO.eprintln ("Error: " ++ message)
    return 1

end Blocklist

/-- Runs the command of the command line. -/
def main (words : List String) : IO UInt32 := do
  match Blocklist.Arguments.ofLine words with
  | .ok arguments => Blocklist.perform arguments
  | .error e =>
    IO.eprintln ("error: " ++ e.message)
    return 2
