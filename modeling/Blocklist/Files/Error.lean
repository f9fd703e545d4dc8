/-! # File errors

What the operating system answers when a file cannot be read or written.
-/

namespace Blocklist

/-- Reasons why an operation on files fails. -/
inductive FileError where
  | notFound
  | alreadyExists
  | notDirectory
  | isDirectory
  | nameTooLong
  /-- The path holds a NUL character, which no name can have. -/
  | invalidName
  /-- The file is not a text in UTF-8. -/
  | invalidText
  /-- Any other error, with its number. -/
  | other (code : Nat) (text : String)
  deriving Repr, DecidableEq

/-- Wording of an error that has a number. -/
def systemMessage (text : String) (code : Nat) : String :=
  text ++ " (os error " ++ toString code ++ ")"

/-- Wording of the error. -/
def FileError.message : FileError → String
  | notFound => systemMessage "No such file or directory" 2
  | alreadyExists => systemMessage "File exists" 17
  | notDirectory => systemMessage "Not a directory" 20
  | isDirectory => systemMessage "Is a directory" 21
  | nameTooLong => systemMessage "File name too long" 36
  | invalidName => "file name contained an unexpected NUL byte"
  | invalidText => "stream did not contain valid UTF-8"
  | other code text => systemMessage text code

end Blocklist
