import Blocklist.Text.Hex
import Blocklist.Text.Printable

/-! # Quoted texts

A text inside a message stands between double quotes. Whatever could not be told apart on a terminal
is written as an escape.
-/

namespace Blocklist.Text

/-- How one character stands inside double quotes. -/
def quotedChar (c : Char) : String :=
  if c = '\x00' then "\\0"
  else if c = '\t' then "\\t"
  else if c = '\r' then "\\r"
  else if c = '\n' then "\\n"
  else if c = '"' then "\\\""
  else if c = '\\' then "\\\\"
  else if isPrintable c then String.singleton c
  else "\\u\x7b" ++ hex c.toNat ++ "\x7d"

/-- The text between double quotes. -/
def quoted (s : String) : String :=
  "\"" ++ s.toList.foldl (fun out c => out ++ quotedChar c) "" ++ "\""

end Blocklist.Text
