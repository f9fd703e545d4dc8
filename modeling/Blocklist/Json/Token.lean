import Blocklist.Json.Numeral
import Blocklist.Text.Hex
import Blocklist.Text.Pieces

/-! # JSON tokens

A text is cut into tokens from front to back. Where it stops being JSON, the token `broken` ends
the list. A string keeps the escapes that name a code unit until the whole of it is known, because
two of them may stand for one character.
-/

namespace Blocklist.Json

/-- The smallest parts of a JSON text. -/
inductive Token where
  | openArray
  | closeArray
  | openObject
  | closeObject
  | comma
  | colon
  | null
  | bool (b : Bool)
  | number (n : Numeral)
  /-- A string, or `none` if it holds half a surrogate pair. -/
  | string (s : Option String)
  | broken
  deriving Repr, DecidableEq

/-- One element of a string: a character, or the number of a code unit of 16 bits. -/
inductive TextUnit where
  | char (c : Char)
  | unit (code : Nat)
  deriving Repr, DecidableEq

/-- Value of four hexadecimal digits. -/
def hexUnit? (a b c d : Char) : Option Nat :=
  Text.hexNumber? [a, b, c, d]

/-- The character that a backslash and a letter or mark stand for. -/
def shortEscape? : Char → Option Char
  | '"' => some '"'
  | '\\' => some '\\'
  | '/' => some '/'
  | 'b' => some '\x08'
  | 'f' => some '\x0c'
  | 'n' => some '\n'
  | 'r' => some '\r'
  | 't' => some '\t'
  | _ => none

/-- Reads a string after its opening quote. The result counts the characters up to and with the
closing quote. -/
def scanString : List Char → Option (List TextUnit × Nat)
  | [] => none
  | '"' :: _ => some ([], 1)
  | '\\' :: 'u' :: a :: b :: c :: d :: rest => do
    let code ← hexUnit? a b c d
    let (units, n) ← scanString rest
    return (.unit code :: units, n + 6)
  | '\\' :: e :: rest => do
    let c ← shortEscape? e
    let (units, n) ← scanString rest
    return (.char c :: units, n + 2)
  | c :: rest => do
    if c.toNat < 0x20 ∨ c = '\\' then failure
    let (units, n) ← scanString rest
    return (.char c :: units, n + 1)

/-- The code unit begins a surrogate pair. -/
def isLeading (code : Nat) : Bool :=
  0xd800 ≤ code && code < 0xdc00

/-- The code unit ends a surrogate pair. -/
def isTrailing (code : Nat) : Bool :=
  0xdc00 ≤ code && code < 0xe000

/-- Characters of a string, if its surrogates come in pairs. -/
def unitChars? : List TextUnit → Option (List Char)
  | [] => some []
  | .char c :: rest => (unitChars? rest).map (c :: ·)
  | .unit high :: .unit low :: rest =>
    if isLeading high then
      if isTrailing low then
        (unitChars? rest).map
          (Char.ofNat (0x10000 + 1024 * (high - 0xd800) + (low - 0xdc00)) :: ·)
      else none
    else if isTrailing high then none
    else (unitChars? (.unit low :: rest)).map (Char.ofNat high :: ·)
  | .unit code :: rest =>
    if isLeading code || isTrailing code then none
    else (unitChars? rest).map (Char.ofNat code :: ·)

/-- White space between tokens. -/
def isSpace (c : Char) : Bool :=
  c = ' ' || c = '\n' || c = '\t' || c = '\r'

namespace Token

/-- A token that begins with the letter before `text` and goes on with `word`. -/
def scanWord (token : Token) (word text : List Char) : Option (Token × Nat) :=
  if word.isPrefixOf text then some (token, word.length) else none

/-- The token that begins with `c`, which is not white space. The result counts the characters after
`c` that belong to it. -/
def scan (c : Char) (rest : List Char) : Option (Token × Nat) :=
  match c with
  | '[' => some (openArray, 0)
  | ']' => some (closeArray, 0)
  | '{' => some (openObject, 0)
  | '}' => some (closeObject, 0)
  | ',' => some (comma, 0)
  | ':' => some (colon, 0)
  | 'n' => scanWord null "ull".toList rest
  | 't' => scanWord (bool true) "rue".toList rest
  | 'f' => scanWord (bool false) "alse".toList rest
  | '"' => (scanString rest).map fun (units, n) =>
      (string ((unitChars? units).map String.ofList), n)
  | c => (Numeral.scan (c :: rest)).map fun (numeral, n) => (number numeral, n - 1)

/-- Tokens of a text whose first `skip` characters belong to the token before. -/
def listAfter (skip : Nat) : List Char → List Token
  | [] => []
  | c :: rest =>
    match skip with
    | n + 1 => listAfter n rest
    | 0 =>
      if isSpace c then listAfter 0 rest
      else match scan c rest with
        | some (token, n) => token :: listAfter n rest
        | none => [broken]

/-- Tokens of a text. -/
def ofText (text : String) : List Token :=
  listAfter 0 text.toList

end Token

end Blocklist.Json
