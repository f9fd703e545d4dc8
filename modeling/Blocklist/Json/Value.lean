/-! # JSON values and their text

The values that this library writes, and the two ways to write them: compact, without any white
space, and pretty, with a line for every item and member.
-/

namespace Blocklist.Json

/-- A JSON value as the library writes it. Members of an object keep their order. -/
inductive Value where
  | bool (b : Bool)
  | nat (n : Nat)
  | string (s : String)
  | array (items : List Value)
  | object (members : List (String × Value))

/-- How much white space a text has. -/
inductive Style where
  | compact
  | pretty
  deriving Repr, DecidableEq

namespace Style

/-- What stands before an item or a member, and before the end of a container that is not empty. -/
def gap : Style → (depth : Nat) → List Char
  | compact, _ => []
  | pretty, depth => '\n' :: List.replicate (2 * depth) ' '

/-- What stands between a name and its value. -/
def colon : Style → List Char
  | compact => [':']
  | pretty => [':', ' ']

end Style

/-- How one character stands in a string. Only what has to be escaped is. -/
def escaped (c : Char) : List Char :=
  if c = '"' then ['\\', '"']
  else if c = '\\' then ['\\', '\\']
  else if c = '\x08' then ['\\', 'b']
  else if c = '\x0c' then ['\\', 'f']
  else if c = '\n' then ['\\', 'n']
  else if c = '\r' then ['\\', 'r']
  else if c = '\t' then ['\\', 't']
  else if c.toNat < 0x20 then
    ['\\', 'u', '0', '0', Nat.digitChar (c.toNat / 16), Nat.digitChar (c.toNat % 16)]
  else [c]

/-- A string between its quotes. -/
def stringText (s : String) : List Char :=
  '"' :: (s.toList.flatMap escaped ++ ['"'])

mutual

/-- Text of a value that stands `depth` containers deep. -/
def Value.chars (style : Style) (depth : Nat) : Value → List Char
  | .bool b => (if b then "true" else "false").toList
  | .nat n => Nat.toDigits 10 n
  | .string s => stringText s
  | .array items =>
    '[' :: (itemChars style (depth + 1) true items ++
      ((if items.isEmpty then [] else style.gap depth) ++ [']']))
  | .object members =>
    '{' :: (memberChars style (depth + 1) true members ++
      ((if members.isEmpty then [] else style.gap depth) ++ ['}']))

/-- Text of the items of an array. A comma stands before each of them except the first. -/
def itemChars (style : Style) (depth : Nat) (first : Bool) : List Value → List Char
  | [] => []
  | item :: rest =>
    (if first then [] else [',']) ++ (style.gap depth ++ (item.chars style depth ++
      itemChars style depth false rest))

/-- Text of the members of an object. A comma stands before each of them except the first. -/
def memberChars (style : Style) (depth : Nat) (first : Bool) : List (String × Value) → List Char
  | [] => []
  | (name, value) :: rest =>
    (if first then [] else [',']) ++ (style.gap depth ++ (stringText name ++ (style.colon ++
      (value.chars style depth ++ memberChars style depth false rest))))

end

/-- Text of a value. -/
def Value.render (style : Style) (value : Value) : String :=
  String.ofList (value.chars style 0)

/-- A member of an object that is left out when it is not set. -/
def member? (name : String) (value : Option Value) : List (String × Value) :=
  value.toList.map fun v => (name, v)

/-- An array of strings. -/
def strings (texts : List String) : Value :=
  .array (texts.map .string)

end Blocklist.Json
