import Blocklist.Json.Fragment
import Blocklist.Json.Number
import Blocklist.Text.Quoted
import Blocklist.Text.Shortest

/-! # Readers of JSON

A reader turns a fragment into a value of some type, or tells the first thing that is wrong with it,
in the order of the text. A place where the text stops being JSON is wrong only when the reader gets
there.
-/

namespace Blocklist.Json

/-- What is wrong with a text. Where in the text it is wrong is not kept. -/
inductive ReadError where
  /-- The text is not JSON. The kinds of syntax errors are not told apart. -/
  | malformed
  | missingField (name : String)
  | duplicateField (name : String)
  /-- A value of another kind than the expected one. -/
  | invalidType (found expected : String)
  /-- A value of the right kind that is out of range. -/
  | invalidValue (found expected : String)
  /-- An array that ends too soon. -/
  | invalidLength (length : Nat) (expected : String)
  | unknownVariant (name : String) (known : List String)
  deriving Repr, DecidableEq

/-- A list of alternatives as it stands in a message. -/
def alternatives (names : List String) : String :=
  match names.map fun name => "`" ++ name ++ "`" with
  | [one, two] => one ++ " or " ++ two
  | quoted => "one of " ++ Text.joined ", " quoted

/-- Wording of the error. The line and the column, which would stand at its end, are left out, and
all syntax errors have one wording. -/
def ReadError.message : ReadError → String
  | malformed => "syntax error"
  | missingField name => "missing field `" ++ name ++ "`"
  | duplicateField name => "duplicate field `" ++ name ++ "`"
  | invalidType found expected => "invalid type: " ++ found ++ ", expected " ++ expected
  | invalidValue found expected => "invalid value: " ++ found ++ ", expected " ++ expected
  | invalidLength length expected =>
    "invalid length " ++ toString length ++ ", expected " ++ expected
  | unknownVariant name known =>
    "unknown variant `" ++ name ++ "`, expected " ++ alternatives known

/-- What stands where a value was looked for. -/
inductive Found where
  | null
  | bool (b : Bool)
  | number (n : Numeral)
  | string (s : String)
  | sequence
  | map
  deriving Repr, DecidableEq

/-- Turns a fragment into a value. -/
abbrev Reader (α : Type) := Fragment → Except ReadError α

/-- An integer in a message. -/
def integerText (negative : Bool) (n : Nat) : String :=
  "integer `" ++ (if negative then "-" else "") ++ toString n ++ "`"

/-- A number in a message. -/
def Number.describe : Number → String
  | natural n => integerText false n
  | negative n => integerText true n
  | float f => "floating point `" ++ Text.floatText f ++ "`"

/-- Wording for what was found, unless it is a number out of range. -/
def Found.describe? : Found → Option String
  | null => some "null"
  | bool b => some (if b then "boolean `true`" else "boolean `false`")
  | number n => n.value?.map Number.describe
  | string s => some ("string " ++ Text.quoted s)
  | sequence => some "sequence"
  | map => some "map"

/-- What a fragment shows at its start. A container is known by its bracket, anything else has to be
read to its end. -/
def Fragment.found? : Fragment → Option Found
  | null => some .null
  | bool b => some (.bool b)
  | number n => some (.number n)
  | string s => s.map .string
  | array .. => some .sequence
  | object .. => some .map
  | broken => none

/-- Refuses a fragment that is not of the expected kind. -/
def Fragment.refuse {α : Type} (fragment : Fragment) (expected : String) : Except ReadError α :=
  match fragment.found?.bind Found.describe? with
  | some found => .error (.invalidType found expected)
  | none => .error .malformed

namespace Reader

/-- Reads a natural number below `bound`. -/
def natural (bound : Nat) (expected : String) : Reader Nat
  | .number n =>
    match n.value? with
    | some (.natural n) =>
      if n < bound then .ok n else .error (.invalidValue (integerText false n) expected)
    | some (.negative n) => .error (.invalidValue (integerText true n) expected)
    | _ => (Fragment.number n).refuse expected
  | fragment => fragment.refuse expected

/-- Reads a number of 32 bits. -/
def u32 : Reader UInt32 := fun fragment =>
  (natural UInt32.size "u32" fragment).map UInt32.ofNat

/-- Reads a size, which has 64 bits. -/
def size : Reader Nat :=
  natural UInt64.size "usize"

/-- Reads a string. -/
def string : Reader String
  | .string (some s) => .ok s
  | fragment => fragment.refuse "a string"

/-- Reads a truth value. -/
def bool : Reader Bool
  | .bool b => .ok b
  | fragment => fragment.refuse "a boolean"

/-- Reads the items of an array one after the other. -/
def list {α : Type} (item : Reader α) : Reader (List α)
  | .array items closed => do
    let values ← items.mapM item
    if closed then return values else throw .malformed
  | fragment => fragment.refuse "a sequence"

/-- Reads `null` as nothing. -/
def option {α : Type} (value : Reader α) : Reader (Option α)
  | .null => .ok none
  | fragment => (value fragment).map some

/-- The alternative with this name. -/
def variant {α : Type} (known : List (String × α)) (name : String) : Except ReadError α :=
  match known.lookup name with
  | some value => .ok value
  | none => .error (.unknownVariant name (known.map Prod.fst))

/-- Reads one of several names. A name may also be the only member of an object, with `null` as its
value. -/
def oneOf {α : Type} (known : List (String × α)) : Reader α
  | .string (some name) => variant known name
  | .object ((some name, value) :: more) closed => do
    let chosen ← variant known name
    match value, more, closed with
    | .null, [], true => return chosen
    | .null, _, _ => throw .malformed
    | value, _, _ => value.refuse "unit"
  | _ => .error .malformed

end Reader

end Blocklist.Json
