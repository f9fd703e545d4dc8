import Blocklist.Json.Token

/-! # Documents, whole or broken

A reader of JSON has to tell what is wrong with a text at the first place where something is wrong,
even if the text breaks off later. So a text is read into a tree that also exists for broken texts,
and the tree shows where the text stopped being JSON.
-/

namespace Blocklist.Json

/-- A value as far as the text goes. Strings and names are `none` if they hold half a surrogate
pair. -/
inductive Fragment where
  | null
  | bool (b : Bool)
  | number (n : Numeral)
  | string (s : Option String)
  | array (items : List Fragment) (closed : Bool)
  | object (members : List (Option String × Fragment)) (closed : Bool)
  /-- There is no value here. -/
  | broken

namespace Fragment

mutual

/-- The fragment is a value without a fault. Half a surrogate pair is no fault as long as nobody
needs the string. -/
def isWhole : Fragment → Bool
  | array items closed => closed && areWhole items
  | object members closed => closed && membersWhole members
  | broken => false
  | _ => true

/-- All fragments are values without a fault. -/
def areWhole : List Fragment → Bool
  | [] => true
  | item :: rest => item.isWhole && areWhole rest

/-- The values of all members are without a fault. -/
def membersWhole : List (Option String × Fragment) → Bool
  | [] => true
  | (_, value) :: rest => value.isWhole && membersWhole rest

end

end Fragment

/-- The containers around a place in a text. Their items and members so far are in reverse. -/
inductive Context where
  | root
  | item (done : List Fragment) (outer : Context)
  | member (done : List (Option String × Fragment)) (name : Option String) (outer : Context)

/-- The document in which the text stops being JSON after `inner`. -/
def Context.unwind (inner : Fragment) : Context → Fragment
  | root => inner
  | item done outer => outer.unwind (.array (inner :: done).reverse false)
  | member done name outer => outer.unwind (.object ((name, inner) :: done).reverse false)

/-- What may come next. -/
inductive Expectation where
  | value (context : Context)
  /-- A value or the end of an empty array. -/
  | firstItem (outer : Context)
  /-- A comma or the end of the array. -/
  | itemEnd (done : List Fragment) (outer : Context)
  /-- A name or the end of an empty object. -/
  | firstName (outer : Context)
  | nextName (done : List (Option String × Fragment)) (outer : Context)
  | colon (done : List (Option String × Fragment)) (name : Option String) (outer : Context)
  /-- A comma or the end of the object. -/
  | memberEnd (done : List (Option String × Fragment)) (outer : Context)
  /-- The end of the text. -/
  | nothing (root : Fragment)

namespace Expectation

/-- What may come after a value. -/
def after (value : Fragment) : Context → Expectation
  | .root => nothing value
  | .item done outer => itemEnd (value :: done) outer
  | .member done name outer => memberEnd ((name, value) :: done) outer

/-- The document when the text stops being JSON here. -/
def unwind : Expectation → Fragment
  | value context => context.unwind .broken
  | firstItem outer => outer.unwind (.array [] false)
  | itemEnd done outer => outer.unwind (.array done.reverse false)
  | firstName outer => outer.unwind (.object [] false)
  | nextName done outer => outer.unwind (.object done.reverse false)
  | colon done name outer => outer.unwind (.object ((name, .broken) :: done).reverse false)
  | memberEnd done outer => outer.unwind (.object done.reverse false)
  | nothing root => root

/-- What may come after a token with which a value begins. -/
def afterStart (context : Context) : Token → Option Expectation
  | .null => some (after .null context)
  | .bool b => some (after (.bool b) context)
  | .number n => some (after (.number n) context)
  | .string s => some (after (.string s) context)
  | .openArray => some (firstItem context)
  | .openObject => some (firstName context)
  | _ => none

/-- What may come after a token, or `none` if the token may not stand here. -/
def step : Expectation → Token → Option Expectation
  | value context, token => afterStart context token
  | firstItem outer, .closeArray => some (after (.array [] true) outer)
  | firstItem outer, token => afterStart (.item [] outer) token
  | itemEnd done outer, .closeArray => some (after (.array done.reverse true) outer)
  | itemEnd done outer, .comma => some (value (.item done outer))
  | firstName outer, .closeObject => some (after (.object [] true) outer)
  | firstName outer, .string s => some (colon [] s outer)
  | nextName done outer, .string s => some (colon done s outer)
  | colon done name outer, .colon => some (value (.member done name outer))
  | memberEnd done outer, .closeObject => some (after (.object done.reverse true) outer)
  | memberEnd done outer, .comma => some (nextName done outer)
  | _, _ => none

end Expectation

/-- A text read as JSON. -/
structure Document where
  root : Fragment
  /-- Nothing comes after the root. -/
  ended : Bool

namespace Document

/-- Reads on from a place in the text. -/
def read (expected : Expectation) : List Token → Document
  | [] => ⟨expected.unwind, true⟩
  | token :: rest =>
    match expected.step token with
    | some expected => read expected rest
    | none => ⟨expected.unwind, false⟩

/-- Reads a text. -/
def ofText (text : String) : Document :=
  read (.value .root) (Token.ofText text)

end Document

end Blocklist.Json
