import Blocklist.Json.Reader

/-! # Layouts of records

A record stands in JSON as an object with its fields by name, in any order and with unknown members
among them, or as an array of all its fields in order. A layout lists the fields of a record, and
`Layout.reader` reads both forms of it.
-/

namespace Blocklist.Json

/-- What happens to a record in which a field does not occur. -/
inductive Presence (α : Type) where
  /-- The field has to be there. -/
  | required
  /-- An object need not have the field. An array does. -/
  | optional (absent : α)
  /-- Neither an object nor an array needs the field. -/
  | defaulted (absent : α)

/-- A field of a record. -/
structure Field (α : Type) where
  name : String
  read : Reader α
  presence : Presence α := .required

/-- A field that may be left out or be null. -/
def Field.maybe {α : Type} (name : String) (read : Reader α) : Field (Option α) where
  name
  read := Reader.option read
  presence := .optional none

/-- The fields of a record, in order. The record is a tuple of their values. While it is being read,
`σ` holds the values that have occurred so far. -/
inductive Layout : (record σ : Type) → Type 1 where
  | done : Layout Unit Unit
  | field {α β σ : Type} (first : Field α) (rest : Layout β σ) : Layout (α × β) (Option α × σ)

namespace Layout

/-- Number of fields. -/
def size {γ σ : Type} : Layout γ σ → Nat
  | done => 0
  | field _ rest => rest.size + 1

/-- No field has occurred. -/
def blank {γ σ : Type} : Layout γ σ → σ
  | done => ()
  | field _ rest => (none, rest.blank)

/-- Reads a member into its slot. The result is `none` if no field has its name. A field that occurs
again is refused before its value is read. -/
def put {γ σ : Type} (name : String) (value : Fragment) :
    Layout γ σ → σ → Except ReadError (Option σ)
  | done, _ => .ok none
  | field first rest, (slot, slots) =>
    if name = first.name then
      match slot with
      | some _ => .error (.duplicateField name)
      | none => (first.read value).map fun v => some (some v, slots)
    else (rest.put name value slots).map fun found => found.map fun slots => (slot, slots)

/-- Reads the members of an object. Values of unknown members only have to be JSON. -/
def readMembers {γ σ : Type} (layout : Layout γ σ) (slots : σ) :
    List (Option String × Fragment) → Except ReadError σ
  | [] => .ok slots
  | (none, _) :: _ => .error .malformed
  | (some name, value) :: rest => do
    match ← layout.put name value slots with
    | some slots => layout.readMembers slots rest
    | none => if value.isWhole then layout.readMembers slots rest else throw .malformed

/-- The record, once all members have been read. The first field that is missing is reported. -/
def finish {γ σ : Type} : Layout γ σ → σ → Except ReadError γ
  | done, _ => .ok ()
  | field first rest, (slot, slots) => do
    let value ←
      match slot, first.presence with
      | some value, _ => pure value
      | none, .optional absent => pure absent
      | none, .defaulted absent => pure absent
      | none, .required => throw (.missingField first.name)
    return (value, ← rest.finish slots)

/-- Reads the fields from an array, of which `count` items have been read before. -/
def readItems {γ σ : Type} (expected : String) (count : Nat) (closed : Bool) :
    Layout γ σ → List Fragment → Except ReadError γ
  | done, items => if items.isEmpty && closed then .ok () else .error .malformed
  | field first rest, item :: items => do
    let value ← first.read item
    return (value, ← rest.readItems expected (count + 1) closed items)
  | field first rest, [] =>
    if closed then
      match first.presence with
      | .defaulted absent => do return (absent, ← rest.readItems expected count closed [])
      | _ => .error (.invalidLength count expected)
    else .error .malformed

/-- Wording for the length of the array that the record can be. -/
def lengthText {γ σ : Type} (layout : Layout γ σ) (name : String) : String :=
  "struct " ++ name ++ " with " ++ toString layout.size ++
    (if layout.size = 1 then " element" else " elements")

/-- Reads a record. Messages call it by its name. -/
def reader {γ σ : Type} (name : String) (layout : Layout γ σ) : Reader γ
  | .array items closed => layout.readItems (layout.lengthText name) 0 closed items
  | .object members closed => do
    let slots ← layout.readMembers layout.blank members
    if closed then layout.finish slots else throw .malformed
  | fragment => fragment.refuse ("struct " ++ name)

end Layout

/-- Reads a text that is one JSON value. -/
def readText {α : Type} (read : Reader α) (text : String) : Except ReadError α := do
  let document := Document.ofText text
  let value ← read document.root
  if document.ended then return value else throw .malformed

end Blocklist.Json
