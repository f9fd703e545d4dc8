import Blocklist.Regex.Property.Age
import Blocklist.Regex.Property.Break
import Blocklist.Regex.Property.ScriptExtension

/-! # Names of character properties

A pattern may ask for the characters that have a property of the Unicode standard, by the name of
the property or by the names of the property and of one of its values. Names are compared loosely:
case, spaces, hyphens, underscores and a leading `is` do not matter, so the tables hold small
letters without any of these. `find?` gives the characters that a pattern asks for.
-/

namespace Blocklist.Regex.Property

open Text (Spans)

/-- Small letter of an ASCII capital, and nothing for characters that names are compared without. -/
def significant? (c : Char) : Option Char :=
  if c = ' ' ∨ c = '-' ∨ c = '_' ∨ c.toNat ≥ 128 then none else some c.toLower

/-- The form in which names are compared. -/
def loose (name : List Char) : String :=
  match name with
  | i :: s :: rest =>
    if (i = 'i' ∨ i = 'I') ∧ (s = 's' ∨ s = 'S') then
      let rest := String.ofList (rest.filterMap significant?)
      -- `isc` is the short name of a property, and not the category `c`.
      if rest = "c" then "isc" else rest
    else String.ofList (name.filterMap significant?)
  | _ => String.ofList (name.filterMap significant?)

/-- The characters for a name by itself: a property that a character has or has not, a category or a
script. -/
def byName? (name : List Char) : Option Spans :=
  let name := loose name
  BinaryProperty.named.find? name <|> Category.named.find? name <|> Script.named.find? name

/-- The characters for which a property has a value. -/
def byValue? (property value : List Char) : Option Spans :=
  let value := loose value
  match loose property with
  | "gc" | "generalcategory" => Category.named.find? value
  | "sc" | "script" => Script.named.find? value
  | "scx" | "scriptextensions" => ScriptExtension.find? value
  | "age" => Age.find? value
  | "gcb" | "graphemeclusterbreak" => Break.grapheme.find? value
  | "wb" | "wordbreak" => Break.word.find? value
  | "sb" | "sentencebreak" => Break.sentence.find? value
  | _ => none

/-- A text with one of two marks in it, cut at the first place where the mark stands. -/
def cutAtPair (first second : Char) : List Char → Option (List Char × List Char)
  | [] => none
  | [_] => none
  | c :: d :: rest =>
    if c = first ∧ d = second then some ([], rest)
    else (cutAtPair first second (d :: rest)).map fun cut => (c :: cut.1, cut.2)

/-- The characters for what stands between the braces of a property, and whether all others are
asked for. The mark between the name of a property and its value is `!=`, `:` or `=`, in this order
of precedence, and only the first of these asks for the others. -/
def find? (query : List Char) : Option (Spans × Bool) :=
  match cutAtPair '!' '=' query with
  | some (property, value) => (byValue? property value).map fun set => (set, true)
  | none =>
    match Text.cutAt ':' query with
    | some (property, value) => (byValue? property value).map fun set => (set, false)
    | none =>
      match Text.cutAt '=' query with
      | some (property, value) => (byValue? property value).map fun set => (set, false)
      | none => (byName? query).map fun set => (set, false)

end Blocklist.Regex.Property
