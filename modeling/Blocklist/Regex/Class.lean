import Blocklist.Regex.Atom

/-! # Bracketed classes

A class is a set of characters between brackets: characters, ranges, named classes, classes inside
it, and operations on what stands left and right of them.
-/

namespace Blocklist.Regex

open Reading
open Text (Spans)

/-- Operations on what stands left and right of them in a class. -/
inductive ClassOperation where
  | intersection
  | difference
  | symmetricDifference
  deriving Repr, DecidableEq

/-- The set that an operation makes of its two sides. -/
def ClassOperation.apply : ClassOperation → (left right : Spans) → Spans
  | intersection => Spans.inter
  | difference => Spans.diff
  | symmetricDifference => Spans.symmDiff

/-- What stands left of an operation. -/
structure LeftSide where
  set : Spans
  depth : Nat
  operation : ClassOperation

/-- A class that is being read. -/
structure OpenClass where
  negated : Bool
  /-- Number of items since the last operation. -/
  count : Nat := 0
  /-- Greatest depth of these items. -/
  depth : Nat := 0
  /-- The characters of these items. -/
  set : Spans := []
  left : Option LeftSide := none

namespace OpenClass

/-- The class with one more item. -/
def add (c : OpenClass) (depth : Nat) (set : Spans) : OpenClass :=
  { c with count := c.count + 1, depth := max c.depth depth, set := c.set.union set }

/-- The class with one more character. -/
def addChar (c : OpenClass) (char : Char) : OpenClass :=
  c.add 0 [(char.toNat, char.toNat)]

/-- Depth of what has been read. Several items lie in a list, and an operation around its sides. -/
def closedDepth (c : OpenClass) : Nat :=
  let items := if c.count ≥ 2 then c.depth + 1 else c.depth
  match c.left with
  | none => items
  | some left => max left.depth items + 1

/-- The characters of what has been read. -/
def closedSet (c : OpenClass) (modes : Modes) : Spans :=
  match c.left with
  | none => c.set
  | some left => left.operation.apply (modes.fold left.set) (modes.fold c.set)

/-- The class after an operation, which takes all that has been read as its left side. -/
def operate (c : OpenClass) (modes : Modes) (operation : ClassOperation) : OpenClass where
  negated := c.negated
  left := some ⟨c.closedSet modes, c.closedDepth, operation⟩

/-- The characters of the whole class. -/
def wholeSet (c : OpenClass) (modes : Modes) : Spans :=
  Atom.orOthers c.negated (modes.fold (c.closedSet modes))

end OpenClass

/-- Classes of ASCII characters by their names. -/
def asciiClasses : List (String × Spans) :=
  [("alnum", [(0x30, 0x39), (0x41, 0x5a), (0x61, 0x7a)]),
   ("alpha", [(0x41, 0x5a), (0x61, 0x7a)]),
   ("ascii", [(0x00, 0x7f)]),
   ("blank", [(0x09, 0x09), (0x20, 0x20)]),
   ("cntrl", [(0x00, 0x1f), (0x7f, 0x7f)]),
   ("digit", [(0x30, 0x39)]),
   ("graph", [(0x21, 0x7e)]),
   ("lower", [(0x61, 0x7a)]),
   ("print", [(0x20, 0x7e)]),
   ("punct", [(0x21, 0x2f), (0x3a, 0x40), (0x5b, 0x60), (0x7b, 0x7e)]),
   ("space", [(0x09, 0x0d), (0x20, 0x20)]),
   ("upper", [(0x41, 0x5a)]),
   ("word", [(0x30, 0x39), (0x41, 0x5a), (0x5f, 0x5f), (0x61, 0x7a)]),
   ("xdigit", [(0x30, 0x39), (0x41, 0x46), (0x61, 0x66)])]

/-- A named class of ASCII characters inside a class. -/
structure AsciiClass where
  negated : Bool
  set : Spans
  /-- Number of characters of the pattern that name it. -/
  length : Nat

/-- A class of ASCII characters such as `[:alpha:]`, if one begins here. -/
def asciiClass? (text : List Char) : Option AsciiClass := do
  let inside ← Text.after? ['[', ':'] text
  let (negated, inside) :=
    match inside with
    | '^' :: rest => (true, rest)
    | rest => (false, rest)
  let name := inside.takeWhile (· ≠ ':')
  let _ ← Text.after? [':', ']'] (inside.drop name.length)
  let set ← asciiClasses.lookup (String.ofList name)
  return ⟨negated, set, name.length + if negated then 5 else 4⟩

/-- Takes hyphens at the start of a class, which stand for themselves. -/
def leadingHyphens (c : OpenClass) : (fuel : Nat) → Reading OpenClass
  | 0 => return c
  | fuel + 1 => do
    if (← peek) = '-' then
      advance
      leadingHyphens (c.addChar '-') fuel
    else return c

/-- Reads the start of a class, of which the bracket comes next. A closing bracket right after it
stands for itself. -/
def openClass : Reading OpenClass := do
  advance
  let negated := (← peek) = '^'
  if negated then advance
  let c ← leadingHyphens { negated } (← get).rest.length
  if c.count = 0 ∧ (← peek) = ']' then
    advance
    let _ ← peek
    return c.addChar ']'
  else return c

/-- Reads a character or an escape inside a class. -/
def classAtom : Reading Atom := do
  let c ← peek
  if c = '\\' then escape
  else
    move 1
    return .literal c false

/-- The characters of a range, of which both ends have been read. -/
def rangeSet? (modes : Modes) : (first last : Atom) → Option Spans
  | .literal a asByteA, .literal b asByteB => do
    let _ ← Atom.set? modes (.literal a asByteA)
    let _ ← Atom.set? modes (.literal b asByteB)
    if a ≤ b then some (Spans.between a.toNat b.toNat) else none
  | _, _ => none

/-- Reads a character, a range or an escape inside a class. -/
def classItem : Reading Spans := do
  let first ← classAtom
  skip
  let modes := (← get).modes
  let second ← peekSecond?
  if (← peek) ≠ '-' ∨ second = some ']' ∨ second = some '-' then first.set? modes
  else
    advance
    let last ← classAtom
    rangeSet? modes first last

/-- A negated class of bytes holds bytes that are no characters. -/
def refuseNegatedBytes (negated : Bool) : Reading Unit := do
  if negated && !(← get).modes.unicode then failure

/-- The operation of which the mark is written twice. -/
def classOperation? : Char → Option ClassOperation
  | '&' => some .intersection
  | '-' => some .difference
  | '~' => some .symmetricDifference
  | _ => none

/-- The operation that comes next, if there is one. -/
def nextOperation? : (text : List Char) → Option ClassOperation
  | a :: b :: _ => if a = b then classOperation? a else none
  | _ => none

/-- Reads a class up to its end. The classes that it lies in come after it. -/
def classBody (c : OpenClass) (outer : List OpenClass) : (fuel : Nat) → Reading Piece
  | 0 => failure
  | fuel + 1 => do
    skip
    let cursor ← get
    match cursor.rest with
    | [] => failure
    | '[' :: _ =>
      match asciiClass? cursor.rest with
      | some ascii => do
        refuseNegatedBytes ascii.negated
        move ascii.length
        classBody (c.add 0 (Atom.orOthers ascii.negated (cursor.modes.fold ascii.set))) outer fuel
      | none => do
        let inner ← openClass
        classBody inner (c :: outer) fuel
    | ']' :: _ => do
      refuseNegatedBytes c.negated
      move 1
      let set := c.wholeSet cursor.modes
      let depth := c.closedDepth + 1
      match outer with
      | [] => return .ofSet depth set
      | parent :: outer => classBody (parent.add depth set) outer fuel
    | text =>
      match nextOperation? text with
      | some operation => do
        move 2
        classBody (c.operate cursor.modes operation) outer fuel
      | none => do
        let set ← classItem
        classBody (c.add 0 set) outer fuel

/-- Reads a bracketed class. -/
def bracketedClass : Reading Piece := do
  let length := (← get).rest.length
  classBody (← openClass) [] (length + 1)

end Blocklist.Regex
