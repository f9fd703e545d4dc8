import Blocklist.Json.Numeral
import Blocklist.Regex.Class
import Blocklist.Text.Letters

/-! # Regular expressions

Patterns of rules may be regular expressions, which are taken over as they stand. `accepts` decides
whether a text is one: it has to be well formed, must not be able to match text that is broken
inside a character, and must be neither too deep nor too large.
-/

namespace Blocklist.Regex

open Reading

/-- A list of alternatives that is being read. -/
structure OpenList where
  /-- Alternatives that are finished, in reverse. -/
  branches : List Piece := []
  /-- Parts of the last alternative, in reverse. -/
  parts : List Piece := []

/-- A group that is being read: the list that it lies in, and the modes that hold after it. -/
structure OpenGroup where
  outer : OpenList
  modes : Modes
  capturing : Bool

namespace OpenList

/-- The list with one more part. -/
def add (list : OpenList) (part : Piece) : OpenList :=
  { list with parts := part :: list.parts }

/-- The list with a new alternative. -/
def branch (list : OpenList) : OpenList where
  branches := .sequence list.parts.reverse :: list.branches

/-- The whole list as one part. -/
def close (list : OpenList) : Piece :=
  .choice list.branch.branches.reverse

/-- Repeats the last part, if there is one that can be repeated. -/
def repeatLast? (list : OpenList) (low : Nat) (high : Option Nat) (greedy : Bool) :
    Option OpenList :=
  match list.parts with
  | part :: rest =>
    if part.repeatable then some { list with parts := .repeated low high greedy part :: rest }
    else none
  | [] => none

end OpenList

/-! ## Repetitions -/

/-- Reads a number of 32 bits, with blanks around it. -/
def decimal : Reading Nat := do
  skipAnyBlanks
  let digits ← takeWhile Char.isDigit
  skipAnyBlanks
  skip
  skipAnyBlanks
  let n := Json.Numeral.ofDigits digits
  if digits.isEmpty || n ≥ UInt32.size then failure else return n

/-- Reads the bounds of a repetition between braces, of which the first comes next. -/
def bounds : Reading (Nat × Option Nat) := do
  advance
  let low ← decimal
  if (← peek) = ',' then
    advance
    if (← peek) = '}' then
      advance
      return (low, none)
    else
      let high ← decimal
      if (← peek) ≠ '}' ∨ high < low then failure
      advance
      return (low, some high)
  else
    if (← peek) ≠ '}' then failure
    advance
    return (low, some low)

/-- Moves over the mark that turns the preference of a repetition around, and finds out whether it
prefers to be long. -/
def greediness : Reading Bool := do
  let modes := (← get).modes
  if (← peek?) = some '?' then
    move 1
    return modes.lazyFirst
  else return !modes.lazyFirst

/-! ## Groups -/

/-- A character of the name of a group. -/
def isNameChar (first : Bool) (c : Char) : Bool :=
  c = '_' ||
  if first then Text.isLetter c
  else c = '.' || c = '[' || c = ']' || Text.isLetterOrDigit c

/-- Reads the name of a group up to its end. No two groups have the same name. -/
def groupName : Reading Unit := do
  let name := (← get).rest.takeWhile (· ≠ '>')
  match name with
  | [] => failure
  | first :: more =>
    if !isNameChar true first || !more.all (isNameChar false) then failure
    move name.length
    expect '>'
    if (← get).names.contains name then failure
    modify fun cursor => { cursor with names := name :: cursor.names }

/-- The modes with one of them switched, if the letter stands for one. -/
def Modes.switch? (modes : Modes) (letter : Char) (on : Bool) : Option Modes :=
  match letter with
  | 'i' => some { modes with ignoreCase := on }
  | 'm' => some { modes with multiline := on }
  | 's' => some { modes with dotAll := on }
  | 'U' => some { modes with lazyFirst := on }
  | 'u' => some { modes with unicode := on }
  | 'R' => some { modes with carriage := on }
  | 'x' => some { modes with spaced := on }
  | _ => none

/-- The modes that the letters switch. Those after a hyphen are switched off. No letter may occur
twice, and one has to come after the hyphen. -/
def Modes.read? (modes : Modes) (on : Bool) (seen : List Char) : List Char → Option Modes
  | [] => some modes
  | ['-'] => none
  | letter :: rest =>
    if seen.contains letter then none
    else if letter = '-' then modes.read? false (letter :: seen) rest
    else
      match modes.switch? letter on with
      | some modes => modes.read? on (letter :: seen) rest
      | none => none

/-- What a parenthesis begins. -/
inductive Opening where
  | group (capturing : Bool) (inner : Modes)
  | modes (modes : Modes)

/-- The parenthesis begins a test of what comes before or after. -/
def isLookaround (text : List Char) : Bool :=
  ["?=", "?!", "?<=", "?<!"].any fun start => start.toList.isPrefixOf text

/-- Reads the letters of modes after `?`, up to the colon or the parenthesis that ends them. -/
def openingModes (modes : Modes) : Reading Opening := do
  let letters := (← get).rest.takeWhile fun c => c ≠ ':' && c ≠ ')'
  let inner ← modes.read? true [] letters
  move letters.length
  let stop ← peek
  move 1
  if stop = ':' then return .group false inner
  else if letters.isEmpty then failure
  else return .modes inner

/-- Reads the start of a group, of which the parenthesis comes next. -/
def opening : Reading Opening := do
  advance
  let cursor ← get
  if isLookaround cursor.rest then failure
  match cursor.rest with
  | '?' :: 'P' :: '<' :: _ => do
    move 3
    groupName
    return .group true cursor.modes
  | '?' :: '<' :: _ => do
    move 2
    groupName
    return .group true cursor.modes
  | '?' :: _ => do
    move 1
    openingModes cursor.modes
  | _ => return .group true cursor.modes

/-! ## Patterns -/

/-- Reads a pattern from here to its end. Of the groups that are open, the innermost comes first. -/
def pattern (list : OpenList) (groups : List OpenGroup) : (fuel : Nat) → Reading Piece
  | 0 => failure
  | fuel + 1 => do
    skip
    let cursor ← get
    match cursor.rest with
    | [] => if groups.isEmpty then return list.close else failure
    | '(' :: _ => do
      match ← opening with
      | .group capturing inner => do
        modify fun cursor => { cursor with modes := inner }
        pattern {} (⟨list, cursor.modes, capturing⟩ :: groups) fuel
      | .modes modes => do
        modify fun cursor => { cursor with modes }
        pattern (list.add .empty) groups fuel
    | ')' :: _ =>
      match groups with
      | [] => failure
      | group :: groups => do
        modify fun cursor => { cursor with modes := group.modes }
        move 1
        pattern (group.outer.add (.group group.capturing list.close)) groups fuel
    | '|' :: _ => do
      move 1
      pattern list.branch groups fuel
    | '[' :: _ => do
      let part ← bracketedClass
      pattern (list.add part) groups fuel
    | '{' :: _ => do
      let (low, high) ← bounds
      let list ← list.repeatLast? low high (← greediness)
      pattern list groups fuel
    | '\\' :: _ => do
      let atom ← escape
      pattern (list.add (← atom.piece? cursor.modes)) groups fuel
    | c :: _ => do
      move 1
      match c with
      | '?' => do
        pattern (← list.repeatLast? 0 (some 1) (← greediness)) groups fuel
      | '*' => do
        pattern (← list.repeatLast? 0 none (← greediness)) groups fuel
      | '+' => do
        pattern (← list.repeatLast? 1 none (← greediness)) groups fuel
      | '.' => do
        if !cursor.modes.unicode then failure
        pattern (list.add (.ofSet 0 cursor.modes.lineEnds.complement)) groups fuel
      | '^' => pattern (list.add { expression := .look cursor.modes.startMark }) groups fuel
      | '$' => pattern (list.add { expression := .look cursor.modes.endMark }) groups fuel
      | c => do
        let part ← Atom.piece? cursor.modes (.literal c false)
        pattern (list.add part) groups fuel

/-- The text is a regular expression that can be used. Only the program and runs on given rules look
into this definition: what is proved about all rules holds for any checker in its place. -/
@[irreducible] def accepts (text : List Char) : Bool :=
  match (pattern {} [] (text.length + 1)).run { rest := text } with
  | some (piece, _) => piece.fits
  | none => false

end Blocklist.Regex
