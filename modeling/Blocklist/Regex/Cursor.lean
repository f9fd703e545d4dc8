import Blocklist.Text.Blank

/-! # Places in a pattern

While a pattern is read, a cursor holds what is left of it, the modes that are on, and the names of
the groups so far. A step that fails rejects the pattern.
-/

namespace Blocklist.Regex

/-- Modes that change how a pattern is read. -/
structure Modes where
  /-- Blanks and comments in the pattern are skipped. -/
  spaced : Bool := false
  /-- Classes hold characters, and not bytes. -/
  unicode : Bool := true
  ignoreCase : Bool := false
  /-- Lines have a start and an end of their own. -/
  multiline : Bool := false
  /-- The dot also matches the ends of lines. -/
  dotAll : Bool := false
  /-- A carriage return ends a line too. -/
  carriage : Bool := false
  /-- Repetitions prefer to be short. -/
  lazyFirst : Bool := false
  deriving Repr, DecidableEq

/-- A place in a pattern. -/
structure Cursor where
  rest : List Char
  modes : Modes := {}
  /-- Names of the groups so far. -/
  names : List (List Char) := []

/-- Reads a part of a pattern. -/
abbrev Reading (α : Type) := StateT Cursor Option α

/-- A pattern without the blanks and comments at its start. A comment goes from `#` to the end of
its line. -/
def skipBlanks (inComment : Bool) : List Char → List Char
  | [] => []
  | c :: rest =>
    if inComment then skipBlanks (c ≠ '\n') rest
    else if Text.isBlank c then skipBlanks false rest
    else if c = '#' then skipBlanks true rest
    else c :: rest

/-- The first character after blanks and marks of comments. -/
def firstAfterBlanks (inComment : Bool) : List Char → Option Char
  | [] => none
  | c :: rest =>
    if Text.isBlank c then firstAfterBlanks inComment rest
    else if c = '#' ∧ !inComment then firstAfterBlanks true rest
    else some c

namespace Reading

/-- The next character, if there is one. -/
def peek? : Reading (Option Char) := do
  return (← get).rest.head?

/-- The next character, which has to be there. -/
def peek : Reading Char := do
  match ← peek? with
  | some c => return c
  | none => failure

/-- Moves over some characters. -/
def move (count : Nat) : Reading Unit :=
  modify fun cursor => { cursor with rest := cursor.rest.drop count }

/-- Skips blanks in the mode that allows them. -/
def skip : Reading Unit :=
  modify fun cursor =>
    if cursor.modes.spaced then { cursor with rest := skipBlanks false cursor.rest } else cursor

/-- Moves over a character and the blanks after it. -/
def advance : Reading Unit := do
  move 1
  skip

/-- Moves over a character that has to come next. -/
def expect (c : Char) : Reading Unit := do
  if (← peek) = c then move 1 else failure

/-- Takes characters as long as they are fit, and skips blanks between them. -/
def takeFit (fit : Char → Bool) : (fuel : Nat) → Reading (List Char)
  | 0 => return []
  | fuel + 1 => do
    match ← peek? with
    | some c =>
      if fit c then
        advance
        return c :: (← takeFit fit fuel)
      else return []
    | none => return []

/-- Takes all characters that are fit from here on. -/
def takeWhile (fit : Char → Bool) : Reading (List Char) := do
  takeFit fit (← get).rest.length

/-- Skips blanks in every mode. -/
def skipAnyBlanks : Reading Unit :=
  modify fun cursor => { cursor with rest := cursor.rest.dropWhile Text.isBlank }

/-- The character that comes after the next one, past blanks in the mode that allows them. -/
def peekSecond? : Reading (Option Char) := do
  let cursor ← get
  if cursor.modes.spaced then return firstAfterBlanks false (cursor.rest.drop 1)
  else return (cursor.rest.drop 1).head?

end Reading

end Blocklist.Regex
