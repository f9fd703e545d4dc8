import Blocklist.Regex.Cursor
import Blocklist.Regex.Folding
import Blocklist.Regex.Piece
import Blocklist.Regex.Property

/-! # Atoms of a pattern

The smallest parts of a pattern: characters, escaped or not, classes with a name, and tests of the
place.
-/

namespace Blocklist.Regex

open Reading
open Text (Spans)

/-- Classes that a single letter names. -/
inductive LetterClass where
  | digit
  | space
  | word
  deriving Repr, DecidableEq

/-- Places that an escape tests for. -/
inductive Place where
  | textStart
  | textEnd
  | word (side : WordSide)
  deriving Repr, DecidableEq

/-- An atom of a pattern. -/
inductive Atom where
  /-- A character. It may be written as the number of a byte. -/
  | literal (c : Char) (asByte : Bool)
  | letter (kind : LetterClass) (negated : Bool)
  | property (set : Spans) (negated : Bool)
  | place (place : Place)
  deriving Repr, DecidableEq

/-- The character with this number. -/
def charOf? (n : Nat) : Option Char :=
  if n.isValidChar then some (Char.ofNat n) else none

/-- Reads as many hexadecimal digits as told, with blanks between them skipped. -/
def hexDigits : (count : Nat) → Reading (List Char)
  | 0 => return []
  | count + 1 => do
    let c ← peek
    if (Text.hexDigit? c).isNone then failure
    advance
    return c :: (← hexDigits count)

/-- Reads the number of a character after the letter that announces it. -/
def hexChar (length : Nat) : Reading Atom := do
  advance
  if (← peek) = '{' then
    advance
    let digits ← takeWhile (· ≠ '}')
    if digits.isEmpty || (← peek) ≠ '}' then failure
    advance
    return .literal (← (Text.hexNumber? digits).bind charOf?) false
  else
    let digits ← hexDigits length
    return .literal (← (Text.hexNumber? digits).bind charOf?) (length = 2)

/-- Reads the name of a property after the letter that announces it. -/
def property (negated : Bool) : Reading Atom := do
  advance
  let c ← peek
  if c = '{' then
    advance
    let query ← takeWhile (· ≠ '}')
    expect '}'
    let (set, others) ← Property.find? query
    return .property set (negated != others)
  else if c = '\\' then failure
  else
    advance
    return .property (← Property.byName? [c]) negated

/-- The character belongs to the name of a word boundary. -/
def isBoundaryChar (c : Char) : Bool :=
  c.isAlpha || c = '-'

/-- Names of special word boundaries. -/
def boundaryNames : List (String × WordSide) :=
  [("start", .start), ("end", .finish), ("start-half", .startHalf), ("end-half", .finishHalf)]

/-- Reads the name of a special word boundary, if one follows. Braces that begin otherwise are left
for a repetition. -/
def boundary : Reading WordSide := do
  if (← peek?) = some '{' then
    let before ← get
    advance
    if isBoundaryChar (← peek) then
      let name ← takeWhile isBoundaryChar
      expect '}'
      boundaryNames.lookup (String.ofList name)
    else
      set before
      return .either
  else return .either

/-- The character may be escaped and then stands for itself. -/
def isEscapable (c : Char) : Bool :=
  c.toNat < 128 && !c.isAlphanum && c ≠ '<' && c ≠ '>'

/-- Reads an escape, of which the backslash comes next. -/
def escape : Reading Atom := do
  move 1
  let c ← peek
  match c with
  | 'x' => hexChar 2
  | 'u' => hexChar 4
  | 'U' => hexChar 8
  | 'p' => property false
  | 'P' => property true
  | _ =>
    move 1
    match c with
    | 'd' => return .letter .digit false
    | 'D' => return .letter .digit true
    | 's' => return .letter .space false
    | 'S' => return .letter .space true
    | 'w' => return .letter .word false
    | 'W' => return .letter .word true
    | 'a' => return .literal '\x07' false
    | 'f' => return .literal '\x0c' false
    | 't' => return .literal '\t' false
    | 'n' => return .literal '\n' false
    | 'r' => return .literal '\r' false
    | 'v' => return .literal '\x0b' false
    | 'A' => return .place .textStart
    | 'z' => return .place .textEnd
    | 'b' => return .place (.word (← boundary))
    | 'B' => return .place (.word .neither)
    | '<' => return .place (.word .start)
    | '>' => return .place (.word .finish)
    | _ => if isEscapable c then return .literal c false else failure

/-! ## What an atom matches -/

/-- Letters, marks, digits and joining signs of all scripts. -/
def wordCharacters : Spans :=
  (CharSet.any [BinaryProperty.alphabetic, Category.mark, Category.decimalNumber,
    Category.connectorPunctuation, BinaryProperty.joinControl]).spans

/-- Digits of all scripts. -/
def digitCharacters : Spans :=
  Category.decimalNumber.spans

/-- The characters of a class among those of all scripts, or among ASCII characters only. -/
def LetterClass.set (kind : LetterClass) (unicode : Bool) : Spans :=
  match kind, unicode with
  | digit, true => digitCharacters
  | digit, false => [(0x30, 0x39)]
  | space, true => Text.blanks
  | space, false => [(0x09, 0x0d), (0x20, 0x20)]
  | word, true => wordCharacters
  | word, false => [(0x30, 0x39), (0x41, 0x5a), (0x5f, 0x5f), (0x61, 0x7a)]

namespace Modes

/-- A set with all characters that differ from its own in case only, if that does not matter. -/
def fold (modes : Modes) (set : Spans) : Spans :=
  if modes.ignoreCase then if modes.unicode then folded set else foldedAscii set else set

/-- What the test of a place means. -/
def look (modes : Modes) : Place → Look
  | .textStart => .textStart
  | .textEnd => .textEnd
  | .word side => .word side modes.unicode

/-- What `^` means. -/
def startMark (modes : Modes) : Look :=
  if modes.multiline then .lineStart modes.carriage else .textStart

/-- What `$` means. -/
def endMark (modes : Modes) : Look :=
  if modes.multiline then .lineEnd modes.carriage else .textEnd

/-- What the dot does not match. -/
def lineEnds (modes : Modes) : Spans :=
  if modes.dotAll then [] else if modes.carriage then [(0x0a, 0x0a), (0x0d, 0x0d)]
  else [(0x0a, 0x0a)]

end Modes

namespace Atom

/-- The atom can match a byte that is no character. -/
def isBytewise (modes : Modes) : Atom → Bool
  | literal c asByte => !modes.unicode && asByte && c.toNat ≥ 128
  | letter _ negated => !modes.unicode && negated
  | property .. => !modes.unicode
  | place _ => false

/-- The characters of a set, or all others. -/
def orOthers (negated : Bool) (set : Spans) : Spans :=
  if negated then set.complement else set

/-- The atom as a set of characters. Tests of the place are no sets, and those of bytes hold ASCII
characters only. -/
def set? (modes : Modes) (atom : Atom) : Option Spans :=
  if atom.isBytewise modes then none
  else match atom with
    | literal c _ =>
      if c.toNat < 128 || modes.unicode then some [(c.toNat, c.toNat)] else none
    | letter kind negated => some (orOthers negated (kind.set modes.unicode))
    | property set negated => some (orOthers negated (modes.fold set))
    | place _ => none

/-- The atom as a part of a pattern, unless it can match a byte that is no character. -/
def piece? (modes : Modes) (atom : Atom) : Option Piece :=
  match atom with
  | literal c _ =>
    if atom.isBytewise modes then none else some (.ofSet 0 (modes.fold [(c.toNat, c.toNat)]))
  | place test => some { expression := .look (modes.look test) }
  | _ => (atom.set? modes).map (.ofSet 0)

end Atom

end Blocklist.Regex
