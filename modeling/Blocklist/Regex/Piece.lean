import Blocklist.Regex.Automaton
import Blocklist.Regex.Literals

/-! # Pieces of a pattern

While a pattern is read, its parts are known by what they match and by how deeply they are nested. A
pattern is accepted only if it is neither too deep nor too large.
-/

namespace Blocklist.Regex

open Text (Spans)

/-- A part of a pattern. -/
structure Piece where
  /-- How many groups, lists, repetitions and classes lie inside each other. -/
  depth : Nat := 0
  /-- The part may have a repetition after it. -/
  repeatable : Bool := true
  expression : Expression

namespace Piece

/-- A part without any text, or a change of the modes. -/
def empty : Piece := { repeatable := false, expression := .empty }

/-- One character of a set. -/
def ofSet (depth : Nat) (set : Spans) : Piece := { depth, expression := .ofSet set }

/-- A group around a part. A capturing one remembers its text. -/
def group (capturing : Bool) (body : Piece) : Piece where
  depth := body.depth + 1
  expression := if capturing then .group body.expression else body.expression

/-- The greatest depth of some parts. -/
def maxDepth (parts : List Piece) : Nat :=
  (parts.map Piece.depth).foldl max 0

/-- Parts one after the other. One part alone is not counted as a list. -/
def sequence : List Piece → Piece
  | [] => empty
  | [part] => part
  | parts =>
    { depth := maxDepth parts + 1
      expression := .inOrder (parts.map Piece.expression) }

/-- Alternatives. One alone is not counted as a list. -/
def choice : List Piece → Piece
  | [] => empty
  | [part] => part
  | parts =>
    { depth := maxDepth parts + 1
      expression := .alternatives (parts.map Piece.expression) }

/-- A part from `low` to `high` times, or without a bound. -/
def repeated (low : Nat) (high : Option Nat) (greedy : Bool) (part : Piece) : Piece where
  depth := part.depth + 1
  expression := .times low high greedy part.expression

end Piece

/-- Largest depth of a pattern. -/
def depthLimit : Nat := 250

/-- The expression can be looked for without an automaton, or with automata that are small
enough. -/
def isUsable (e : Expression) : Bool :=
  Literals.areFew e || Literals.areMany e || Automaton.fits e

/-- The pattern is neither too deep nor too large. -/
def Piece.fits (piece : Piece) : Bool :=
  piece.depth ≤ depthLimit && isUsable piece.expression

end Blocklist.Regex
