import Std.Data.HashMap
import Blocklist.Regex.Automaton.Building
import Blocklist.Regex.Utf8

/-! # Sets of characters, read forward

The sequences of bytes of a set come in ascending order. States that are finished and have the same
edges are shared, as far as a table of limited size remembers them.
-/

namespace Blocklist.Regex.Automaton.Forward

open Text (Spans)

/-- An edge to a state that is finished. -/
structure Edge where
  bytes : ByteSpan
  target : Nat
  deriving Repr, DecidableEq

/-- A state on the way to the last sequence, whose last edge leads to the next such state. -/
structure OpenState where
  /-- The other edges, in reverse. -/
  edges : List Edge
  last : ByteSpan

/-- Finished states with their edges, by their place in the table. -/
abbrev Table := Std.HashMap Nat (List Edge × Nat)

/-- Number of states that are remembered. -/
def places : Nat := 10000

/-- Builds states that may be shared. -/
abbrev Sharing (α : Type) := StateT Table (StateT Extent Option) α

/-- The number of the state with these edges. -/
def stateOf (edges : List Edge) : Sharing Nat := do
  let place := placeOf places (edges.flatMap fun e => [e.bytes.first, e.bytes.last, e.target])
  let build : Sharing Nat := do
    let number ← addState (edgeSize * edges.length)
    modify fun table => table.insert place (edges, number)
    return number
  match (← get)[place]? with
  | some (known, number) => if known = edges then return number else build
  | none => build

/-- The edges of an open state, the last of which leads to a finished state. -/
def OpenState.closed (state : OpenState) (target : Nat) : List Edge :=
  ⟨state.last, target⟩ :: state.edges

/-- Finishes the open states, the deepest one first. `goal` is the state behind the last one. -/
def finish (goal : Nat) : List OpenState → Sharing Nat
  | [] => return goal
  | state :: deeper => do
    let target ← finish goal deeper
    stateOf (state.closed target).reverse

/-- Adds a sequence, and finishes the open states that it has no use for. -/
def addSequence (goal : Nat) : List OpenState → List ByteSpan → Sharing (List OpenState)
  | state :: deeper, bytes :: rest => do
    if state.last = bytes then return state :: (← addSequence goal deeper rest)
    else
      let target ← finish goal deeper
      return ⟨state.closed target, bytes⟩ :: rest.map fun bytes => ⟨[], bytes⟩
  | _, sequence => return sequence.map fun bytes => ⟨[], bytes⟩

/-- Adds the sequences of a set. -/
def addAll (goal : Nat) (open_ : List OpenState) : List (List ByteSpan) → Sharing Unit
  | [] => do
    let _ ← finish goal open_
  | sequence :: rest => do
    addAll goal (← addSequence goal open_ sequence) rest

/-- Builds the part for a set of characters. -/
def build (set : Spans) : Building Unit := do
  let goal ← addState 0
  let _ ← (addAll goal [] (set.flatMap byteSequences)).run {}

end Blocklist.Regex.Automaton.Forward
