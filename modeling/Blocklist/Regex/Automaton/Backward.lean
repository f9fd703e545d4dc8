import Std.Data.HashMap
import Blocklist.Regex.Automaton.Building
import Blocklist.Regex.Utf8

/-! # Sets of characters, read backward

Each sequence of bytes of a set has a way of its own from the fork where the set begins. Ways that
end alike are shared, as far as a table of limited size remembers them.
-/

namespace Blocklist.Regex.Automaton.Backward

open Text (Spans)

/-- A state that reads one byte and goes on to another state. -/
structure Step where
  target : Nat
  bytes : ByteSpan
  deriving Repr, DecidableEq

/-- States with what they do, by their place in the table. -/
abbrev Table := Std.HashMap Nat (Step × Nat)

/-- Number of states that are remembered. -/
def places : Nat := 1000

/-- Builds states that may be shared. -/
abbrev Sharing (α : Type) := StateT Table (StateT Extent Option) α

/-- The number of the state that does the step. -/
def stateOf (step : Step) : Sharing Nat := do
  let place := placeOf places [step.target, step.bytes.first, step.bytes.last]
  let build : Sharing Nat := do
    let number ← addState 0
    modify fun table => table.insert place (step, number)
    return number
  match (← get)[place]? with
  | some (known, number) => if known = step then return number else build
  | none => build

/-- Adds a sequence before the state `target`. Its first byte is read last. -/
def addSequence (target : Nat) : List ByteSpan → Sharing Unit
  | [] => grow 0 forkSize
  | bytes :: rest => do addSequence (← stateOf ⟨target, bytes⟩) rest

/-- Adds the sequences of a set. -/
def addAll (goal : Nat) : List (List ByteSpan) → Sharing Unit
  | [] => return ()
  | sequence :: rest => do
    addSequence goal sequence
    addAll goal rest

/-- Builds the part for a set of characters. -/
def build (set : Spans) : Building Unit := do
  let _ ← addState 0
  let goal ← addState 0
  let _ ← (addAll goal (set.flatMap byteSequences)).run {}

end Blocklist.Regex.Automaton.Backward
