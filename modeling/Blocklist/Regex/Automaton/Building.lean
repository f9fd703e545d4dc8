/-! # The size of an automaton

A regular expression can be used only if its automata are not too large. All that counts is their
size, so an automaton is built by counting its states. A step that makes it too large fails.
-/

namespace Blocklist.Regex.Automaton

/-- Largest size of an automaton in bytes: ten mebibytes. -/
def sizeLimit : Nat := 10 * 1024 * 1024

/-- Size of a state by itself. -/
def stateSize : Nat := 32

/-- Size of an edge that is taken without reading a byte, from a state that has several of them. -/
def forkSize : Nat := 4

/-- Size of an edge for a span of bytes, from a state that has several of them. -/
def edgeSize : Nat := 8

/-- An automaton as far as it has been built. -/
structure Extent where
  states : Nat := 0
  /-- Size in bytes. -/
  size : Nat := 0
  deriving Repr, DecidableEq

/-- A part of an automaton being built. -/
abbrev Building (α : Type) := StateT Extent Option α

/-- Makes the automaton larger. -/
def grow (states size : Nat) : Building Unit := fun extent =>
  let extent : Extent := ⟨extent.states + states, extent.size + size⟩
  if extent.size ≤ sizeLimit then some ((), extent) else none

/-- Adds a state, whose edges have a size of their own, and gives its number. -/
def addState (edges : Nat) : Building Nat := do
  let number := (← get).states
  grow 1 (stateSize + edges)
  return number

/-- Builds a part several times. -/
def copies (part : Building Unit) : (count : Nat) → Building Unit
  | 0 => return ()
  | count + 1 => do
    part
    copies part count

/-- The start of a hash in the scheme of Fowler, Noll and Vo. -/
def hashStart : UInt64 := 14695981039346656037

/-- The factor of this scheme. -/
def hashFactor : UInt64 := 1099511628211

/-- Adds a number to a hash. -/
def mixed (hash : UInt64) (n : Nat) : UInt64 :=
  (hash ^^^ n.toUInt64) * hashFactor

/-- The place of some numbers in a table with `places` of them. -/
def placeOf (places : Nat) (numbers : List Nat) : Nat :=
  (numbers.foldl mixed hashStart).toNat % places

end Blocklist.Regex.Automaton
