import Blocklist.Regex.Automaton.Building

/-! # Alternatives that are texts

A choice between texts is built as a tree of their bytes. Where a text ends inside another one, the
edges that were there before it come first, and those that are added later come after it.
-/

namespace Blocklist.Regex.Automaton

/-- A tree of texts. Each edge has the number of texts that had ended at the state before it was
added, and only edges with the current number may be taken by another text. -/
inductive Trie where
  | state (ended : Nat) (edges : List (Nat × UInt8 × Trie))

namespace Trie

/-- The tree without any text. -/
def empty : Trie := state 0 []

/-- The tree behind an edge with this number and byte. -/
def behind? (ended : Nat) (byte : UInt8) (edges : List (Nat × UInt8 × Trie)) : Option Trie :=
  (edges.find? fun edge => edge.1 == ended && edge.2.1 == byte).map fun edge => edge.2.2

/-- Makes an edge lead to another tree. -/
def redirect (ended : Nat) (byte : UInt8) (tree : Trie) (edges : List (Nat × UInt8 × Trie)) :
    List (Nat × UInt8 × Trie) :=
  edges.map fun edge =>
    if edge.1 == ended && edge.2.1 == byte then (ended, byte, tree) else edge

/-- Adds a text. -/
def add : List UInt8 → Trie → Trie
  | [], state ended edges =>
    if ended > 0 && edges.isEmpty then state ended edges else state (ended + 1) edges
  | byte :: rest, state ended edges =>
    match behind? ended byte edges with
    | some tree => state ended (redirect ended byte (add rest tree) edges)
    | none => state ended ((ended, byte, add rest empty) :: edges)

/-- The tree of some texts. -/
def ofTexts (texts : List (List UInt8)) : Trie :=
  texts.foldl (fun tree text => add text tree) empty

/-- Builds the states for the edges of a state. Edges with the same number share a state. -/
def growEdges (ended : Nat) (edges : List (Nat × UInt8 × Trie)) : Building Unit := do
  let counts := (List.range (ended + 1)).map fun n => (edges.filter (·.1 == n)).length
  let groups := counts.filter (· > 0)
  let shared := (groups.filter (· > 1)).foldl (· + ·) 0
  grow (groups.length + 1)
    (stateSize * (groups.length + 1) + forkSize * (groups.length + ended) + edgeSize * shared)

mutual

/-- Builds the states of a tree. A state without edges is that at the end of all texts. -/
def build : Trie → Building Unit
  | state ended edges => do
    unless edges.isEmpty do growEdges ended edges
    buildAll edges

def buildAll : List (Nat × UInt8 × Trie) → Building Unit
  | [] => return ()
  | (_, _, tree) :: rest => do
    build tree
    buildAll rest

end

end Trie

end Blocklist.Regex.Automaton
