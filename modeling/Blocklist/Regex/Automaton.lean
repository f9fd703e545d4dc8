import Blocklist.Regex.Automaton.Backward
import Blocklist.Regex.Automaton.Forward
import Blocklist.Regex.Automaton.Trie
import Blocklist.Regex.Expression

/-! # Automata of regular expressions

A text is searched forward for the end of a match, and backward from there for its begin. `fits`
tells whether the automata for both directions are small enough.
-/

namespace Blocklist.Regex.Automaton

open Text (Spans)

/-- The direction in which an automaton reads. -/
inductive Direction where
  | forward
  | backward
  deriving Repr, DecidableEq

/-- The part for an expression ends with a fork, to which the edge to the next part is added. -/
def endsInFork (direction : Direction) : Expression → Bool
  | .repeated 0 none _ body => body.shortest?.any (· > 0)
  | .repeated _ none _ _ => true
  | .repeated low (some high) _ body => low = high && endsInFork direction body
  | .group body => direction = .backward && endsInFork direction body
  | .sequence parts =>
    match direction with
    | .forward => lastEndsInFork parts
    | .backward => firstEndsInFork parts
  | _ => false
where
  lastEndsInFork : List Expression → Bool
    | [] => false
    | [part] => endsInFork direction part
    | _ :: rest => lastEndsInFork rest
  firstEndsInFork : List Expression → Bool
    | [] => false
    | part :: _ => endsInFork direction part

/-- Adds the edge from a part to what comes after it. -/
def leave (direction : Direction) (e : Expression) : Building Unit :=
  if endsInFork direction e then grow 0 forkSize else return ()

/-- Builds the part for one byte or character of a set. -/
def buildSet (direction : Direction) (set : Spans) : Building Unit :=
  if set.isAscii then do
    let _ ← addState 0
    let _ ← addState (edgeSize * set.length)
  else
    match direction with
    | .forward => Forward.build set
    | .backward => Backward.build set

/-- Builds a chain of states, each of which has one edge at most. -/
def buildChain (length : Nat) : Building Unit :=
  grow length (stateSize * length)

/-- Adds a fork with some edges. -/
def buildFork (edges : Nat) : Building Unit :=
  grow 1 (stateSize + forkSize * edges)

/-- Builds copies of a part, one after the other. `link` adds the edge from one to the next. -/
def buildCopies (part link : Building Unit) : (count : Nat) → Building Unit
  | 0 => buildChain 1
  | count + 1 => do
    part
    copies (do part; link) count

/-- Builds a repeated part. -/
def buildRepeated (low : Nat) (high : Option Nat) (mayBeEmpty : Bool) (part link : Building Unit) :
    Building Unit :=
  match low, high with
  | 0, some 1 => do
    buildFork 2
    part
    buildChain 1
    link
  | 0, none =>
    if mayBeEmpty then do
      part
      link
      -- One fork repeats the part, the other passes it by.
      buildFork 2
      buildFork 2
      buildChain 1
    else do
      buildFork 1
      part
      link
  | low, none => do
    buildCopies part link low
    link
    buildFork 1
  | low, some high => do
    buildCopies part link low
    if low < high then
      if low > 0 then link
      buildChain 1
      -- Each further copy may be passed by.
      copies (do buildFork 2; part; link) (high - low)

/-- The text of an expression that is one. -/
def text? : Expression → Option (List Char)
  | .literal text => some text
  | _ => none

mutual

/-- Builds the part for an expression. -/
def build (direction : Direction) : Expression → Building Unit
  | .empty => buildChain 1
  | .literal text => buildChain (bytesOf text).length
  | .oneOf set => buildSet direction set
  | .look _ => buildChain 1
  | .repeated low high _ body =>
    buildRepeated low high (body.shortest?.all (· = 0)) (build direction body)
      (leave direction body)
  | .group body =>
    match direction with
    | .forward => do
      buildChain 1
      build direction body
      buildChain 1
      leave direction body
    | .backward => build direction body
  | .sequence parts => buildInOrder direction parts
  | .choice parts =>
    match parts.mapM text? with
    | some texts => do
      buildChain 1
      let bytes := texts.map fun text =>
        match direction with
        | .forward => bytesOf text
        | .backward => (bytesOf text).reverse
      (Trie.ofTexts bytes).build
    | none => buildChoice direction 0 parts

/-- Builds parts that follow each other, in the order in which they are read. -/
def buildInOrder (direction : Direction) : List Expression → Building Unit
  | [] => return ()
  | [part] => build direction part
  | part :: rest =>
    match direction with
    | .forward => do
      build direction part
      leave direction part
      buildInOrder direction rest
    | .backward => do
      buildInOrder direction rest
      build direction part
      match rest with
      | next :: _ => leave direction next
      | [] => return ()

/-- Builds alternatives, of which `done` have been built before. The fork to them and the state
after them come after the second one. -/
def buildChoice (direction : Direction) (done : Nat) : List Expression → Building Unit
  | [] => return ()
  | part :: rest => do
    build direction part
    leave direction part
    if done = 1 then
      buildFork 2
      buildChain 1
    if done > 1 then grow 0 forkSize
    buildChoice direction (done + 1) rest

end

/-- Builds the whole automaton. Unless matches are bound to where the reading begins, it first skips
any bytes. -/
def buildWhole (direction : Direction) (e : Expression) : Building Unit := do
  let anchored :=
    match direction with
    | .forward => e.isAnchoredAtStart
    | .backward => e.isAnchoredAtEnd
  if anchored then buildChain 1
  else
    buildFork 2
    buildSet direction [(0, 0x7f)]
  match direction with
  | .forward => build direction (.group e)
  | .backward => do
    build direction e
    leave direction e
  buildChain 1

/-- The automata for both directions are small enough. -/
def fits (e : Expression) : Bool :=
  ((buildWhole .forward e).run {}).isSome && ((buildWhole .backward e).run {}).isSome

end Blocklist.Regex.Automaton
