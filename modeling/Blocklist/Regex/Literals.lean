import Blocklist.Regex.Expression
import Blocklist.Regex.Utf8

/-! # Expressions that stand for a few texts

Some expressions match just a few short texts, or one of very many. These are looked up as they are,
and no automaton is built. `areFew` and `areMany` tell which expressions these are.
-/

namespace Blocklist.Regex.Literals

open Text (Spans)

/-- The beginning of a match, which is the whole match if it is `exact`. -/
structure Start where
  bytes : List UInt8
  exact : Bool
  deriving Repr, DecidableEq

/-- Beginnings of which each match has one, the preferred ones first, or `none` if there are too
many of them. -/
abbrev Starts := Option (List Start)

/-- Largest number of characters of a set whose beginnings are listed. -/
def setLimit : Nat := 10

/-- Largest number of copies of a repeated part that are looked at. -/
def copyLimit : Nat := 10

/-- Largest size of a beginning. -/
def sizeLimit : Nat := 100

/-- Largest number of beginnings. -/
def countLimit : Nat := 250

/-- A beginning that may go on. -/
def Start.open_ (start : Start) : Start :=
  { start with exact := false }

/-- The first bytes of a beginning. -/
def Start.cut (size : Nat) (start : Start) : Start :=
  if start.bytes.length ≤ size then start else ⟨start.bytes.take size, false⟩

/-- Joins beginnings that are next to each other and have the same bytes. -/
def distinct : List Start → List Start
  | [] => []
  | start :: rest =>
    match distinct rest with
    | next :: more =>
      if start.bytes = next.bytes then ⟨start.bytes, start.exact && next.exact⟩ :: more
      else start :: next :: more
    | [] => [start]

namespace Starts

/-- The beginning of an empty text. -/
def nothing : Starts := some [⟨[], true⟩]

/-- No beginning is a whole match. -/
def areOpen (starts : Starts) : Bool :=
  starts.all fun list => list.all fun start => !start.exact

/-- The beginnings of which some may go on. -/
def opened (starts : Starts) : Starts :=
  starts.map fun list => list.map Start.open_

/-- Beginnings of one of two parts. If there are too many of them, short ones are tried. -/
def or (a b : Starts) : Starts := do
  let a ← a
  let b ← b
  if a.length + b.length ≤ countLimit then return distinct (a ++ b)
  else
    let a := distinct (a.map (Start.cut 4))
    let b := distinct (b.map (Start.cut 4))
    if a.length + b.length ≤ countLimit then return distinct (a ++ b) else none

/-- Beginnings of a part followed by another. -/
def andThen (a b : Starts) : Starts := do
  let a ← a
  let few := b.filter fun list => a.length * list.length ≤ countLimit
  match few with
  | none =>
    if a.any fun start => start.bytes.isEmpty then none else return a.map Start.open_
  | some b =>
    let longer (start : Start) : List Start :=
      if start.exact then b.map fun next => ⟨start.bytes ++ next.bytes, next.exact⟩ else [start]
    return (distinct (a.flatMap longer)).map (Start.cut sizeLimit)

/-- Beginnings of a part followed by copies of another, as far as they can grow. -/
def andCopies (a part : Starts) : (count : Nat) → Starts
  | 0 => a
  | count + 1 => if a.areOpen then a else andCopies (a.andThen part) part count

end Starts

/-- The characters of a set, if they are few. -/
def characters? (set : Spans) : Option (List Char) :=
  let count := set.foldl (fun n span => n + (span.2 + 1 - span.1)) 0
  if count ≤ setLimit then
    some (set.flatMap fun span =>
      (List.range (span.2 + 1 - span.1)).map fun i => Char.ofNat (span.1 + i))
  else none

mutual

/-- The beginnings of the matches of an expression. -/
def starts : Expression → Starts
  | .empty | .look _ => Starts.nothing
  | .literal text => some [Start.cut sizeLimit ⟨bytesOf text, true⟩]
  | .oneOf set => (characters? set).map fun chars => chars.map fun c => ⟨bytesOf [c], true⟩
  | .group body => starts body
  | .repeated low high greedy body =>
    let part := starts body
    if low = 0 then
      let part := if high = some 1 then part else part.opened
      if greedy then part.or Starts.nothing else Starts.nothing.or part
    else
      let all := Starts.nothing.andCopies part (min low copyLimit)
      if high = some low && low ≤ copyLimit then all else all.opened
  | .sequence parts => startsInOrder Starts.nothing parts
  | .choice parts => startsOfAny (some []) parts

/-- The beginnings of parts after others, as far as they can grow. -/
def startsInOrder (before : Starts) : List Expression → Starts
  | [] => before
  | part :: rest =>
    if before.areOpen then before else startsInOrder (before.andThen (starts part)) rest

/-- The beginnings of alternatives after others. -/
def startsOfAny (before : Starts) : List Expression → Starts
  | [] => before
  | part :: rest =>
    if before.isNone then before else startsOfAny (before.or (starts part)) rest

end

mutual

/-- The expression has neither groups nor tests of the place. -/
def isPlain : Expression → Bool
  | .look _ | .group _ => false
  | .repeated _ _ _ body => isPlain body
  | .sequence parts | .choice parts => arePlain parts
  | _ => true

def arePlain : List Expression → Bool
  | [] => true
  | part :: rest => isPlain part && arePlain rest

end

/-- Beginnings without those that begin with an earlier one, which is always found before them. -/
def reachable (list : List Start) : List Start :=
  list.foldl (fun kept start =>
    if kept.any (·.bytes.isPrefixOf start.bytes) then kept else kept ++ [start]) []

/-- The common beginning of two texts. -/
def commonBytes : List UInt8 → List UInt8 → List UInt8
  | a :: as, b :: bs => if a = b then a :: commonBytes as bs else []
  | _, _ => []

/-- The ASCII characters that are frequent in texts, together with those that are not ASCII. -/
def isFrequent (byte : UInt8) : Bool :=
  byte ≥ 0x80 || "\n\r (),-./0129:_abcdefghilmnoprstuvxy|".toList.contains (Char.ofNat byte.toNat)

/-- Texts that begin alike are looked up by their common beginning, if that is long or starts with a
rare byte. How a match goes on has to be found out after that. -/
def beginAlike (count : Nat) : List (List UInt8) → Bool
  | [] => false
  | first :: rest =>
    let common := rest.foldl commonBytes first
    let longest := (first :: rest).foldl (fun n text => max n text.length) 0
    let isRare := common.head?.any fun byte => !isFrequent byte
    if count > 1 && isRare && common.length ≤ 3 then longest > 1
    else (common.length > 4 || (common.length > 1 && rest.length ≥ 16)) && longest > common.length

/-- Sizes that many beginnings are cut to, each with the largest number of them that stay as they
are. -/
def cuts : List (Nat × Nat) := [(5, 10), (4, 10), (3, 64), (2, 64), (1, 10)]

/-- Many beginnings made shorter, so that there are fewer of them. -/
def shortened (list : List Start) : List (Nat × Nat) → List Start
  | [] => list
  | (size, enough) :: rest =>
    if list.length ≤ enough then list else shortened (reachable (list.map (Start.cut size))) rest

/-- Many texts are looked up by shortened ones, if these are few and not too short. How a match goes
on has to be found out after that. -/
def isShortened (list : List Start) : Bool :=
  let short := shortened list cuts
  short.any (!·.exact) && short.all (·.bytes.length > 2) && short.length ≤ 64

/-- The expression matches just a few texts, which can be told apart at once, and none of them is
empty. -/
def areFew (e : Expression) : Bool :=
  isPlain e &&
    match starts e with
    | none | some [] => false
    | some list =>
      let kept := reachable list
      list.all (fun start => start.exact && !start.bytes.isEmpty) &&
        !beginAlike list.length (kept.map Start.bytes) && !isShortened kept

/-- The expression is a text. -/
def isText : Expression → Bool
  | .literal _ => true
  | _ => false

/-- Number of alternative texts from which on they are looked up as they are. -/
def manyTexts : Nat := 3000

/-- The expression is a choice between very many texts. -/
def areMany : Expression → Bool
  | .choice parts => manyTexts ≤ parts.length && parts.all isText
  | _ => false

end Blocklist.Regex.Literals
