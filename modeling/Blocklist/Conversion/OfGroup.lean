import Blocklist.Conversion.Csp
import Blocklist.Conversion.Regular
import Blocklist.Conversion.RemoveHeader
import Blocklist.Conversion.RemoveParam
import Blocklist.Group

/-! # Conversion of a group

The rules of one group become declarative rules whose ids follow each other from a given id on. The
id after the last one has to be an id too, and the rules must not be badfilter rules.
-/

namespace Blocklist

/-- Why a group cannot be converted at all. -/
inductive Failure where
  /-- There are more declarative rules than ids left. -/
  | idsExhausted
  /-- Badfilter rules were not resolved before. -/
  | unresolvedBadfilters
  deriving Repr, DecidableEq

/-- Wording of the failure. -/
def Failure.message : Failure → String
  | idsExhausted => "attempt to add with overflow"
  | unresolvedBadfilters => "badfilter rules must be resolved before conversion"

/-- Outcomes of the rules of a group. `resources` is the path of the bundled resources. -/
def Group.outcomes (resources : Option String) (group : Group) (rules : List SourceRule) :
    List Outcome :=
  match group with
  | regular => Regular.outcomes resources rules
  | csp => Csp.outcomes rules
  | removeParam => RemoveParam.outcomes rules
  | removeHeader => RemoveHeader.outcomes rules
  | badFilter => []

/-- Gives ids to the drafts from `start` on. The result comes with the first id that is left. -/
def numberFrom (start : UInt32) (outcomes : List (UInt32 × Outcome)) :
    Except Failure (Converted × UInt32) :=
  let next := start.toNat + draftCount (outcomes.map Prod.snd)
  if next < UInt32.size then .ok (.number start.toNat outcomes, UInt32.ofNat next)
  else .error .idsExhausted

/-- Converts the rules of one group of a filter. -/
def convertGroup (resources : Option String) (group : Group) (filterId start : UInt32)
    (rules : List SourceRule) : Except Failure (Converted × UInt32) :=
  if group = .badFilter ∧ rules ≠ [] then .error .unresolvedBadfilters
  else numberFrom start ((group.outcomes resources rules).map fun outcome => (filterId, outcome))

end Blocklist
