import Blocklist.Text.Pieces

/-! # Parameter selections

The value of a parameter removal selects parameters of the query: all of them, the one of a name,
all but the one of a name, or those that match a regular expression.
-/

namespace Blocklist

/-- Which parameters of a query are meant. -/
inductive ParamSelection where
  | all
  | name (param : String)
  | inverted (param : String)
  | regex (source : String)
  deriving Repr, DecidableEq

/-- The selection that a trimmed value writes down. -/
def ParamSelection.ofValue (value : String) : ParamSelection :=
  match value.toList with
  | [] => .all
  | '~' :: param => .inverted (String.ofList param)
  | text =>
    match Text.slashed? text with
    | some source => .regex (String.ofList source)
    | none => .name value

end Blocklist
