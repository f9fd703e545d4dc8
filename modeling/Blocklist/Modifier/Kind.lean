/-! # Kinds of modifiers

A modifier changes what a matched rule does beyond blocking and allowing. There are four kinds, each
known by the name that it has in a filter rule.
-/

namespace Blocklist

/-- The four kinds of modifiers. -/
inductive ModifierKind where
  /-- Adds a content security policy to the response. -/
  | csp
  /-- Takes parameters out of the query. -/
  | removeParam
  /-- Takes a header out of the request or the response. -/
  | removeHeader
  /-- Serves a bundled resource in place of the request. -/
  | redirect
  deriving Repr, DecidableEq

namespace ModifierKind

/-- Name of the kind in a filter rule. -/
def name : ModifierKind → String
  | csp => "csp"
  | removeParam => "removeparam"
  | removeHeader => "removeheader"
  | redirect => "redirect"

/-- The kind that a name in a filter rule stands for. -/
def ofName? : String → Option ModifierKind
  | "csp" => some csp
  | "removeparam" => some removeParam
  | "removeheader" => some removeHeader
  | "redirect" => some redirect
  | _ => none

theorem ofName?_name (k : ModifierKind) : ofName? k.name = some k := by
  cases k <;> rfl

theorem name_eq_of_ofName? {s : String} {k : ModifierKind} (h : ofName? s = some k) :
    k.name = s := by
  unfold ofName? at h
  split at h <;> cases h <;> rfl

end ModifierKind

end Blocklist
