import Blocklist.Rule

/-! # Groups of rules

The rules of a filter fall into five groups, and each group is converted in its own way. `ofRules`
keeps the order that the rules have inside each group.
-/

namespace Blocklist

/-- Groups of rules, in the order in which they are converted. -/
inductive Group where
  | regular
  | csp
  | removeParam
  | removeHeader
  | badFilter
  deriving Repr, DecidableEq

namespace Group

/-- All groups, in the order in which they are converted. -/
def all : List Group :=
  [regular, csp, removeParam, removeHeader, badFilter]

/-- Name of the group in reports. -/
def name : Group → String
  | regular => "Regular"
  | csp => "Csp"
  | removeParam => "RemoveParam"
  | removeHeader => "RemoveHeader"
  | badFilter => "BadFilter"

/-- The group of a rule. A badfilter rule is in the badfilter group whatever its modifier, and a
redirecting rule is a regular one. -/
def of (rule : Rule) : Group :=
  if rule.isBadfilter then badFilter
  else match rule.modifier.map Modifier.kind with
    | some .csp => csp
    | some .removeParam => removeParam
    | some .removeHeader => removeHeader
    | some .redirect | none => regular

end Group

/-- The rules of one filter by group, each group in the order of the filter. -/
structure GroupedRules where
  regular : List SourceRule := []
  csp : List SourceRule := []
  removeParam : List SourceRule := []
  removeHeader : List SourceRule := []
  badFilter : List SourceRule := []
  deriving Repr, DecidableEq

namespace GroupedRules

/-- The rules of a group. -/
def get (grouped : GroupedRules) : Group → List SourceRule
  | .regular => grouped.regular
  | .csp => grouped.csp
  | .removeParam => grouped.removeParam
  | .removeHeader => grouped.removeHeader
  | .badFilter => grouped.badFilter

/-- Replaces the rules of a group. -/
def set (grouped : GroupedRules) (group : Group) (rules : List SourceRule) : GroupedRules :=
  match group with
  | .regular => { grouped with regular := rules }
  | .csp => { grouped with csp := rules }
  | .removeParam => { grouped with removeParam := rules }
  | .removeHeader => { grouped with removeHeader := rules }
  | .badFilter => { grouped with badFilter := rules }

/-- Changes the rules of every group in the same way. -/
def map (f : List SourceRule → List SourceRule) (grouped : GroupedRules) : GroupedRules where
  regular := f grouped.regular
  csp := f grouped.csp
  removeParam := f grouped.removeParam
  removeHeader := f grouped.removeHeader
  badFilter := f grouped.badFilter

/-- Sorts the rules of a filter into their groups. -/
def ofRules : List SourceRule → GroupedRules
  | [] => {}
  | r :: rest =>
    let grouped := ofRules rest
    grouped.set (Group.of r.rule) (r :: grouped.get (Group.of r.rule))

/-- The rules of a group, and what is left when they are taken out. -/
def take (grouped : GroupedRules) (group : Group) : List SourceRule × GroupedRules :=
  (grouped.get group, grouped.set group [])

/-- The rules of all groups, one group after the other. -/
def toList (grouped : GroupedRules) : List SourceRule :=
  Group.all.flatMap grouped.get

/-- Number of rules in all groups. -/
def size (grouped : GroupedRules) : Nat :=
  grouped.toList.length

/-- No group has a rule. -/
def isEmpty (grouped : GroupedRules) : Bool :=
  grouped.toList.isEmpty

@[simp] theorem get_set (grouped : GroupedRules) (g h : Group) (rules : List SourceRule) :
    (grouped.set g rules).get h = if h = g then rules else grouped.get h := by
  cases g <;> cases h <;> rfl

@[simp] theorem get_map (f : List SourceRule → List SourceRule) (grouped : GroupedRules)
    (g : Group) : (grouped.map f).get g = f (grouped.get g) := by
  cases g <;> rfl

@[ext] theorem ext_get {a b : GroupedRules} (h : ∀ g, a.get g = b.get g) : a = b := by
  have h1 := h .regular
  have h2 := h .csp
  have h3 := h .removeParam
  have h4 := h .removeHeader
  have h5 := h .badFilter
  cases a
  cases b
  simp_all [get]

/-- The rules of a group are those of the filter that belong to it. -/
@[simp] theorem get_ofRules (rules : List SourceRule) (g : Group) :
    (ofRules rules).get g = rules.filter fun r => Group.of r.rule = g := by
  induction rules with
  | nil => cases g <;> rfl
  | cons r rest ih =>
    by_cases h : g = Group.of r.rule
    · subst h
      simp [ofRules, ih]
    · simp [ofRules, ih, h, Ne.symm h]

end GroupedRules

/-- The rules that a filter list holds under one id, in the order of the list. -/
structure Filter where
  id : UInt32
  rules : List SourceRule
  deriving Repr, DecidableEq

/-- A filter whose rules are sorted into groups. -/
structure GroupedFilter where
  id : UInt32
  groups : GroupedRules
  deriving Repr, DecidableEq

/-- Sorts the rules of a filter into groups. -/
def GroupedFilter.ofFilter (filter : Filter) : GroupedFilter :=
  ⟨filter.id, .ofRules filter.rules⟩

end Blocklist
