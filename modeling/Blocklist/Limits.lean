import Blocklist.Report

/-! # Limits

A browser takes only so many declarative rules, and only so many with a regular expression. Rules
over a limit are cut in the order in which they were made. A cut rule takes its entries in the
source map and its errors with it, and the positions of its source rules are reported.

What belongs to an id is handed out once: if several rules have the same id, the first of them that
is cut or kept takes all of it.
-/

namespace Blocklist

/-- Sizes that the declarative rules must not exceed. A limit of zero is no limit. -/
structure Limits where
  rules : Option Nat := none
  regexpRules : Option Nat := none
  deriving Repr, DecidableEq

namespace Limits

/-- A limit that is set and not zero. -/
def active? (limit : Option Nat) : Option Nat :=
  limit.filter (0 < ·)

/-- Entries and errors that no rule has taken yet. -/
structure Pool where
  sources : List Source
  errors : List ConversionError
  deriving Repr, DecidableEq

namespace Pool

/-- The entries of a rule. -/
def sourcesOf (pool : Pool) (id : UInt32) : List Source :=
  pool.sources.filter (·.declarativeId = id)

/-- The errors of a rule. -/
def errorsOf (pool : Pool) (id : UInt32) : List ConversionError :=
  pool.errors.filter (·.declarativeId? = some id)

/-- What is left when a rule has taken its entries and errors. -/
def without (pool : Pool) (id : UInt32) : Pool where
  sources := pool.sources.filter (·.declarativeId ≠ id)
  errors := pool.errors.filter (·.declarativeId? ≠ some id)

/-- Cuts rules. The result tells the positions of their source rules. -/
def cut (pool : Pool) : List Declarative.Rule → List UInt32 × Pool
  | [] => ([], pool)
  | rule :: rest =>
    let (indices, left) := (pool.without rule.id).cut rest
    ((pool.sourcesOf rule.id).map Source.ruleIndex ++ indices, left)

/-- Entries and errors of rules that are kept, in the order of the rules. -/
def keep (pool : Pool) : List Declarative.Rule → List Source × List ConversionError
  | [] => ([], [])
  | rule :: rest =>
    let (sources, errors) := (pool.without rule.id).keep rest
    (pool.sourcesOf rule.id ++ sources, pool.errorsOf rule.id ++ errors)

end Pool

/-- Rules within and over the limit of all rules. -/
def splitRules (limit : Option Nat) (rules : List Declarative.Rule) :
    List Declarative.Rule × List Declarative.Rule :=
  match limit with
  | none => (rules, [])
  | some n => rules.splitAt n

/-- Rules within and over a limit of rules with a regular expression, when `room` more of them are
allowed. Other rules are always within it. -/
def splitRegexp (room : Nat) :
    List Declarative.Rule → List Declarative.Rule × List Declarative.Rule
  | [] => ([], [])
  | rule :: rest =>
    if rule.isRegex then
      match room with
      | 0 =>
        let (within, beyond) := splitRegexp 0 rest
        (within, rule :: beyond)
      | n + 1 =>
        let (within, beyond) := splitRegexp n rest
        (rule :: within, beyond)
    else
      let (within, beyond) := splitRegexp room rest
      (rule :: within, beyond)

/-- The report on cut rules, unless none was cut. -/
def limitation? (kind : LimitKind) (limit : Option Nat) (cut : List Declarative.Rule)
    (excluded : List UInt32) : Option Limitation :=
  match limit, cut with
  | some limit, _ :: _ => some ⟨kind, excluded, limit, cut.length⟩
  | _, _ => none

/-- Cuts converted rules down to the limits. -/
def enforce (limits : Limits) (converted : Converted) : ConversionResult :=
  let maxRules := active? limits.rules
  let maxRegexp := active? limits.regexpRules
  let tied := converted.errors.filter (·.declarativeId?.isSome)
  let untied := converted.errors.filter (·.declarativeId?.isNone)
  let pool : Pool := ⟨converted.sourceMap, tied⟩
  let (within, beyond) := splitRules maxRules converted.rules
  let (excluded, pool) := pool.cut beyond
  let (kept, beyondRegexp) :=
    match maxRegexp with
    | none => (within, [])
    | some n => splitRegexp n within
  let (excludedRegexp, pool) := pool.cut beyondRegexp
  let (sources, errors) := pool.keep kept
  { rules := kept
    sourceMap := sources
    errors := errors ++ untied
    limitations :=
      (limitation? .rules maxRules beyond excluded).toList ++
      (limitation? .regexpRules maxRegexp beyondRegexp excludedRegexp).toList }

end Limits

end Blocklist
