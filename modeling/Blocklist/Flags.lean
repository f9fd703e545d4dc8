/-! # Flags of a rule

Five options of a filter rule carry no value: they are on or off.
-/

namespace Blocklist

/-- Options without a value. -/
inductive Flag where
  | important
  | matchCase
  | thirdParty
  | firstParty
  | badfilter
  deriving Repr, DecidableEq

namespace Flag

/-- All flags, from the lowest mask bit to the highest. -/
def all : List Flag :=
  [important, matchCase, thirdParty, firstParty, badfilter]

/-- The flag that an option of a filter rule switches on. -/
def ofOptionName? : String → Option Flag
  | "important" => some important
  | "match-case" | "match_case" => some matchCase
  | "third-party" | "3p" => some thirdParty
  | "first-party" | "1p" | "~third-party" => some firstParty
  | "badfilter" => some badfilter
  | _ => none

/-- Value of the flag in a mask. -/
def bits : Flag → Nat
  | important => 1
  | matchCase => 2
  | thirdParty => 4
  | firstParty => 8
  | badfilter => 16

/-- Identifier of the flag's mask bit. -/
def identifier : Flag → String
  | important => "IMPORTANT"
  | matchCase => "MATCH_CASE"
  | thirdParty => "THIRD_PARTY"
  | firstParty => "FIRST_PARTY"
  | badfilter => "BADFILTER"

/-- The flag whose mask bit has this identifier. -/
def ofIdentifier? (name : String) : Option Flag :=
  all.find? (·.identifier = name)

end Flag

/-- The flags of one rule. -/
structure Flags where
  /-- The rule wins over exceptions. -/
  important : Bool := false
  /-- Letters of the pattern match only themselves. -/
  matchCase : Bool := false
  /-- The rule holds for requests to another site. -/
  thirdParty : Bool := false
  /-- The rule holds for requests to the same site. -/
  firstParty : Bool := false
  /-- The rule switches off its twin. -/
  badfilter : Bool := false
  deriving Repr, DecidableEq

namespace Flags

/-- The flags with one more of them on. -/
def insert (flags : Flags) : Flag → Flags
  | .important => { flags with important := true }
  | .matchCase => { flags with matchCase := true }
  | .thirdParty => { flags with thirdParty := true }
  | .firstParty => { flags with firstParty := true }
  | .badfilter => { flags with badfilter := true }

/-- The flag is on. -/
def contains (flags : Flags) : Flag → Bool
  | .important => flags.important
  | .matchCase => flags.matchCase
  | .thirdParty => flags.thirdParty
  | .firstParty => flags.firstParty
  | .badfilter => flags.badfilter

/-- The flags as a mask. -/
def toBits (flags : Flags) : Nat :=
  (Flag.all.filter flags.contains).foldl (fun mask flag => mask + flag.bits) 0

@[simp] theorem contains_insert (flags : Flags) (f g : Flag) :
    (flags.insert f).contains g = (decide (g = f) || flags.contains g) := by
  cases f <;> cases g <;> rfl

@[ext] theorem ext_contains {a b : Flags} (h : ∀ f, a.contains f = b.contains f) : a = b := by
  have h1 := h .important
  have h2 := h .matchCase
  have h3 := h .thirdParty
  have h4 := h .firstParty
  have h5 := h .badfilter
  cases a
  cases b
  simp_all [contains]

end Flags

end Blocklist
