/-! # Numerals

How a number is written in JSON: a whole part without needless zeros, then maybe a fraction and an
exponent, both with at least one digit. `Numeral.scan` finds the numeral at the start of a text.
-/

namespace Blocklist.Json

/-- The parts of a written number. Digits are characters from `0` to `9`. -/
structure Numeral where
  negative : Bool
  whole : List Char
  fraction : Option (List Char)
  /-- The digits of the exponent, and whether a minus stands before them. -/
  exponent : Option (Bool × List Char)
  deriving Repr, DecidableEq

namespace Numeral

/-- A whole part has a digit, and begins with zero only if that is all of it. -/
def isWhole : List Char → Bool
  | [] => false
  | ['0'] => true
  | '0' :: _ => false
  | _ => true

/-- Digits after a point. The result counts the characters read, with the point. -/
def scanFraction (text : List Char) : Option (Option (List Char) × Nat) :=
  match text with
  | '.' :: rest =>
    let digits := rest.takeWhile Char.isDigit
    if digits = [] then none else some (some digits, digits.length + 1)
  | _ => some (none, 0)

/-- Digits after `e` or `E` and a sign. The result counts the characters read. -/
def scanExponent (text : List Char) : Option (Option (Bool × List Char) × Nat) :=
  match text with
  | c :: rest =>
    if c = 'e' ∨ c = 'E' then
      let (minus, signs, rest) :=
        match rest with
        | '+' :: rest => (false, 1, rest)
        | '-' :: rest => (true, 1, rest)
        | rest => (false, 0, rest)
      let digits := rest.takeWhile Char.isDigit
      if digits = [] then none else some (some (minus, digits), digits.length + signs + 1)
    else some (none, 0)
  | [] => some (none, 0)

/-- The numeral at the start of a text, and how many characters it has. -/
def scan (text : List Char) : Option (Numeral × Nat) := do
  let (negative, signs, text) :=
    match text with
    | '-' :: rest => (true, 1, rest)
    | text => (false, 0, text)
  let whole := text.takeWhile Char.isDigit
  if !isWhole whole then failure
  let text := text.drop whole.length
  let (fraction, fractionLength) ← scanFraction text
  let (exponent, exponentLength) ← scanExponent (text.drop fractionLength)
  return (⟨negative, whole, fraction, exponent⟩,
    signs + whole.length + fractionLength + exponentLength)

/-- The number that digits write down. -/
def ofDigits (digits : List Char) : Nat :=
  digits.foldl (fun n c => 10 * n + (c.toNat - '0'.toNat)) 0

end Numeral

end Blocklist.Json
