import Blocklist.Json.Numeral

/-! # Values of numerals

A numeral without fraction and exponent that fits into 64 bits is an integer. Every other numeral is
a floating point number, made from the leading digits that fit into 64 bits and a power of ten.
-/

namespace Blocklist.Json

/-- Value of a numeral. -/
inductive Number where
  | natural (n : Nat)
  /-- The opposite of a positive number. -/
  | negative (n : Nat)
  | float (f : Float)

/-- Leading digits of a number as an integer, with the power of ten that they stand for. -/
structure Scaled where
  digits : Nat
  exponent : Int
  deriving Repr, DecidableEq

namespace Scaled

/-- The largest integer of 64 bits. -/
def maxDigits : Nat := UInt64.size - 1

/-- The digits of a whole part. Those that do not fit any more count as zeros. -/
def ofWhole (digits : Nat) : List Char → Scaled
  | [] => ⟨digits, 0⟩
  | c :: rest =>
    let more := 10 * digits + (c.toNat - '0'.toNat)
    if more ≤ maxDigits then ofWhole more rest else ⟨digits, (rest.length : Int) + 1⟩

/-- The number with the digits of a fraction. Those that do not fit any more are left out. -/
def addFraction (scaled : Scaled) : List Char → Scaled
  | [] => scaled
  | c :: rest =>
    let more := 10 * scaled.digits + (c.toNat - '0'.toNat)
    if more ≤ maxDigits then addFraction ⟨more, scaled.exponent - 1⟩ rest else scaled

/-- The double nearest to ten to the power `exponent`, which is at most 308. -/
def tenTo (exponent : Nat) : Float :=
  Float.ofScientific 1 false exponent

/-- Divides by ten to the power 308 until the exponent is within reach. -/
def settle (f : Float) (exponent : Int) : (fuel : Nat) → Float
  | 0 => 0
  | fuel + 1 =>
    if exponent ≥ -308 then f / tenTo exponent.natAbs
    else if f == 0 then f
    else settle (f / tenTo 308) (exponent + 308) fuel

/-- The number as a double, or `none` if it is too large. It takes at most three divisions to make
any double zero. -/
def toFloat? (scaled : Scaled) : Option Float :=
  let f := (UInt64.ofNat scaled.digits).toFloat
  if scaled.exponent < 0 then some (settle f scaled.exponent 8)
  else if scaled.exponent ≤ 308 then
    let product := f * tenTo scaled.exponent.toNat
    if product.isInf then none else some product
  else if f == 0 then some f
  else none

end Scaled

/-- Largest exponent that can be written, which is that of 32 bits with a sign. -/
def maxExponent : Nat := 2147483647

/-- Value of the numeral, or `none` if it is out of range. -/
def Numeral.value? (n : Numeral) : Option Number :=
  let whole := Numeral.ofDigits n.whole
  match n.fraction, n.exponent with
  | none, none =>
    if !n.negative ∧ whole < UInt64.size then some (.natural whole)
    else if n.negative ∧ 0 < whole ∧ 2 * whole ≤ UInt64.size then some (.negative whole)
    else finish (Scaled.ofWhole 0 n.whole)
  | fraction, none => finish ((Scaled.ofWhole 0 n.whole).addFraction (fraction.getD []))
  | fraction, some (minus, digits) =>
    let scaled := (Scaled.ofWhole 0 n.whole).addFraction (fraction.getD [])
    let exponent := Numeral.ofDigits digits
    if maxExponent < exponent then
      if scaled.digits ≠ 0 ∧ !minus then none else finish ⟨0, 0⟩
    else if minus then finish { scaled with exponent := scaled.exponent - exponent }
    else finish { scaled with exponent := scaled.exponent + exponent }
where
  /-- The double with the sign of the numeral. -/
  finish (scaled : Scaled) : Option Number :=
    scaled.toFloat?.map fun f => .float (if n.negative then -f else f)

end Blocklist.Json
