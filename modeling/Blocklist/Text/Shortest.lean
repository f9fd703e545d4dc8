/-! # Shortest decimal text of a floating point number

A double stands for every real number that rounds to it. Its text has the fewest digits with which
one of these numbers can be written, and of several such numbers the nearest. `shortest` finds the
digits in exact arithmetic; `decimalText` sets the point.
-/

namespace Blocklist.Text

/-- A positive double as a product: `significand` times two to the power `exponent`. -/
structure BinaryFloat where
  significand : Nat
  exponent : Int
  /-- The next smaller double is only half as far away as the next larger one. -/
  narrowBelow : Bool
  deriving Repr, DecidableEq

/-- The least significand of a double whose leading bit is not stored: two to the power 52. -/
def leadingBit : Nat := 0x10000000000000

/-- The bit of a double that holds its sign. -/
def signBit : Nat := 0x8000000000000000

/-- Reads the bits of a double that is finite and not zero. The sign is left out. -/
def BinaryFloat.ofBits (bits : Nat) : BinaryFloat :=
  let mantissa : Nat := bits % leadingBit
  let exponent : Nat := bits / leadingBit % 2048
  if exponent = 0 then ⟨mantissa, -1074, false⟩
  else ⟨leadingBit + mantissa, Int.ofNat exponent - 1075, mantissa == 0 && exponent > 1⟩

/-- A decimal number: `digits` times ten to the power `exponent`. -/
structure Decimal where
  digits : Nat
  exponent : Int
  deriving Repr, DecidableEq

/-- The number nearest to `float` among the multiples of ten to the power `exponent` that round to
`float`, if there is one. Of two that are equally near, the even one is taken. -/
def BinaryFloat.nearestMultiple? (float : BinaryFloat) (exponent : Int) : Option Decimal :=
  -- Everything is scaled to integers: a quarter of the last bit, over the power of ten.
  let up := Nat.pow 2 (float.exponent - 2).toNat * Nat.pow 10 (-exponent).toNat
  let unit := Nat.pow 2 (2 - float.exponent).toNat * Nat.pow 10 exponent.toNat
  let value := 4 * float.significand * up
  let low := (4 * float.significand - if float.narrowBelow then 1 else 2) * up
  let high := (4 * float.significand + 2) * up
  let inside (n : Nat) : Bool :=
    if float.significand % 2 = 0 then low ≤ n * unit && n * unit ≤ high
    else low < n * unit && n * unit < high
  let below := value / unit
  let above := below + 1
  let toBelow := value - below * unit
  let toAbove := above * unit - value
  if inside below && inside above then
    if toBelow < toAbove ∨ (toBelow = toAbove ∧ below % 2 = 0) then some ⟨below, exponent⟩
    else some ⟨above, exponent⟩
  else if inside below then some ⟨below, exponent⟩
  else if inside above then some ⟨above, exponent⟩
  else none

/-- The first multiple that is found when the exponent falls from `exponent` on, `fuel` times. -/
def BinaryFloat.search (float : BinaryFloat) (exponent : Int) : (fuel : Nat) → Decimal
  | 0 => ⟨0, 0⟩
  | fuel + 1 =>
    match float.nearestMultiple? exponent with
    | some decimal => decimal
    | none => float.search (exponent - 1) fuel

/-- The decimal number with the fewest digits that rounds to the double. The largest double is below
ten to the power 309, and ten to the power -324 is fine enough for the smallest one. -/
def BinaryFloat.shortest (float : BinaryFloat) : Decimal :=
  float.search 309 640

/-- Text of a positive decimal number without trailing zeros in its digits. The point stands among
the digits or a few zeros when the number has at most 16 digits before it, or at most four zeros
after it. Otherwise the exponent is written, with its sign. -/
def decimalText (decimal : Decimal) : String :=
  let digits := Nat.toDigits 10 decimal.digits
  let size : Int := digits.length + decimal.exponent
  if 0 ≤ decimal.exponent ∧ size ≤ 16 then
    String.ofList (digits ++ List.replicate decimal.exponent.toNat '0' ++ ['.', '0'])
  else if 0 < size ∧ size ≤ 16 then
    String.ofList (digits.take size.toNat ++ '.' :: digits.drop size.toNat)
  else if -5 < size ∧ size ≤ 0 then
    String.ofList (['0', '.'] ++ List.replicate (-size).toNat '0' ++ digits)
  else
    let point := if digits.length = 1 then [] else '.' :: digits.drop 1
    let sign := if size < 0 then '-' else '+'
    String.ofList (digits.take 1 ++ point ++ ['e', sign] ++ Nat.toDigits 10 (size - 1).natAbs)

/-- Text of a finite double. -/
def floatText (float : Float) : String :=
  let bits := float.toBits.toNat
  let sign := if bits / signBit = 1 then "-" else ""
  let magnitude := bits % signBit
  if magnitude = 0 then sign ++ "0.0"
  else sign ++ decimalText (BinaryFloat.ofBits magnitude).shortest

end Blocklist.Text
