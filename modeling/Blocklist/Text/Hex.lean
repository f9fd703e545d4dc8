/-! # Hexadecimal numbers

Code points stand in texts as hexadecimal numbers.
-/

namespace Blocklist.Text

/-- Hexadecimal digits of a number, without leading zeros, in small letters. -/
def hex (n : Nat) : String :=
  String.ofList (Nat.toDigits 16 n)

/-- Value of a hexadecimal digit. -/
def hexDigit? (c : Char) : Option Nat :=
  if '0' ≤ c ∧ c ≤ '9' then some (c.toNat - '0'.toNat)
  else if 'a' ≤ c ∧ c ≤ 'f' then some (c.toNat - 'a'.toNat + 10)
  else if 'A' ≤ c ∧ c ≤ 'F' then some (c.toNat - 'A'.toNat + 10)
  else none

/-- Value of hexadecimal digits. -/
def hexNumber? (digits : List Char) : Option Nat :=
  digits.foldlM (fun n c => (hexDigit? c).map (16 * n + ·)) 0

end Blocklist.Text
