/-!
# Hexadecimal digits

The value of a digit and of a run of digits in base 16. Letters may be of either case.
-/

namespace ArithTokens.Hexadecimal

/-- The value of a digit. -/
def value? (c : Char) : Option Nat :=
  if c.isDigit then some (c.toNat - '0'.toNat)
  else if 'a' ≤ c ∧ c ≤ 'f' then some (c.toNat - 'a'.toNat + 10)
  else if 'A' ≤ c ∧ c ≤ 'F' then some (c.toNat - 'A'.toNat + 10)
  else none

/-- The number that a run of digits stands for. -/
def number? (digits : List Char) : Option Nat :=
  digits.foldlM (fun number c => (value? c).map (16 * number + ·)) 0

/-- The character whose number a run of digits stands for. -/
def char? (digits : List Char) : Option Char := do
  let number ← number? digits
  if number.isValidChar then some (Char.ofNat number) else none

end ArithTokens.Hexadecimal
