import ArithTokens.Binary64.Rounding

/-!
# Decimals

A decimal is a coefficient times a power of ten. `toBinary64` rounds it to the nearest double, a
half going to the even significand.
-/

namespace ArithTokens

/-- The decimal `coefficient * 10 ^ exponent`. -/
structure Decimal where
  coefficient : Nat
  exponent : Int
deriving DecidableEq, Repr, Inhabited

namespace Decimal

/-- The coefficient's decimal digits. -/
def digits (d : Decimal) : List Char := Nat.toDigits 10 d.coefficient

/-- The power of ten of the first digit. -/
def leading (d : Decimal) : Int := d.exponent + (d.digits.length - 1 : Nat)

/-- The numerator of the decimal as a ratio. -/
def numerator (d : Decimal) : Nat := d.coefficient * Nat.pow 10 d.exponent.toNat

/-- The denominator of the decimal as a ratio. -/
def denominator (d : Decimal) : Nat := Nat.pow 10 (-d.exponent).toNat

/-- The double nearest to a decimal with the given sign. -/
def toBinary64 (negative : Bool) (d : Decimal) : Binary64 :=
  Binary64.ofRatio negative d.numerator d.denominator

end Decimal

end ArithTokens
