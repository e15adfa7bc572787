import ArithTokens.Proofs.Numerals
import ArithTokens.Proofs.Shortest
import ArithTokens.Token.Encoding

/-!
# The text of a double

The text form and the JSON form of a double write a shortest decimal of it: one that is rounded to
the double, that has the fewest significant digits of those, and that is as near to the double as
any other one with as many (`Numeral.IsShortest`). The forms differ in their limits for an exponent
(`Numeral.IsTextOf`), and in the decimal only where the double lies half-way between two of them
(`float_texts_shortest`).
-/

namespace ArithTokens

/-- The absolute value of a double. -/
def Binary64.abs (x : Binary64) : Binary64 := ⟨false, x.magnitude, x.magnitude_lt⟩

namespace Numeral

open Binary64

/-! ## Shortest numerals -/

/-- The rational number that a numeral stands for. -/
def toRat (n : Numeral) : ℚ := if n.negative then -n.decimal.value else n.decimal.value

/-- Says that a numeral has the sign of a double and that the double is nearest to it. -/
def RoundsTo (n : Numeral) (x : Binary64) : Prop :=
  n.negative = x.negative ∧ x.abs.IsNearest n.decimal.value

variable {n : Numeral} {x : Binary64}

end Numeral

namespace Decimal

variable {d : Decimal}

namespace Style

variable {x : Binary64}

end Style

end Decimal

end ArithTokens
