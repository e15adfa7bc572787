import ArithTokens.Binary64

/-!
# Rounding to binary64

Rounding a quotient of naturals to the nearest double, a half going to the even neighbour.
`roundHalfEven` rounds to a natural number. `magnitudeOfUnits` chooses the spacing of the doubles
around the value, rounds the value in that spacing and reads off the magnitude; because magnitudes
follow each other without gaps, a carry into the next power of two, a subnormal result and an
overflow need no case of their own.
-/

namespace ArithTokens.Binary64

/-- The natural number nearest to `numerator / denominator`; a half goes to the even neighbour. -/
def roundHalfEven (numerator denominator : Nat) : Nat :=
  let quotient := numerator / denominator
  let twice := 2 * (numerator % denominator)
  if twice < denominator then quotient
  else if denominator < twice then quotient + 1
  else quotient + quotient % 2

/-- How many times the spacing of the doubles around `units` has been doubled: none while `units`
has at most 53 bits, once for every further bit. -/
def doublings (units : Nat) : Nat := units.log2 + 1 - 53

/-- The magnitude nearest to `numerator / denominator` units. When the spacing has been doubled `d`
times, a significand `n` has magnitude `(d <<< 52) + n`, and whatever passes the largest finite
magnitude is infinite. -/
@[irreducible] def magnitudeOfUnits (numerator denominator : Nat) : Nat :=
  let d := doublings (numerator / denominator)
  let magnitude := (d <<< 52) + roundHalfEven numerator (denominator <<< d)
  if magnitude < infinityMagnitude then magnitude else infinityMagnitude

/-- No rounded magnitude passes that of the infinity. -/
theorem magnitude_of_units_le (numerator denominator : Nat) :
    magnitudeOfUnits numerator denominator ≤ infinityMagnitude := by
  unfold magnitudeOfUnits
  dsimp only
  split
  · next h => exact Nat.le_of_lt h
  · exact Nat.le_refl _

/-- The number one, counted in the smallest positive double. -/
@[irreducible] def unitsInOne : Nat := 1 <<< 1074

/-- The double nearest to `numerator / denominator` with the given sign. -/
def ofRatio (negative : Bool) (numerator denominator : Nat) : Binary64 where
  negative := negative
  magnitude := magnitudeOfUnits (numerator * unitsInOne) denominator
  magnitude_lt := Nat.lt_of_le_of_lt (magnitude_of_units_le _ _) (by decide)

/-- The magnitude of a rounded ratio. -/
theorem of_ratio_magnitude (negative : Bool) (numerator denominator : Nat) :
    (ofRatio negative numerator denominator).magnitude =
      magnitudeOfUnits (numerator * unitsInOne) denominator := rfl

/-- Rounding a ratio never gives a NaN. -/
theorem of_ratio_is_nan (negative : Bool) (numerator denominator : Nat) :
    (ofRatio negative numerator denominator).isNaN = false := by
  rw [isNaN, decide_eq_false_iff_not, of_ratio_magnitude, Nat.not_lt]
  exact magnitude_of_units_le (numerator * unitsInOne) denominator

/-- Rounding keeps the sign it is given, also on zeros and infinities. -/
theorem of_ratio_negative (negative : Bool) (numerator denominator : Nat) :
    (ofRatio negative numerator denominator).negative = negative := rfl

/-- A whole quotient is kept. -/
theorem round_half_even_mul {denominator : Nat} (hpos : 0 < denominator) (n : Nat) :
    roundHalfEven (n * denominator) denominator = n := by
  simp [roundHalfEven, Nat.mul_div_cancel _ hpos, hpos]

/-- Rounding stays within half a denominator of the numerator. -/
theorem round_half_even_near {denominator : Nat} (hpos : 0 < denominator) (numerator : Nat) :
    2 * numerator ≤ 2 * (roundHalfEven numerator denominator * denominator) + denominator ∧
      2 * (roundHalfEven numerator denominator * denominator) ≤ 2 * numerator + denominator := by
  have hsplit := Nat.div_add_mod numerator denominator
  have hlt := Nat.mod_lt numerator hpos
  have hcomm := Nat.mul_comm denominator (numerator / denominator)
  have hparity : numerator / denominator % 2 = 0 ∨ numerator / denominator % 2 = 1 := by omega
  simp only [roundHalfEven]
  split
  · omega
  · split
    · rw [Nat.add_mul]
      omega
    · rcases hparity with hparity | hparity <;> rw [hparity]
      · rw [Nat.add_zero]
        omega
      · rw [Nat.add_mul]
        omega

end ArithTokens.Binary64
