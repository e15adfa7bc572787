import ArithTokens.Binary64.Rounding
import Mathlib.Algebra.Group.Nat.Defs

/-!
# Laws of rounding

Rounding depends on the ratio alone (`magnitude_of_units_congr`), never turns the order of two
ratios around (`magnitude_of_units_mono`), and keeps every double that can be reached exactly
(`magnitude_of_units_units`).
-/

namespace ArithTokens.Binary64

/-! ## Rounding to a natural number -/

/-- Rounding does not see a common factor. -/
theorem round_half_even_scale {factor : Nat} (hpos : 0 < factor) (numerator denominator : Nat) :
    roundHalfEven (numerator * factor) (denominator * factor) =
      roundHalfEven numerator denominator := by
  have hquotient : numerator * factor / (denominator * factor) = numerator / denominator :=
    Nat.mul_div_mul_right _ _ hpos
  have hrest : numerator * factor % (denominator * factor) = numerator % denominator * factor :=
    Nat.mul_mod_mul_right ..
  have hlow : 2 * (numerator % denominator * factor) < denominator * factor ↔
      2 * (numerator % denominator) < denominator := by
    rw [← Nat.mul_assoc]
    exact Nat.mul_lt_mul_right hpos
  have hhigh : denominator * factor < 2 * (numerator % denominator * factor) ↔
      denominator < 2 * (numerator % denominator) := by
    rw [← Nat.mul_assoc]
    exact Nat.mul_lt_mul_right hpos
  simp only [roundHalfEven, hquotient, hrest, hlow, hhigh]

/-- A rounded quotient is the whole quotient or one more. -/
theorem round_half_even_bounds (numerator denominator : Nat) :
    numerator / denominator ≤ roundHalfEven numerator denominator ∧
      roundHalfEven numerator denominator ≤ numerator / denominator + 1 := by
  have hparity := Nat.mod_lt (numerator / denominator) (y := 2) (by decide)
  simp only [roundHalfEven]
  split
  · omega
  · split <;> omega

/-- Of two ratios with one denominator, the larger one is not rounded to less. -/
theorem round_half_even_mono {smaller larger : Nat} (h : smaller ≤ larger) (denominator : Nat) :
    roundHalfEven smaller denominator ≤ roundHalfEven larger denominator := by
  have hquotient : smaller / denominator ≤ larger / denominator := Nat.div_le_div_right h
  by_cases heq : smaller / denominator = larger / denominator
  · -- With the same whole quotient, the rests are in the order of the numerators.
    have hsmaller := Nat.div_add_mod smaller denominator
    have hlarger := Nat.div_add_mod larger denominator
    rw [heq] at hsmaller
    simp only [roundHalfEven, heq]
    by_cases hlow : 2 * (smaller % denominator) < denominator
    · rw [if_pos hlow]
      exact (round_half_even_bounds larger denominator).1
    · rw [if_neg hlow, if_neg (by omega : ¬ 2 * (larger % denominator) < denominator)]
      by_cases hhigh : denominator < 2 * (larger % denominator)
      · rw [if_pos hhigh]
        split <;> omega
      · have hother : ¬ denominator < 2 * (smaller % denominator) := by omega
        exact Nat.le_of_eq (by rw [if_neg hhigh, if_neg hother])
  · have hlow := (round_half_even_bounds smaller denominator).2
    have hhigh := (round_half_even_bounds larger denominator).1
    omega

/-- A numerator of at most `bound` denominators is not rounded beyond `bound`. -/
theorem round_half_even_le {numerator denominator bound : Nat} (hpos : 0 < denominator)
    (h : numerator ≤ bound * denominator) : roundHalfEven numerator denominator ≤ bound := by
  have hmono := round_half_even_mono h denominator
  rwa [round_half_even_mul hpos] at hmono

/-- A numerator of at least `bound` denominators is not rounded below `bound`. -/
theorem le_round_half_even {numerator denominator bound : Nat} (hpos : 0 < denominator)
    (h : bound * denominator ≤ numerator) : bound ≤ roundHalfEven numerator denominator := by
  have hmono := round_half_even_mono h denominator
  rwa [round_half_even_mul hpos] at hmono

/-! ## Rounding to a magnitude -/

/-- Without the limit at the infinity, the magnitude nearest to a ratio. -/
def unboundedMagnitude (numerator denominator : Nat) : Nat :=
  doublings (numerator / denominator) * 2 ^ 52 +
    roundHalfEven numerator (denominator * 2 ^ doublings (numerator / denominator))

/-- The magnitude of a ratio is the unbounded one, up to the infinity. -/
theorem magnitude_of_units_eq_min (numerator denominator : Nat) :
    magnitudeOfUnits numerator denominator =
      min (unboundedMagnitude numerator denominator) infinityMagnitude := by
  unfold magnitudeOfUnits unboundedMagnitude
  dsimp only
  rw [Nat.shiftLeft_eq, Nat.shiftLeft_eq]
  split
  · next hlt => exact (Nat.min_eq_left (Nat.le_of_lt hlt)).symm
  · next hle => exact (Nat.min_eq_right (Nat.le_of_not_lt hle)).symm

/-- Rounding to a magnitude does not see a common factor. -/
theorem magnitude_of_units_scale {factor : Nat} (hpos : 0 < factor) (numerator denominator : Nat) :
    magnitudeOfUnits (numerator * factor) (denominator * factor) =
      magnitudeOfUnits numerator denominator := by
  have hquotient : numerator * factor / (denominator * factor) = numerator / denominator :=
    Nat.mul_div_mul_right _ _ hpos
  rw [magnitude_of_units_eq_min, magnitude_of_units_eq_min, unboundedMagnitude, unboundedMagnitude,
    hquotient, Nat.mul_right_comm, round_half_even_scale hpos]

/-- Equal ratios have the same magnitude. -/
theorem magnitude_of_units_congr {numerator denominator otherNumerator otherDenominator : Nat}
    (hpos : 0 < denominator) (hotherPos : 0 < otherDenominator)
    (h : numerator * otherDenominator = otherNumerator * denominator) :
    magnitudeOfUnits numerator denominator = magnitudeOfUnits otherNumerator otherDenominator := by
  rw [← magnitude_of_units_scale hotherPos, h, Nat.mul_comm denominator,
    magnitude_of_units_scale hpos]

/-- The spacing of the doubles does not shrink. -/
theorem doublings_mono {smaller larger : Nat} (h : smaller ≤ larger) :
    doublings smaller ≤ doublings larger := by
  by_cases hzero : smaller = 0
  · simp [hzero, doublings]
  · have hlog : smaller.log2 ≤ larger.log2 := by
      rw [Nat.le_log2 (by omega)]
      exact Nat.le_trans (Nat.log2_self_le hzero) h
    simp only [doublings]
    omega

/-- In the spacing around it, no number of units has more than 53 bits. -/
theorem units_lt_of_doublings (units : Nat) : units < 2 ^ 53 * 2 ^ doublings units := by
  rw [← Nat.pow_add]
  refine Nat.lt_of_lt_of_le Nat.lt_log2_self (Nat.pow_le_pow_right (by decide) ?_)
  simp only [doublings]
  omega

/-- Where the spacing has been doubled, a number of units has 53 bits in it. -/
theorem le_units_of_doublings {units : Nat} (h : 0 < doublings units) :
    2 ^ 52 * 2 ^ doublings units ≤ units := by
  have hne : units ≠ 0 := by
    rintro rfl
    simp [doublings] at h
  rw [← Nat.pow_add]
  refine Nat.le_trans (Nat.pow_le_pow_right (by decide) ?_) (Nat.log2_self_le hne)
  simp only [doublings] at h ⊢
  omega

/-- Says that a significand fits the spacing that has been doubled some number of times: it has at
most 53 bits or is the first one with more, and unless the spacing is that of the smallest double,
it has no fewer. -/
structure IsAligned (doubled significand : Nat) : Prop where
  le : significand ≤ 2 ^ 53
  ge : 0 < doubled → 2 ^ 52 ≤ significand

/-- Rounding leads to a significand in the spacing around the ratio. -/
theorem round_is_aligned {denominator : Nat} (hpos : 0 < denominator) (numerator : Nat) :
    IsAligned (doublings (numerator / denominator))
      (roundHalfEven numerator
        (denominator * 2 ^ doublings (numerator / denominator))) := by
  have hspacing := Nat.mul_pos hpos (Nat.two_pow_pos (doublings (numerator / denominator)))
  constructor
  · refine round_half_even_le hspacing ?_
    have hunits := units_lt_of_doublings (numerator / denominator)
    rw [Nat.div_lt_iff_lt_mul hpos, Nat.mul_assoc, Nat.mul_comm _ denominator] at hunits
    exact Nat.le_of_lt hunits
  · intro hdoubled
    refine le_round_half_even hspacing ?_
    have hunits := le_units_of_doublings hdoubled
    rwa [Nat.le_div_iff_mul_le hpos, Nat.mul_assoc, Nat.mul_comm _ denominator] at hunits

/-- Of two ratios with one denominator, the larger one does not have the smaller magnitude. -/
theorem unbounded_magnitude_mono {smaller larger denominator : Nat} (hpos : 0 < denominator)
    (h : smaller ≤ larger) :
    unboundedMagnitude smaller denominator ≤ unboundedMagnitude larger denominator := by
  have hquotient : smaller / denominator ≤ larger / denominator := Nat.div_le_div_right h
  simp only [unboundedMagnitude]
  by_cases heq : doublings (smaller / denominator) = doublings (larger / denominator)
  · rw [heq]
    exact Nat.add_le_add_left (round_half_even_mono h _) _
  · -- The smaller ratio has a significand up to `2 ^ 53` in its spacing, and the larger one has at
    -- least `2 ^ 52` in a wider spacing.
    have hlt := Nat.lt_of_le_of_ne (doublings_mono hquotient) heq
    have hlow := (round_is_aligned hpos smaller).le
    have hhigh := (round_is_aligned hpos larger).ge (Nat.zero_lt_of_lt hlt)
    omega

/-- Rounding keeps the order of ratios. -/
theorem magnitude_of_units_mono {numerator denominator otherNumerator otherDenominator : Nat}
    (hpos : 0 < denominator) (hotherPos : 0 < otherDenominator)
    (h : numerator * otherDenominator ≤ otherNumerator * denominator) :
    magnitudeOfUnits numerator denominator ≤ magnitudeOfUnits otherNumerator otherDenominator := by
  rw [← magnitude_of_units_scale hotherPos, ← magnitude_of_units_scale hpos otherNumerator,
    Nat.mul_comm otherDenominator, magnitude_of_units_eq_min, magnitude_of_units_eq_min]
  have hmono := unbounded_magnitude_mono (Nat.mul_pos hpos hotherPos) h
  omega

/-! ## Doubles are kept -/

/-- The units of a magnitude with an exponent field. -/
theorem units_of_field {field fraction : Nat} (hfraction : fraction < 2 ^ 52) :
    units ((field + 1) * 2 ^ 52 + fraction) = (2 ^ 52 + fraction) * 2 ^ field := by
  have hfield : ((field + 1) * 2 ^ 52 + fraction) >>> 52 = field + 1 := by
    rw [Nat.shiftRight_eq_div_pow]
    omega
  have hrest : ((field + 1) * 2 ^ 52 + fraction) % 2 ^ 52 = fraction := by
    omega
  simp only [units, hfield, hrest, Nat.shiftLeft_eq, Nat.one_mul, Nat.add_sub_cancel,
    Nat.add_eq_zero_iff, Nat.one_ne_zero, and_false, ↓reduceIte]

/-- A magnitude is an exponent field of zero and a fraction, or a larger one and a fraction. -/
theorem magnitude_cases (magnitude : Nat) :
    magnitude < 2 ^ 52 ∨
      ∃ field fraction, fraction < 2 ^ 52 ∧ magnitude = (field + 1) * 2 ^ 52 + fraction := by
  by_cases h : magnitude < 2 ^ 52
  · exact .inl h
  · refine .inr ⟨magnitude / 2 ^ 52 - 1, magnitude % 2 ^ 52, Nat.mod_lt _ (Nat.two_pow_pos 52), ?_⟩
    omega

/-- A double that is an exact number of units is its own nearest double. -/
theorem unbounded_magnitude_units (magnitude : Nat) :
    unboundedMagnitude (units magnitude) 1 = magnitude := by
  simp only [unboundedMagnitude, Nat.div_one, Nat.one_mul]
  rcases magnitude_cases magnitude with h | ⟨field, fraction, hfraction, rfl⟩
  · have hdoublings : doublings magnitude = 0 := by
      by_cases hzero : magnitude = 0
      · simp [hzero, doublings]
      · have hlog := (Nat.log2_lt hzero).2 h
        simp only [doublings]
        omega
    rw [units_of_lt (by rwa [Nat.one_shiftLeft]), hdoublings]
    simpa using round_half_even_mul Nat.one_pos magnitude
  · rw [units_of_field hfraction]
    have hlog : ((2 ^ 52 + fraction) * 2 ^ field).log2 = 52 + field := by
      have hpos := Nat.two_pow_pos field
      rw [Nat.log2_eq_iff (Nat.mul_ne_zero (by omega) (by omega))]
      constructor
      · rw [Nat.pow_add]
        exact Nat.mul_le_mul_right _ (by omega)
      · rw [Nat.add_right_comm, Nat.pow_add]
        exact Nat.mul_lt_mul_of_pos_right (by omega) (Nat.two_pow_pos field)
    have hdoublings : doublings ((2 ^ 52 + fraction) * 2 ^ field) = field := by
      rw [doublings, hlog]
      omega
    rw [hdoublings, round_half_even_mul (Nat.two_pow_pos field)]
    omega

/-- Rounding a finite double gives the double. -/
theorem magnitude_of_units_units {magnitude denominator : Nat} (hpos : 0 < denominator)
    (hfinite : magnitude < infinityMagnitude) :
    magnitudeOfUnits (units magnitude * denominator) denominator = magnitude := by
  have hscale := magnitude_of_units_scale hpos (units magnitude) 1
  rw [Nat.one_mul] at hscale
  rw [hscale, magnitude_of_units_eq_min, unbounded_magnitude_units]
  omega

/-- The larger of two magnitudes has more units. -/
theorem units_lt_units {smaller larger : Nat} (h : smaller < larger) :
    units smaller < units larger := by
  refine Nat.lt_of_not_le fun hle => ?_
  have hmono := unbounded_magnitude_mono Nat.one_pos hle
  rw [unbounded_magnitude_units, unbounded_magnitude_units] at hmono
  omega

end ArithTokens.Binary64
