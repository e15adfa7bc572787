import ArithTokens.Decimal.Style
import ArithTokens.Proofs.Rounding
import Mathlib.Algebra.Order.Field.Power
import Mathlib.Data.Int.Log
import Mathlib.Data.Rat.Floor
import Mathlib.Tactic.FieldSimp
import Mathlib.Tactic.Linarith
import Mathlib.Tactic.Ring

/-!
# Values of decimals and doubles

Decimals and finite doubles stand for rational numbers. Rounding a decimal depends on its value
alone and keeps the order of values (`to_binary64_mono`), the shortest decimal of a double rounds
back to it (`shortest_to_binary64`), and it has the decimal exponent of the double itself wherever
doubles are written plainly (`shortest_is_plain_iff`).
-/

namespace ArithTokens

/-- The absolute value of a finite double. -/
def Binary64.value (magnitude : Nat) : ℚ := Binary64.units magnitude / Binary64.unitsInOne

namespace Binary64

/-- The number one is some number of units. -/
theorem units_in_one_pos : 0 < unitsInOne := by
  unfold unitsInOne
  rw [Nat.one_shiftLeft]
  exact Nat.two_pow_pos 1074

/-- The larger of two finite magnitudes has the larger value. -/
theorem value_le_value_iff {magnitude other : Nat} :
    value magnitude ≤ value other ↔ magnitude ≤ other := by
  have hpos : (0 : ℚ) < unitsInOne := by exact_mod_cast units_in_one_pos
  rw [value, value, div_le_div_iff_of_pos_right hpos, Nat.cast_le]
  constructor
  · intro h
    by_contra hlt
    exact absurd (units_lt_units (Nat.lt_of_not_le hlt)) (Nat.not_lt.2 h)
  · intro h
    rcases Nat.lt_or_eq_of_le h with hlt | rfl
    · exact Nat.le_of_lt (units_lt_units hlt)
    · exact Nat.le_refl _

end Binary64

namespace Decimal

open Binary64

/-- The rational number that a decimal stands for. -/
def value (d : Decimal) : ℚ := d.coefficient * (10 : ℚ) ^ d.exponent

/-- One at a place is a power of ten. -/
theorem value_power (exponent : ℤ) : value ⟨1, exponent⟩ = (10 : ℚ) ^ exponent := by
  rw [value, Nat.cast_one, one_mul]

/-! ## Rounding and values -/

theorem denominator_pos (d : Decimal) : 0 < d.denominator := Nat.pow_pos (by decide)

/-- The value is the ratio of the numerator and the denominator. -/
theorem value_eq_ratio (d : Decimal) : d.value = d.numerator / d.denominator := by
  have hexponent : d.exponent = (d.exponent.toNat : ℤ) - ((-d.exponent).toNat : ℤ) := by omega
  simp only [value, numerator, denominator, Nat.pow_eq, Nat.cast_mul, Nat.cast_pow]
  conv_lhs => rw [hexponent]
  rw [zpow_sub₀ (by norm_num), zpow_natCast, zpow_natCast, mul_div_assoc]
  norm_num

/-- Rounding keeps the order of values. -/
theorem to_binary64_mono {d other : Decimal} (negative : Bool) (h : d.value ≤ other.value) :
    (d.toBinary64 negative).magnitude ≤ (other.toBinary64 negative).magnitude := by
  rw [value_eq_ratio, value_eq_ratio, div_le_div_iff₀ (by exact_mod_cast d.denominator_pos)
    (by exact_mod_cast other.denominator_pos)] at h
  refine magnitude_of_units_mono d.denominator_pos other.denominator_pos ?_
  rw [Nat.mul_right_comm, Nat.mul_right_comm _ unitsInOne]
  exact Nat.mul_le_mul_right _ (by exact_mod_cast h)

/-- Decimals of one value are rounded to one double. -/
theorem to_binary64_congr {d other : Decimal} (negative : Bool) (h : d.value = other.value) :
    d.toBinary64 negative = other.toBinary64 negative := by
  have hmagnitude :=
    Nat.le_antisymm (to_binary64_mono negative h.le) (to_binary64_mono negative h.ge)
  simpa [toBinary64, ofRatio] using hmagnitude

/-- A decimal that is exactly a finite double is rounded to it. -/
theorem to_binary64_of_value {d : Decimal} {magnitude : Nat} (negative : Bool)
    (hfinite : magnitude < infinityMagnitude) (h : d.value = Binary64.value magnitude) :
    (d.toBinary64 negative).magnitude = magnitude := by
  have hone : (unitsInOne : ℚ) ≠ 0 := by exact_mod_cast units_in_one_pos.ne'
  have hdenominator : (d.denominator : ℚ) ≠ 0 := by exact_mod_cast d.denominator_pos.ne'
  rw [value_eq_ratio, Binary64.value, div_eq_div_iff hdenominator hone] at h
  have hunits : d.numerator * unitsInOne = units magnitude * d.denominator := by exact_mod_cast h
  rw [toBinary64, of_ratio_magnitude, hunits, magnitude_of_units_units d.denominator_pos hfinite]

/-! ## The shortest decimal reads back -/

/-- A unit is `5 ^ 1074` times `10 ^ -1074`, so the scale times the units in one is a power of ten.
The number of places is kept as a variable so that no such power is ever evaluated. -/
theorem unit_scale_mul_units_in_one :
    ∃ places : ℕ, (1074 : ℤ) = places ∧ unitScale * unitsInOne = 10 ^ places := by
  refine ⟨1074, rfl, ?_⟩
  unfold unitScale unitsInOne
  generalize 1074 = places
  rw [Nat.pow_eq, Nat.one_shiftLeft, ← Nat.mul_pow]

theorem unit_scale_pos : 0 < unitScale := by
  unfold unitScale
  generalize 1074 = places
  exact Nat.pow_pos (by decide)

/-- A point of a grid reads back exactly when its decimal is rounded to the magnitude. -/
theorem reads_back_iff {magnitude grid point : Nat} (negative : Bool) :
    readsBack magnitude grid point = true ↔
      (toBinary64 negative ⟨point, grid - 1074⟩).magnitude = magnitude := by
  obtain ⟨places, hplaces, hscale⟩ := unit_scale_mul_units_in_one
  rw [hplaces]
  generalize hd : (⟨point, grid - places⟩ : Decimal) = d
  have hdenominator : (d.denominator : ℚ) ≠ 0 := by exact_mod_cast d.denominator_pos.ne'
  have hten : ((10 : ℚ) ^ places) ≠ 0 := pow_ne_zero _ (by norm_num)
  have hratio : d.numerator * 10 ^ places = point * 10 ^ grid * d.denominator := by
    have hvalue := d.value_eq_ratio
    have hcoefficient : d.coefficient = point := by rw [← hd]
    have hexponent : d.exponent = grid - places := by rw [← hd]
    rw [eq_div_iff hdenominator, value, hcoefficient, hexponent, zpow_sub₀ (by norm_num),
      zpow_natCast, zpow_natCast] at hvalue
    field_simp at hvalue
    rw [mul_comm]
    exact_mod_cast hvalue.symm
  have hmagnitude : magnitudeOfUnits (point * 10 ^ grid) unitScale =
      magnitudeOfUnits (d.numerator * unitsInOne) d.denominator := by
    refine magnitude_of_units_congr unit_scale_pos d.denominator_pos ?_
    calc point * 10 ^ grid * d.denominator = d.numerator * (unitScale * unitsInOne) := by
          rw [hscale, hratio]
      _ = d.numerator * unitsInOne * unitScale := by ring
  rw [readsBack, Nat.pow_eq, hmagnitude, toBinary64, of_ratio_magnitude, decide_eq_true_iff]

/-- The search finds a decimal that is rounded to the magnitude. -/
theorem search_to_binary64 {magnitude : Nat} (tie : Tie) (negative : Bool)
    (hfinite : magnitude < infinityMagnitude) (grid : Nat) :
    ((search tie magnitude grid).toBinary64 negative).magnitude = magnitude := by
  induction grid with
  | zero =>
    have hback : readsBack magnitude 0 (expansion magnitude) = true := by
      rw [readsBack, decide_eq_true_iff, expansion, Nat.pow_eq, Nat.pow_zero, Nat.mul_one]
      exact magnitude_of_units_units unit_scale_pos hfinite
    simpa [search] using (reads_back_iff negative).1 hback
  | succ grid ih =>
    rw [search]
    cases hpoint : nearest? tie magnitude (grid + 1) with
    | none => exact ih
    | some point => exact (reads_back_iff negative).1 (reads_back_of_nearest hpoint)

/-- The shortest decimal of a finite magnitude is rounded to that magnitude. -/
theorem shortest_magnitude {magnitude : Nat} (tie : Tie) (negative : Bool)
    (hfinite : magnitude < infinityMagnitude) :
    ((shortest tie magnitude).toBinary64 negative).magnitude = magnitude := by
  unfold shortest
  split
  · next hzero =>
    subst hzero
    refine to_binary64_of_value negative hfinite ?_
    simp [value, Binary64.value, units]
  · exact search_to_binary64 tie negative hfinite _

/-- The shortest decimal of a finite double, with its sign, is rounded to the double. -/
theorem shortest_to_binary64 {x : Binary64} (tie : Tie) (hfinite : x.isFinite = true) :
    (shortest tie x.magnitude).toBinary64 x.negative = x := by
  have hmagnitude := shortest_magnitude tie x.negative (of_decide_eq_true hfinite)
  obtain ⟨negative, magnitude, hlt⟩ := x
  simpa [toBinary64, ofRatio] using hmagnitude

/-! ## Decimal exponents -/

/-- A positive number has as many digits as it takes to pass it with a power of ten. -/
theorem digits_length_bounds {n : Nat} (hpos : 0 < n) :
    10 ^ ((Nat.toDigits 10 n).length - 1) ≤ n ∧ n < 10 ^ (Nat.toDigits 10 n).length := by
  have hlength : 0 < (Nat.toDigits 10 n).length := Nat.length_toDigits_pos
  refine ⟨?_, (Nat.length_toDigits_le_iff (by decide) hlength).1 (Nat.le_refl _)⟩
  by_contra hlt
  by_cases hone : (Nat.toDigits 10 n).length = 1
  · rw [hone, Nat.sub_self, pow_zero] at hlt
    omega
  · have hle := (Nat.length_toDigits_le_iff (by decide) (by omega)).2 (Nat.lt_of_not_le hlt)
    omega

/-- A positive decimal lies between the powers of ten at and above its first digit. -/
theorem leading_bounds {d : Decimal} (hpos : 0 < d.coefficient) :
    (10 : ℚ) ^ d.leading ≤ d.value ∧ d.value < (10 : ℚ) ^ (d.leading + 1) := by
  have hten : (10 : ℚ) ≠ 0 := by norm_num
  have hlength : 0 < d.digits.length := Nat.length_toDigits_pos
  obtain ⟨hlow, hhigh⟩ : 10 ^ (d.digits.length - 1) ≤ d.coefficient ∧
      d.coefficient < 10 ^ d.digits.length := digits_length_bounds hpos
  have hpower : (0 : ℚ) < 10 ^ d.exponent := zpow_pos (by norm_num) _
  constructor
  · rw [leading, add_comm, zpow_add₀ hten, zpow_natCast, value]
    exact mul_le_mul_of_nonneg_right (by exact_mod_cast hlow) hpower.le
  · rw [leading, add_assoc, add_comm, zpow_add₀ hten, value]
    have hcast : ((d.digits.length - 1 : ℕ) : ℤ) + 1 = (d.digits.length : ℤ) := by omega
    rw [hcast, zpow_natCast]
    exact mul_lt_mul_of_pos_right (by exact_mod_cast hhigh) hpower

/-- A finite magnitude above zero has a shortest decimal above zero. -/
theorem shortest_coefficient_pos {magnitude : Nat} (tie : Tie)
    (hfinite : magnitude < infinityMagnitude) (hpos : 0 < magnitude) :
    0 < (shortest tie magnitude).coefficient := by
  rw [Nat.pos_iff_ne_zero]
  intro hzero
  have hvalue : (shortest tie magnitude).value = Binary64.value 0 := by
    simp [value, hzero, Binary64.value, units]
  have hmagnitude := shortest_magnitude tie false hfinite
  rw [to_binary64_of_value false (by decide) hvalue] at hmagnitude
  omega

/-- The expansion of a double is its exact decimal. -/
theorem expansion_value (magnitude : Nat) :
    value ⟨expansion magnitude, -1074⟩ = Binary64.value magnitude := by
  obtain ⟨places, hplaces, hscale⟩ := unit_scale_mul_units_in_one
  have hone : (unitsInOne : ℚ) ≠ 0 := by exact_mod_cast units_in_one_pos.ne'
  have hscale' : (unitScale : ℚ) * unitsInOne = 10 ^ places := by exact_mod_cast hscale
  have hunit : (unitScale : ℚ) ≠ 0 := by exact_mod_cast unit_scale_pos.ne'
  rw [hplaces, value, Binary64.value, zpow_neg, zpow_natCast, expansion, Nat.cast_mul, ← hscale']
  field_simp

/-- A finite double has an exact decimal. -/
theorem exists_value_eq (magnitude : Nat) : ∃ d : Decimal, d.value = Binary64.value magnitude :=
  ⟨_, expansion_value magnitude⟩

/-- Where the double nearest to a power of ten is not below that power and is written by it, the
shortest decimals of the doubles from the power on are the ones from it on. -/
theorem le_shortest_leading_iff {magnitude : Nat} {tie : Tie} {least : ℤ}
    (hfinite : magnitude < infinityMagnitude) (hpos : 0 < magnitude)
    (habove : numerator ⟨1, least⟩ * unitsInOne ≤
      units (toBinary64 false ⟨1, least⟩).magnitude * denominator ⟨1, least⟩)
    (hnearest : (shortest tie (toBinary64 false ⟨1, least⟩).magnitude).leading = least) :
    least ≤ (shortest tie magnitude).leading ↔ (10 : ℚ) ^ least ≤ Binary64.value magnitude := by
  have hpower := value_power least
  have hbounds := leading_bounds (shortest_coefficient_pos tie hfinite hpos)
  constructor
  · intro hleading
    have hvalue : value ⟨1, least⟩ ≤ (shortest tie magnitude).value := by
      rw [hpower]
      exact (zpow_le_zpow_right₀ (by norm_num) hleading).trans hbounds.1
    have hmono := to_binary64_mono false hvalue
    rw [shortest_magnitude tie false hfinite, ← value_le_value_iff] at hmono
    refine le_trans ?_ hmono
    have hone : (0 : ℚ) < unitsInOne := by exact_mod_cast units_in_one_pos
    rw [← hpower, value_eq_ratio, Binary64.value,
      div_le_div_iff₀ (by exact_mod_cast denominator_pos _) hone]
    exact_mod_cast habove
  · intro h
    by_contra hlt
    -- A shortest decimal below the power would make the magnitude the power's own.
    have hle : magnitude ≤ (toBinary64 false ⟨1, least⟩).magnitude := by
      have hvalue : (shortest tie magnitude).value ≤ value ⟨1, least⟩ := by
        rw [hpower]
        exact (hbounds.2.trans_le (zpow_le_zpow_right₀ (by norm_num) (by omega))).le
      have hmono := to_binary64_mono false hvalue
      rwa [shortest_magnitude tie false hfinite] at hmono
    have hge : (toBinary64 false ⟨1, least⟩).magnitude ≤ magnitude := by
      obtain ⟨d, hd⟩ := exists_value_eq magnitude
      have hvalue : value ⟨1, least⟩ ≤ d.value := by
        rw [hpower, hd]
        exact h
      have hmono := to_binary64_mono false hvalue
      rwa [to_binary64_of_value false hfinite hd] at hmono
    rw [Nat.le_antisymm hge hle] at hnearest
    omega

/-- Lines of text write a positive double plainly exactly if its decimal exponent is from -4 to
15. -/
theorem shortest_is_plain_iff {magnitude : Nat} (hfinite : magnitude < infinityMagnitude)
    (hpos : 0 < magnitude) :
    Style.text.isPlain (shortest .up magnitude) = true ↔
      -4 ≤ Int.log 10 (Binary64.value magnitude) ∧ Int.log 10 (Binary64.value magnitude) ≤ 15 := by
  have hvalue : 0 < Binary64.value magnitude := by
    refine div_pos ?_ (by exact_mod_cast units_in_one_pos)
    exact_mod_cast Nat.lt_of_le_of_lt (Nat.zero_le _) (units_lt_units hpos)
  have hleast : -4 ≤ (shortest .up magnitude).leading ↔
      -4 ≤ Int.log 10 (Binary64.value magnitude) := by
    rw [le_shortest_leading_iff hfinite hpos (by decide +kernel) (by decide +kernel)]
    exact_mod_cast Int.zpow_le_iff_le_log (b := 10) (x := -4) (by norm_num) hvalue
  have hlimit : 16 ≤ (shortest .up magnitude).leading ↔
      16 ≤ Int.log 10 (Binary64.value magnitude) := by
    rw [le_shortest_leading_iff hfinite hpos (by decide +kernel) (by decide +kernel)]
    exact_mod_cast Int.zpow_le_iff_le_log (b := 10) (x := 16) (by norm_num) hvalue
  rw [Style.isPlain, decide_eq_true_iff]
  change -4 ≤ (shortest .up magnitude).leading ∧ (shortest .up magnitude).leading < 16 ↔ _
  rw [hleast, ← Int.not_le, hlimit]
  omega

end Decimal

end ArithTokens
