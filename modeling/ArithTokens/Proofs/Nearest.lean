import ArithTokens.Proofs.Value

/-!
# The nearest double

A double is nearest to a value if no other finite double is nearer, and if it has the even
significand of two that are as near. Rounding a ratio passes a double exactly if the ratio is past
the point half-way to the next one, or at that point behind an odd significand
(`lt_unbounded_magnitude_iff`). Hence a rounded decimal is the double nearest to its value
(`to_binary64_is_nearest`), and there is no other one (`IsNearest.unique`).
-/

namespace ArithTokens

namespace Binary64

/-! ## Significands -/

/-- The whole number that the units of a finite magnitude are a power of two of: the fraction bits,
with the leading bit in front of them if the exponent field is not zero. -/
def significand (magnitude : Nat) : Nat :=
  if magnitude >>> 52 = 0 then magnitude % (1 <<< 52) else (1 <<< 52) + magnitude % (1 <<< 52)

/-- The last bit of the significand is that of the magnitude. -/
theorem significand_mod_two (magnitude : Nat) : significand magnitude % 2 = magnitude % 2 := by
  simp only [significand, Nat.one_shiftLeft]
  split <;> omega

/-! ## Neighbours -/

/-- The units of the magnitude that is made of a significand and its spacing. -/
theorem units_of_aligned {doubled significand : Nat} (h : IsAligned doubled significand) :
    units (doubled * 2 ^ 52 + significand) = significand * 2 ^ doubled := by
  have hle := h.le
  by_cases hsmall : significand < 2 ^ 52
  · have hzero : doubled = 0 := by
      by_contra hne
      have hge := h.ge (Nat.pos_of_ne_zero hne)
      omega
    rw [hzero, Nat.zero_mul, Nat.zero_add, Nat.pow_zero, Nat.mul_one]
    exact units_of_lt (by rwa [Nat.one_shiftLeft])
  · by_cases hlarge : significand < 2 ^ 53
    · have hsplit : doubled * 2 ^ 52 + significand =
          (doubled + 1) * 2 ^ 52 + (significand - 2 ^ 52) := by omega
      have hback : 2 ^ 52 + (significand - 2 ^ 52) = significand := by omega
      rw [hsplit, units_of_field (by omega), hback]
    · -- One significand too long is the first one of the next spacing.
      have hlast : significand = 2 ^ 53 := by omega
      have hsplit : doubled * 2 ^ 52 + 2 ^ 53 = (doubled + 1 + 1) * 2 ^ 52 + 0 := by omega
      rw [hlast, hsplit, units_of_field (Nat.two_pow_pos 52), Nat.add_zero, Nat.pow_succ 2 doubled,
        Nat.pow_succ 2 52]
      ring

/-- The next double is at least one spacing further. -/
theorem le_units_succ {doubled significand : Nat} (h : IsAligned doubled significand) :
    (significand + 1) * 2 ^ doubled ≤ units (doubled * 2 ^ 52 + significand + 1) := by
  have hle := h.le
  by_cases hlast : significand = 2 ^ 53
  · have hnext : IsAligned (doubled + 1) (2 ^ 52 + 1) := ⟨by omega, fun _ => by omega⟩
    have hsplit : doubled * 2 ^ 52 + significand + 1 = (doubled + 1) * 2 ^ 52 + (2 ^ 52 + 1) := by
      omega
    rw [hsplit, units_of_aligned hnext, hlast, Nat.pow_succ 2 doubled, Nat.mul_comm (2 ^ doubled),
      ← Nat.mul_assoc]
    exact Nat.mul_le_mul_right _ (by omega)
  · have hnext : IsAligned doubled (significand + 1) :=
      ⟨by omega, fun hpos => Nat.le_succ_of_le (h.ge hpos)⟩
    rw [Nat.add_assoc, units_of_aligned hnext]

/-- The double before is one spacing back, unless the spacing is wider than before. -/
theorem units_pred {doubled significand : Nat} (h : IsAligned doubled (significand + 1))
    (hspacing : 0 < doubled → 2 ^ 52 ≤ significand) :
    units (doubled * 2 ^ 52 + significand) = significand * 2 ^ doubled :=
  units_of_aligned ⟨Nat.le_of_succ_le h.le, hspacing⟩

/-! ## Half-way points -/

/-- A ratio that is half-way between two natural numbers is rounded to the even one. -/
theorem round_half_even_tie {denominator : Nat} (hpos : 0 < denominator) (numerator : Nat)
    (h : 2 * numerator = 2 * (roundHalfEven numerator denominator * denominator) + denominator ∨
      2 * numerator + denominator = 2 * (roundHalfEven numerator denominator * denominator)) :
    roundHalfEven numerator denominator % 2 = 0 := by
  have hsplit := Nat.div_add_mod numerator denominator
  have hlt := Nat.mod_lt numerator hpos
  have hcomm := Nat.mul_comm denominator (numerator / denominator)
  simp only [roundHalfEven] at h ⊢
  split at h
  · omega
  · split at h
    · rw [Nat.add_mul] at h
      omega
    · rw [if_neg ‹_›, if_neg ‹_›]
      omega

variable {numerator denominator : Nat}

/-- A ratio is not past the point half-way to the double behind the one to which it is rounded, and
it is at that point only if the significand is even. -/
theorem le_half_way_above (hpos : 0 < denominator) (numerator : Nat) :
    let magnitude := unboundedMagnitude numerator denominator
    2 * numerator ≤ (units magnitude + units (magnitude + 1)) * denominator ∧
      (2 * numerator = (units magnitude + units (magnitude + 1)) * denominator →
        magnitude % 2 = 0) := by
  intro magnitude
  have haligned := round_is_aligned hpos numerator
  have hmagnitude : magnitude = unboundedMagnitude numerator denominator := rfl
  rw [unboundedMagnitude] at hmagnitude
  generalize doublings (numerator / denominator) = doubled at haligned hmagnitude
  have hspacing := Nat.mul_pos hpos (Nat.two_pow_pos doubled)
  have hnear := (round_half_even_near hspacing numerator).1
  have htie := round_half_even_tie hspacing numerator
  generalize roundHalfEven numerator (denominator * 2 ^ doubled) = significand at *
  have hhere := units_of_aligned haligned
  have hnext := le_units_succ haligned
  rw [← hmagnitude] at hhere hnext
  have hsum : 2 * (significand * (denominator * 2 ^ doubled)) + denominator * 2 ^ doubled ≤
      (units magnitude + units (magnitude + 1)) * denominator :=
    calc 2 * (significand * (denominator * 2 ^ doubled)) + denominator * 2 ^ doubled
        = (significand * 2 ^ doubled + (significand + 1) * 2 ^ doubled) * denominator := by ring
      _ ≤ (units magnitude + units (magnitude + 1)) * denominator := by
        rw [hhere]
        exact Nat.mul_le_mul_right _ (Nat.add_le_add_left hnext _)
  constructor
  · exact Nat.le_trans hnear hsum
  · intro heq
    have heven := htie (.inl (by omega))
    omega

/-- A ratio is not before the point half-way from the double in front of the one to which it is
rounded, and it is at that point only if the significand is even. -/
theorem half_way_below_le (hpos : 0 < denominator) {before : Nat}
    (hbefore : before + 1 = unboundedMagnitude numerator denominator) :
    (units before + units (before + 1)) * denominator ≤ 2 * numerator ∧
      ((units before + units (before + 1)) * denominator = 2 * numerator →
        (before + 1) % 2 = 0) := by
  have haligned := round_is_aligned hpos numerator
  have hlow := @le_units_of_doublings (numerator / denominator)
  rw [Nat.le_div_iff_mul_le hpos] at hlow
  rw [unboundedMagnitude] at hbefore
  generalize doublings (numerator / denominator) = doubled at haligned hbefore hlow
  have hspacing := Nat.mul_pos hpos (Nat.two_pow_pos doubled)
  have hnear := (round_half_even_near hspacing numerator).2
  have htie := round_half_even_tie hspacing numerator
  generalize roundHalfEven numerator (denominator * 2 ^ doubled) = significand at *
  have hhere := units_of_aligned haligned
  rw [← hbefore] at hhere
  by_cases hfirst : 0 < doubled ∧ significand = 2 ^ 52
  · -- In front of the first significand the spacing is narrower, but the ratio is not there.
    obtain ⟨hdoubled, rfl⟩ := hfirst
    have hstrict : (units before + units (before + 1)) * denominator < 2 * numerator :=
      calc (units before + units (before + 1)) * denominator
          < (units (before + 1) + units (before + 1)) * denominator :=
            Nat.mul_lt_mul_of_pos_right
              (Nat.add_lt_add_right (units_lt_units (Nat.lt_succ_self before)) _) hpos
        _ = 2 * (2 ^ 52 * 2 ^ doubled * denominator) := by rw [hhere]; ring
        _ ≤ 2 * numerator := Nat.mul_le_mul_left 2 (hlow hdoubled)
    exact ⟨Nat.le_of_lt hstrict, fun heq => absurd heq (Nat.ne_of_lt hstrict)⟩
  · obtain ⟨previous, rfl⟩ : ∃ previous, significand = previous + 1 := by
      cases significand with
      | zero =>
        have hge := haligned.ge
        omega
      | succ previous => exact ⟨previous, rfl⟩
    have hge := haligned.ge
    have hprevious := units_pred haligned fun hdoubled => by
      have hfull := hge hdoubled
      omega
    have hback : before = doubled * 2 ^ 52 + previous := by omega
    rw [← hback] at hprevious
    have hsum : (units before + units (before + 1)) * denominator + denominator * 2 ^ doubled =
        2 * ((previous + 1) * (denominator * 2 ^ doubled)) := by
      rw [hhere, hprevious]
      ring
    constructor
    · omega
    · intro heq
      have heven := htie (.inr (by omega))
      omega

/-- Rounding passes a double exactly if the ratio is past the point half-way to the next one, or at
that point behind an odd significand. -/
theorem lt_unbounded_magnitude_iff (hpos : 0 < denominator) (magnitude : Nat) :
    magnitude < unboundedMagnitude numerator denominator ↔
      (units magnitude + units (magnitude + 1)) * denominator < 2 * numerator ∨
        (units magnitude + units (magnitude + 1)) * denominator = 2 * numerator ∧
          magnitude % 2 = 1 := by
  -- Half-way points follow each other in the order of their doubles.
  have hmono : ∀ first second, first < second →
      (units first + units (first + 1)) * denominator <
        (units second + units (second + 1)) * denominator := by
    intro first second hlt
    exact Nat.mul_lt_mul_of_pos_right
      (Nat.add_lt_add (units_lt_units hlt) (units_lt_units (Nat.succ_lt_succ hlt))) hpos
  constructor
  · intro hlt
    obtain ⟨before, hbefore⟩ : ∃ before, before + 1 = unboundedMagnitude numerator denominator :=
      ⟨_, Nat.sub_add_cancel (Nat.one_le_of_lt hlt)⟩
    obtain ⟨hle, heven⟩ := half_way_below_le hpos hbefore
    rcases Nat.lt_or_eq_of_le (Nat.le_of_lt_succ (hbefore ▸ hlt)) with hfurther | rfl
    · exact .inl (Nat.lt_of_lt_of_le (hmono _ _ hfurther) hle)
    · rcases Nat.lt_or_eq_of_le hle with hpast | hat
      · exact .inl hpast
      · have hodd := heven hat
        exact .inr ⟨hat, by omega⟩
  · intro h
    by_contra hge
    obtain ⟨hle, heven⟩ := le_half_way_above hpos numerator
    rcases Nat.lt_or_eq_of_le (Nat.le_of_not_lt hge) with hfurther | heq
    · have hlater := hmono _ _ hfurther
      omega
    · rw [heq] at hle heven
      rcases h with hpast | ⟨hat, hodd⟩
      · omega
      · have hsame := heven hat.symm
        omega

/-! ## The nearest double -/

/-- The rational number that a finite double stands for. -/
def toRat (x : Binary64) : ℚ := if x.negative then -value x.magnitude else value x.magnitude

/-- The smallest value that is rounded to infinity. The largest finite double is half a spacing
below it. -/
def overflow : ℚ := 2 ^ 1024 - 2 ^ 970

/-- The largest value that is rounded to zero, half the smallest positive double. -/
def underflow : ℚ := 1 / 2 ^ 1075

theorem underflow_nonneg : 0 ≤ underflow := by
  rw [underflow]
  positivity

/-- Says that a double is the one nearest to a value that is not negative. It is finite below the
limit of overflow, and then no finite double of either sign is nearer. If another one is as near, it
has the even significand. -/
structure IsNearest (x : Binary64) (exact : ℚ) : Prop where
  negative_eq : x.negative = false
  is_nan_eq : x.isNaN = false
  is_infinite_iff : x.isInfinite = true ↔ overflow ≤ exact
  nearest : x.isFinite = true → ∀ y : Binary64, y.isFinite = true →
    |x.toRat - exact| ≤ |y.toRat - exact|
  even_of_tie : x.isFinite = true → ∀ y : Binary64, y.isFinite = true → y.toRat ≠ x.toRat →
    |x.toRat - exact| = |y.toRat - exact| → significand x.magnitude % 2 = 0

/-- A double without a sign stands for the value of its magnitude. -/
theorem to_rat_of_positive {x : Binary64} (h : x.negative = false) :
    x.toRat = value x.magnitude := by
  rw [toRat, h]
  rfl

/-- The larger of two magnitudes has the larger value. -/
theorem value_lt_value_iff {magnitude other : Nat} :
    value magnitude < value other ↔ magnitude < other := by
  rw [← not_le, value_le_value_iff, not_le]

/-- No value of a magnitude is negative. -/
theorem value_nonneg (magnitude : Nat) : 0 ≤ value magnitude := by
  rw [value]
  positivity

/-- The number one is a power of two of the smallest double. Its exponent is kept as a variable so
that no power of this size is ever evaluated. -/
theorem units_in_one_eq : ∃ places : ℕ, places = 1074 ∧ (unitsInOne : ℚ) = 2 ^ places := by
  refine ⟨1074, rfl, ?_⟩
  unfold unitsInOne
  generalize 1074 = places
  rw [Nat.one_shiftLeft]
  norm_cast

/-- The smallest positive double is twice the limit of underflow. -/
theorem value_one : value 1 = 2 * underflow := by
  obtain ⟨places, hplaces, hone⟩ := units_in_one_eq
  have hunits : units 1 = 1 := units_of_lt (by decide)
  have hlimit : 1075 = places + 1 := by rw [hplaces]
  rw [value, hunits, hone, underflow, hlimit, pow_succ]
  push_cast
  field_simp

/-- Zero is finite. -/
theorem infinity_magnitude_pos : 0 < infinityMagnitude := by decide

/-- The limit of overflow is half-way from the largest finite double to the next power of two. -/
theorem value_last_add :
    value (infinityMagnitude - 1) + value (infinityMagnitude - 1 + 1) = 2 * overflow := by
  obtain ⟨places, hplaces, hone⟩ := units_in_one_eq
  have hexponent : 2045 = 970 + 1 + places := by rw [hplaces]
  have hlargest : units (infinityMagnitude - 1) = (2 ^ 53 - 1) * 2 ^ (970 + 1 + places) := by
    have hsplit : infinityMagnitude - 1 = 2045 * 2 ^ 52 + (2 ^ 53 - 1) := by decide
    rw [hsplit, hexponent]
    exact units_of_aligned ⟨by decide, fun _ => by decide⟩
  have hnext : units (infinityMagnitude - 1 + 1) = 2 ^ 53 * 2 ^ (970 + 1 + places) := by
    have hsplit : infinityMagnitude - 1 + 1 = 2045 * 2 ^ 52 + 2 ^ 53 := by decide
    rw [hsplit, hexponent]
    exact units_of_aligned ⟨by decide, fun _ => by decide⟩
  have hlimit : 1024 = 54 + 970 := rfl
  have hplace : (2 : ℚ) ^ places ≠ 0 := pow_ne_zero _ (by norm_num)
  rw [value, value, hlargest, hnext, overflow, hone, hlimit]
  generalize 970 = low
  push_cast
  rw [pow_add, ← mul_assoc, mul_div_cancel_right₀ _ hplace, ← mul_assoc,
    mul_div_cancel_right₀ _ hplace]
  ring

/-- The absolute value of a double is not further from a value that is not negative. -/
theorem abs_value_sub_le (x : Binary64) {exact : ℚ} (h : 0 ≤ exact) :
    |value x.magnitude - exact| ≤ |x.toRat - exact| := by
  have hnonneg := value_nonneg x.magnitude
  rw [toRat]
  split
  · rw [← neg_add', abs_neg, abs_of_nonneg (add_nonneg hnonneg h), abs_le]
    constructor
    · linarith
    · linarith
  · exact le_rfl

/-- Of two numbers the smaller one is as near to a value as the larger one exactly if the value is
not past the point half-way between them. -/
theorem left_nearer_iff {left right exact : ℚ} (h : left < right) :
    |left - exact| ≤ |right - exact| ↔ 2 * exact ≤ left + right := by
  have hsquares : (right - exact) ^ 2 - (left - exact) ^ 2 =
      (right - left) * (left + right - 2 * exact) := by ring
  rw [← sq_le_sq, ← sub_nonneg, hsquares, mul_nonneg_iff_of_pos_left (sub_pos.2 h), sub_nonneg]

/-- The larger one is as near as the smaller one exactly if the value is not before that point. -/
theorem right_nearer_iff {left right exact : ℚ} (h : left < right) :
    |right - exact| ≤ |left - exact| ↔ left + right ≤ 2 * exact := by
  have hsquares : (left - exact) ^ 2 - (right - exact) ^ 2 =
      (right - left) * (2 * exact - (left + right)) := by ring
  rw [← sq_le_sq, ← sub_nonneg, hsquares, mul_nonneg_iff_of_pos_left (sub_pos.2 h), sub_nonneg]

/-- Both are as near exactly at that point. -/
theorem equally_near_iff {left right exact : ℚ} (h : left < right) :
    |left - exact| = |right - exact| ↔ left + right = 2 * exact := by
  rw [le_antisymm_iff, left_nearer_iff h, right_nearer_iff h, and_comm, ← le_antisymm_iff]

namespace IsNearest

variable {x y : Binary64} {exact : ℚ}

/-- A nearest double is finite below the limit of overflow. -/
theorem is_finite (h : x.IsNearest exact) (hbelow : exact < overflow) : x.isFinite = true := by
  have hnan := h.is_nan_eq
  have hinfinite : ¬ x.isInfinite = true := by
    rw [h.is_infinite_iff, not_le]
    exact hbelow
  rw [isNaN, decide_eq_false_iff_not] at hnan
  rw [isInfinite, decide_eq_true_eq] at hinfinite
  rw [isFinite, decide_eq_true_eq]
  omega

/-- Of two nearest doubles none is smaller: both would have the even significand, and a double
between them would be nearer. -/
theorem magnitude_le (hx : x.IsNearest exact) (hy : y.IsNearest exact) (hbelow : exact < overflow) :
    y.magnitude ≤ x.magnitude := by
  by_contra hlt
  have hxFinite := hx.is_finite hbelow
  have hyFinite := hy.is_finite hbelow
  have hxRat := to_rat_of_positive hx.negative_eq
  have hyRat := to_rat_of_positive hy.negative_eq
  have hvalues : value x.magnitude < value y.magnitude := value_lt_value_iff.2 (by omega)
  have htie := le_antisymm (hx.nearest hxFinite y hyFinite) (hy.nearest hyFinite x hxFinite)
  have hxEven := hx.even_of_tie hxFinite y hyFinite (by rw [hxRat, hyRat]; exact hvalues.ne') htie
  have hyEven :=
    hy.even_of_tie hyFinite x hxFinite (by rw [hxRat, hyRat]; exact hvalues.ne) htie.symm
  rw [significand_mod_two] at hxEven hyEven
  have hlast : y.magnitude < infinityMagnitude := of_decide_eq_true hyFinite
  have hbits := y.magnitude_lt
  let between : Binary64 := ⟨false, x.magnitude + 1, by omega⟩
  have hbetweenFinite : between.isFinite = true := decide_eq_true (by
    show x.magnitude + 1 < infinityMagnitude
    omega)
  have hnearest := hx.nearest hxFinite between hbetweenFinite
  rw [hxRat, to_rat_of_positive (rfl : between.negative = false),
    left_nearer_iff (value_lt_value_iff.2 (Nat.lt_succ_self _))] at hnearest
  rw [hxRat, hyRat, equally_near_iff hvalues] at htie
  have hbehind : value (x.magnitude + 1) < value y.magnitude := value_lt_value_iff.2 (by omega)
  have hsum : value x.magnitude + value y.magnitude ≤
      value x.magnitude + value (x.magnitude + 1) := htie.trans_le hnearest
  linarith

/-- There is only one nearest double. -/
theorem unique (hx : x.IsNearest exact) (hy : y.IsNearest exact) : x = y := by
  have hmagnitude : x.magnitude = y.magnitude := by
    by_cases hbelow : exact < overflow
    · exact Nat.le_antisymm (magnitude_le hy hx hbelow) (magnitude_le hx hy hbelow)
    · have hxInfinite := hx.is_infinite_iff.2 (not_lt.1 hbelow)
      have hyInfinite := hy.is_infinite_iff.2 (not_lt.1 hbelow)
      rw [isInfinite, decide_eq_true_eq] at hxInfinite hyInfinite
      rw [hxInfinite, hyInfinite]
  exact eq_of_parts (hx.negative_eq.trans hy.negative_eq.symm) hmagnitude

end IsNearest

end Binary64

namespace Decimal

open Binary64

/-! ## Rounded decimals -/

variable {d : Decimal} {magnitude : Nat}

/-- No decimal has a negative value. -/
theorem value_nonneg (d : Decimal) : 0 ≤ d.value := by
  rw [value]
  positivity

/-- A decimal is rounded to a double behind a finite one exactly if its value is past the point
half-way to the next double, or at that point behind an odd significand. -/
theorem lt_to_binary64_iff (d : Decimal) (negative : Bool)
    (hfinite : magnitude < infinityMagnitude) :
    magnitude < (d.toBinary64 negative).magnitude ↔
      Binary64.value magnitude + Binary64.value (magnitude + 1) < 2 * d.value ∨
        Binary64.value magnitude + Binary64.value (magnitude + 1) = 2 * d.value ∧
          magnitude % 2 = 1 := by
  have hone : (0 : ℚ) < unitsInOne := by exact_mod_cast units_in_one_pos
  have hdenominator : (0 : ℚ) < d.denominator := by exact_mod_cast d.denominator_pos
  have hsum : Binary64.value magnitude + Binary64.value (magnitude + 1) =
      ((units magnitude + units (magnitude + 1) : ℕ) : ℚ) / unitsInOne := by
    rw [Binary64.value, Binary64.value, ← add_div, Nat.cast_add]
  have hvalue : 2 * d.value = ((2 * d.numerator : ℕ) : ℚ) / d.denominator := by
    rw [value_eq_ratio, Nat.cast_mul, Nat.cast_ofNat, mul_div_assoc]
  have hcomm : 2 * (d.numerator * unitsInOne) = 2 * d.numerator * unitsInOne := by ring
  rw [toBinary64, of_ratio_magnitude, magnitude_of_units_eq_min, lt_min_iff,
    and_iff_left hfinite, lt_unbounded_magnitude_iff d.denominator_pos, hsum, hvalue,
    div_lt_div_iff₀ hone hdenominator, div_eq_div_iff hone.ne' hdenominator.ne', hcomm]
  norm_cast

/-- No decimal is rounded past the infinity. -/
theorem to_binary64_le_infinity (d : Decimal) (negative : Bool) :
    (d.toBinary64 negative).magnitude ≤ infinityMagnitude :=
  magnitude_of_units_le _ _

/-- The value of a decimal is not before the point half-way from a smaller double to the one to
which it is rounded, and it is at that point only if the significand is even. -/
theorem half_way_le_value {negative : Bool} (h : magnitude < (d.toBinary64 negative).magnitude) :
    Binary64.value magnitude + Binary64.value (d.toBinary64 negative).magnitude ≤ 2 * d.value ∧
      (Binary64.value magnitude + Binary64.value (d.toBinary64 negative).magnitude = 2 * d.value →
        (d.toBinary64 negative).magnitude % 2 = 0) := by
  have hle := d.to_binary64_le_infinity negative
  have hfinite : (d.toBinary64 negative).magnitude - 1 < infinityMagnitude := by omega
  have hiff := d.lt_to_binary64_iff negative hfinite
  generalize (d.toBinary64 negative).magnitude = rounded at *
  have hbefore : Binary64.value magnitude ≤ Binary64.value (rounded - 1) :=
    value_le_value_iff.2 (by omega)
  have hback : rounded - 1 + 1 = rounded := Nat.sub_add_cancel (by omega)
  rw [hback] at hiff
  rcases hiff.1 (by omega) with hpast | ⟨hat, hodd⟩
  · exact ⟨by linarith, fun heq => by linarith⟩
  · exact ⟨by linarith, fun _ => by omega⟩

/-- The value of a decimal that is not rounded to infinity is not past the point half-way to a
larger double, and it is at that point only if the significand is even. -/
theorem value_le_half_way {negative : Bool} (h : (d.toBinary64 negative).magnitude < magnitude)
    (hfinite : (d.toBinary64 negative).magnitude < infinityMagnitude) :
    2 * d.value ≤ Binary64.value (d.toBinary64 negative).magnitude + Binary64.value magnitude ∧
      (Binary64.value (d.toBinary64 negative).magnitude + Binary64.value magnitude = 2 * d.value →
        (d.toBinary64 negative).magnitude % 2 = 0) := by
  have hiff := d.lt_to_binary64_iff negative hfinite
  generalize (d.toBinary64 negative).magnitude = rounded at *
  have hbehind : Binary64.value (rounded + 1) ≤ Binary64.value magnitude :=
    value_le_value_iff.2 (by omega)
  rw [iff_false_left (Nat.lt_irrefl rounded), not_or, not_lt, not_and] at hiff
  obtain ⟨hle, htie⟩ := hiff
  refine ⟨by linarith, fun heq => ?_⟩
  have heven := htie (by linarith)
  omega

/-- No other finite magnitude is nearer to the value of a decimal than the one to which it is
rounded, and another one is as near only if the significand is even. -/
theorem to_binary64_nearest {negative : Bool}
    (hfinite : (d.toBinary64 negative).magnitude < infinityMagnitude) (magnitude : Nat) :
    |Binary64.value (d.toBinary64 negative).magnitude - d.value| ≤
        |Binary64.value magnitude - d.value| ∧
      (magnitude ≠ (d.toBinary64 negative).magnitude →
        |Binary64.value (d.toBinary64 negative).magnitude - d.value| =
          |Binary64.value magnitude - d.value| →
        (d.toBinary64 negative).magnitude % 2 = 0) := by
  rcases Nat.lt_trichotomy magnitude (d.toBinary64 negative).magnitude with hlt | heq | hgt
  · obtain ⟨hle, heven⟩ := half_way_le_value hlt
    have hvalues := value_lt_value_iff.2 hlt
    refine ⟨(right_nearer_iff hvalues).2 hle, fun _ htie => ?_⟩
    exact heven ((equally_near_iff hvalues).1 htie.symm)
  · rw [← heq]
    exact ⟨le_rfl, fun hne => absurd rfl hne⟩
  · obtain ⟨hle, heven⟩ := value_le_half_way hgt hfinite
    have hvalues := value_lt_value_iff.2 hgt
    refine ⟨(left_nearer_iff hvalues).2 hle, fun _ htie => ?_⟩
    exact heven ((equally_near_iff hvalues).1 htie)

/-- A decimal is rounded to zero exactly up to the limit of underflow. -/
theorem to_binary64_eq_zero_iff (d : Decimal) (negative : Bool) :
    (d.toBinary64 negative).magnitude = 0 ↔ d.value ≤ underflow := by
  have hzero : Binary64.value 0 = 0 := by simp [Binary64.value, units]
  have hiff := d.lt_to_binary64_iff negative infinity_magnitude_pos
  rw [Nat.pos_iff_ne_zero, hzero, value_one, zero_add] at hiff
  rw [← not_iff_not, ← Ne, hiff, not_le]
  constructor
  · intro h
    rcases h with hpast | ⟨-, hodd⟩
    · linarith
    · cases hodd
  · intro h
    exact .inl (by linarith)

/-- A decimal is rounded to infinity exactly from the limit of overflow on. -/
theorem to_binary64_eq_infinity_iff (d : Decimal) (negative : Bool) :
    (d.toBinary64 negative).magnitude = infinityMagnitude ↔ overflow ≤ d.value := by
  have hle := d.to_binary64_le_infinity negative
  have hpos := infinity_magnitude_pos
  have hreached : (d.toBinary64 negative).magnitude = infinityMagnitude ↔
      infinityMagnitude - 1 < (d.toBinary64 negative).magnitude := by omega
  -- The largest finite double has an odd significand, so that the limit itself is rounded up.
  have hodd : (infinityMagnitude - 1) % 2 = 1 := by decide
  have hlast : infinityMagnitude - 1 < infinityMagnitude := Nat.sub_lt hpos Nat.one_pos
  rw [hreached, d.lt_to_binary64_iff negative hlast, value_last_add, and_iff_left hodd]
  constructor
  · intro h
    rcases h with hpast | hat
    · linarith
    · linarith
  · intro h
    rcases lt_or_eq_of_le h with hpast | hat
    · exact .inl (by linarith)
    · exact .inr (by linarith)

/-- A decimal is rounded to the double that is nearest to its value. -/
theorem to_binary64_is_nearest (d : Decimal) : (d.toBinary64 false).IsNearest d.value where
  negative_eq := rfl
  is_nan_eq := of_ratio_is_nan ..
  is_infinite_iff := by
    rw [isInfinite, decide_eq_true_eq]
    exact d.to_binary64_eq_infinity_iff false
  nearest := by
    intro hfinite y _
    rw [to_rat_of_positive rfl]
    exact (to_binary64_nearest (of_decide_eq_true hfinite) y.magnitude).1.trans
      (y.abs_value_sub_le d.value_nonneg)
  even_of_tie := by
    intro hfinite y _ hne htie
    obtain ⟨hnearest, heven⟩ := to_binary64_nearest (of_decide_eq_true hfinite) y.magnitude
    rw [to_rat_of_positive (rfl : (d.toBinary64 false).negative = false)] at hne htie
    rw [significand_mod_two]
    by_cases hmagnitude : y.magnitude = (d.toBinary64 false).magnitude
    · -- The opposite of a positive double is as near as the double itself only to zero.
      have hnegative : y.negative = true := by
        by_contra hpositive
        rw [Bool.not_eq_true] at hpositive
        exact hne (by rw [to_rat_of_positive hpositive, hmagnitude])
      rw [toRat, if_pos hnegative, hmagnitude] at hne htie
      have hpos : 0 < Binary64.value (d.toBinary64 false).magnitude := by
        refine lt_of_le_of_ne (Binary64.value_nonneg _) fun hzero => hne ?_
        rw [← hzero, neg_zero]
      have htwice := (equally_near_iff (neg_lt_self hpos)).1 htie.symm
      have hvalue : d.value = 0 := by linarith
      rw [(d.to_binary64_eq_zero_iff false).2 (hvalue.trans_le underflow_nonneg)]
    · exact heven hmagnitude (le_antisymm hnearest (htie ▸ y.abs_value_sub_le d.value_nonneg))

end Decimal

end ArithTokens
