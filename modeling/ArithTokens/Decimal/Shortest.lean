import ArithTokens.Decimal

/-!
# The shortest decimal of a double

Of the decimals that round to a given double, the one with the fewest digits, and of those the one
nearest to the double. Every double is a whole multiple of `10 ^ -1074`, so its exact expansion is
one natural number, and the decimals with fewer digits are the multiples of a power of ten in the
same scale. `shortest` tries the grids from the coarsest down; on each grid only the two points
around the double can be nearest, and on the finest grid the double itself is a point, so the
search always ends.
-/

namespace ArithTokens.Decimal

/-- Which of two equally near decimals is taken: the larger one or the one with the even last
digit. -/
inductive Tie where
  | up
  | even
deriving DecidableEq, Repr

/-- The point taken when `below` and `below + 1` are equally near. -/
def Tie.choose : Tie → Nat → Nat
  | .up, below => below + 1
  | .even, below => below + below % 2

/-- A rule on ties takes one of the two points. -/
theorem Tie.choose_eq (tie : Tie) (below : Nat) :
    tie.choose below = below ∨ tie.choose below = below + 1 := by
  cases tie with
  | up => exact .inr rfl
  | even => rcases Nat.mod_two_eq_zero_or_one below with h | h <;> simp [Tie.choose, h]

/-- The nearer of `below` and `below + 1` to a value that lies `rest / step` above `below`. -/
def Tie.nearer (tie : Tie) (below rest step : Nat) : Nat :=
  if 2 * rest < step then below
  else if step < 2 * rest then below + 1
  else tie.choose below

/-- The nearer point is one of the two. -/
theorem Tie.nearer_eq (tie : Tie) (below rest step : Nat) :
    tie.nearer below rest step = below ∨ tie.nearer below rest step = below + 1 := by
  unfold Tie.nearer
  split
  · exact .inl rfl
  · split
    · exact .inr rfl
    · exact tie.choose_eq below

/-- Every double is a whole multiple of `10 ^ -1074`, as `2 ^ -1074 = 5 ^ 1074 * 10 ^ -1074`. -/
@[irreducible] def unitScale : Nat := Nat.pow 5 1074

/-- The absolute value of a finite magnitude, counted in `10 ^ -1074`. -/
def expansion (magnitude : Nat) : Nat := Binary64.units magnitude * unitScale

/-- Says that `point * 10 ^ (grid - 1074)` rounds to the magnitude. -/
def readsBack (magnitude grid point : Nat) : Bool :=
  Binary64.magnitudeOfUnits (point * Nat.pow 10 grid) unitScale = magnitude

/-- The point of a grid that is nearest to a magnitude among those that read back, if any does. -/
def nearest? (tie : Tie) (magnitude grid : Nat) : Option Nat :=
  let step := Nat.pow 10 grid
  let below := expansion magnitude / step
  if readsBack magnitude grid below then
    if readsBack magnitude grid (below + 1) then
      some (tie.nearer below (expansion magnitude % step) step)
    else some below
  else if readsBack magnitude grid (below + 1) then some (below + 1)
  else none

/-- The point found on the first grid at or below `grid` that has one. The finest grid holds the
magnitude itself. -/
def search (tie : Tie) (magnitude : Nat) : (grid : Nat) → Decimal
  | 0 => ⟨expansion magnitude, -1074⟩
  | grid + 1 =>
    ((nearest? tie magnitude (grid + 1)).map fun point => ⟨point, (grid + 1 : Nat) - 1074⟩).getD
      (search tie magnitude grid)

/-- At least as many as the decimal digits of a number: with `b` bits it has at most
`b * 28 / 93 + 1` of them, as `2 ^ 93 < 10 ^ 28`. -/
def digitBound (n : Nat) : Nat := (n.log2 + 1) * 28 / 93 + 1

/-- The shortest decimal of a finite magnitude, nearest first; `tie` decides between two equally
near ones. The search starts on a grid that has no positive point below the expansion. -/
def shortest (tie : Tie) (magnitude : Nat) : Decimal :=
  if magnitude = 0 then ⟨0, 0⟩ else search tie magnitude (digitBound (expansion magnitude))

/-- A point that is found reads back. -/
theorem reads_back_of_nearest {tie : Tie} {magnitude grid point : Nat}
    (h : nearest? tie magnitude grid = some point) : readsBack magnitude grid point = true := by
  simp only [nearest?] at h
  split at h
  · next hbelow =>
    split at h
    · next habove =>
      obtain rfl := Option.some.inj h
      rcases tie.nearer_eq (expansion magnitude / Nat.pow 10 grid)
        (expansion magnitude % Nat.pow 10 grid) (Nat.pow 10 grid) with hpoint | hpoint
      · rw [hpoint]
        exact hbelow
      · rw [hpoint]
        exact habove
    · obtain rfl := Option.some.inj h
      exact hbelow
  · split at h
    · next habove =>
      obtain rfl := Option.some.inj h
      exact habove
    · cases h

end ArithTokens.Decimal
