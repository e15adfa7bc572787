/-!
# Binary64 numbers

A double is its sign bit and the other 63 bits of its encoding, read as one natural number: its
*magnitude*. Magnitudes order the absolute values, so the next double after a magnitude `m` is
`m + 1`, and the infinity is the first magnitude above every finite one. `units` gives the absolute
value of a finite magnitude as a multiple of the smallest positive double, `1 / (1 <<< 1074)`.

Equality `==` is that of IEEE 754: a NaN equals nothing and the two zeros are equal. Propositional
equality `=` is equality of encodings.
-/

namespace ArithTokens

/-- A binary64 number: the sign bit of its encoding and the 63 bits below it. -/
structure Binary64 where
  negative : Bool
  magnitude : Nat
  magnitude_lt : magnitude < 1 <<< 63
deriving DecidableEq, Repr

namespace Binary64

/-- The magnitude of the infinities: every exponent bit is set and no fraction bit. -/
def infinityMagnitude : Nat := 2047 <<< 52

/-- The positive zero. -/
def zero : Binary64 := ⟨false, 0, by decide⟩

instance : Inhabited Binary64 := ⟨zero⟩

/-- The positive infinity. -/
def infinity : Binary64 := ⟨false, infinityMagnitude, by decide⟩

/-- The finite numbers are those below the infinities in magnitude. -/
def isFinite (x : Binary64) : Bool := x.magnitude < infinityMagnitude

/-- The infinity of either sign. -/
def isInfinite (x : Binary64) : Bool := x.magnitude = infinityMagnitude

/-- Every magnitude above the infinities encodes "not a number". -/
def isNaN (x : Binary64) : Bool := infinityMagnitude < x.magnitude

/-- The absolute value of a finite magnitude, counted in the smallest positive double. With a zero
exponent field the fraction counts; otherwise the fraction has a leading bit and the exponent field,
less one, says how often it is doubled. -/
def units (magnitude : Nat) : Nat :=
  let field := magnitude >>> 52
  let fraction := magnitude % (1 <<< 52)
  if field = 0 then fraction else ((1 <<< 52) + fraction) <<< (field - 1)

/-- The number with these 64 bits. -/
def ofBits (bits : UInt64) : Binary64 where
  negative := 1 <<< 63 ≤ bits.toNat
  magnitude := bits.toNat % (1 <<< 63)
  magnitude_lt := Nat.mod_lt _ (by decide)

/-- The 64 bits of a number. -/
def toBits (x : Binary64) : UInt64 :=
  UInt64.ofNat ((if x.negative then 1 <<< 63 else 0) + x.magnitude)

/-- Equality of values: a NaN is unequal to everything and the zeros are equal to each other. -/
instance : BEq Binary64 where
  beq x y :=
    !x.isNaN && !y.isNaN &&
      ((x.magnitude = 0 && y.magnitude = 0) ||
        (x.negative = y.negative && x.magnitude = y.magnitude))

/-- Numbers with one sign and one magnitude are the same. -/
theorem eq_of_parts {x y : Binary64} (hsign : x.negative = y.negative)
    (hmagnitude : x.magnitude = y.magnitude) : x = y := by
  cases x
  cases y
  simp_all

/-- Two numbers are equal values exactly when neither is a NaN and they are both zero or have the
same encoding. -/
theorem beq_iff {x y : Binary64} :
    (x == y) = true ↔
      x.isNaN = false ∧ y.isNaN = false ∧ ((x.magnitude = 0 ∧ y.magnitude = 0) ∨ x = y) := by
  cases x
  cases y
  simp [BEq.beq, and_assoc]

/-- Reading back the bits of a number gives the number. -/
theorem of_bits_to_bits (x : Binary64) : ofBits x.toBits = x := by
  obtain ⟨negative, magnitude, hlt⟩ := x
  cases negative with
  | false => simp [ofBits, toBits] at *; omega
  | true => simp [ofBits, toBits] at *; omega

/-- A magnitude without an exponent field counts its own units. -/
theorem units_of_lt {magnitude : Nat} (h : magnitude < 1 <<< 52) : units magnitude = magnitude := by
  have hfield : magnitude >>> 52 = 0 := by
    rw [Nat.shiftRight_eq_div_pow]
    exact Nat.div_eq_of_lt h
  simp only [units, hfield, Nat.mod_eq_of_lt h, ↓reduceIte]

end Binary64

end ArithTokens
