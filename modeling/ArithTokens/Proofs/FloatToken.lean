import ArithTokens.Proofs.Nearest
import ArithTokens.Proofs.Scanning

/-!
# The token of a number with a point

A number with a point is turned into the double nearest to its exact value, however many digits it
has (`fraction_token_nearest`). Nothing but the exact value counts, so that zeros before the first
digit and behind the last one may be written or left out.
-/

namespace ArithTokens

namespace NumberLexeme

/-- The number that is written with digits before and behind a point. -/
def pointValue (whole fraction : List Char) : ℚ :=
  Nat.ofDigitChars 10 (whole ++ fraction) 0 / 10 ^ fraction.length

/-- The decimal of a number with a point has its exact value. -/
theorem decimal_value (whole fraction : List Char) :
    (decimal ⟨whole, some fraction⟩).value = pointValue whole fraction := by
  rw [Decimal.value, pointValue, div_eq_mul_inv, ← zpow_natCast, ← zpow_neg]
  rfl

/-- Zeros in front of the digits and behind them do not change the number. -/
theorem point_value_zeros (whole fraction : List Char) (leading trailing : Nat) :
    pointValue (List.replicate leading '0' ++ whole) (fraction ++ List.replicate trailing '0') =
      pointValue whole fraction := by
  have hdigits : Nat.ofDigitChars 10
      (List.replicate leading '0' ++ whole ++ (fraction ++ List.replicate trailing '0')) 0 =
        10 ^ trailing * Nat.ofDigitChars 10 (whole ++ fraction) 0 := by
    rw [← List.append_assoc, Nat.ofDigitChars_append, Nat.ofDigitChars_replicate_zero,
      List.append_assoc, Nat.ofDigitChars_append, Nat.ofDigitChars_replicate_zero, Nat.mul_zero]
  rw [pointValue, pointValue, hdigits, List.length_append, List.length_replicate, pow_add]
  push_cast
  rw [mul_comm ((10 : ℚ) ^ fraction.length), mul_div_mul_left _ _ (pow_ne_zero _ (by norm_num))]

variable {whole fraction : List Char}

/-- Digits with a point between them are a number. -/
theorem point_is_written (hwhole : ∀ c ∈ whole, c.isDigit = true)
    (hfraction : ∀ c ∈ fraction, c.isDigit = true) :
    isWritten ⟨whole, some fraction⟩ = true :=
  isWritten_iff.2 ⟨hwhole, hfraction, by simp [text]⟩

/-- A number with a point is written as its digits with the point between them. -/
theorem text_of_point (whole fraction : List Char) :
    text ⟨whole, some fraction⟩ = whole ++ '.' :: fraction := rfl

/-- The token of a number with a point is the double to which its decimal is rounded. -/
theorem token_of_point (whole fraction : List Char) :
    token ⟨whole, some fraction⟩ =
      .float ((decimal ⟨whole, some fraction⟩).toBinary64 false) := rfl

/-- This token is the one that is read. -/
theorem token_eq_of_point (hwhole : ∀ c ∈ whole, c.isDigit = true)
    (hfraction : ∀ c ∈ fraction, c.isDigit = true) :
    token? ⟨whole, some fraction⟩ =
      some (.float ((decimal ⟨whole, some fraction⟩).toBinary64 false)) :=
  token_eq (point_is_written hwhole hfraction)

/-- A text that is one number has the token of this number. -/
theorem tokenize_number {number : NumberLexeme} (name : String) (h : number.isWritten = true) :
    tokenize name (String.ofList number.text) = .ok [number.token] := by
  have hmaximal : Layout.IsMaximal ⟨[], [(.number number, [])]⟩ := by
    refine ⟨rfl, h, ?_, rfl, trivial⟩
    intro c hc
    cases hc
  have htext : Layout.text ⟨[], [(.number number, [])]⟩ = (String.ofList number.text).toList := by
    rw [String.toList_ofList]
    simp [Layout.text, Lexeme.text]
  exact tokenize_of_layout name hmaximal htext

/-- A text of digits with a point between them has one token. -/
theorem tokenize_point (name : String) (hwhole : ∀ c ∈ whole, c.isDigit = true)
    (hfraction : ∀ c ∈ fraction, c.isDigit = true) :
    tokenize name (String.ofList (whole ++ '.' :: fraction)) =
      .ok [.float ((decimal ⟨whole, some fraction⟩).toBinary64 false)] := by
  have htokens := tokenize_number name (point_is_written hwhole hfraction)
  rw [text_of_point, token_of_point] at htokens
  exact htokens

end NumberLexeme

open Binary64 NumberLexeme

/-- Digits with a point between them, on either side of which there may be none, are the token of
the double that is nearest to the number they write: the one with the even significand if two are as
near, zero up to half the smallest double, and infinity from half a spacing above the largest finite
one. Numbers that are equal have equal tokens, so that zeros in front and behind do not count. -/
theorem fraction_token_nearest {whole fraction : List Char}
    (hwhole : ∀ c ∈ whole, c.isDigit = true) (hfraction : ∀ c ∈ fraction, c.isDigit = true) :
    ∃ x : Binary64,
      token? ⟨whole, some fraction⟩ = some (.float x) ∧
      (∀ name, tokenize name (String.ofList (whole ++ '.' :: fraction)) = .ok [.float x]) ∧
      (∀ y : Binary64, y.IsNearest (pointValue whole fraction) ↔ y = x) ∧
      (x = .zero ↔ pointValue whole fraction ≤ 1 / 2 ^ 1075) ∧
      (x = .infinity ↔ 2 ^ 1024 - 2 ^ 970 ≤ pointValue whole fraction) ∧
      x.negative = false ∧ x.isNaN = false ∧
      (∀ otherWhole otherFraction : List Char, (∀ c ∈ otherWhole, c.isDigit = true) →
        (∀ c ∈ otherFraction, c.isDigit = true) →
        pointValue otherWhole otherFraction = pointValue whole fraction →
        token? ⟨otherWhole, some otherFraction⟩ = some (.float x)) ∧
      ∀ leading trailing : Nat,
        token? ⟨List.replicate leading '0' ++ whole,
          some (fraction ++ List.replicate trailing '0')⟩ = some (.float x) := by
  have hvalue := decimal_value whole fraction
  have hnearest := (decimal ⟨whole, some fraction⟩).to_binary64_is_nearest
  rw [hvalue] at hnearest
  have hequal : ∀ otherWhole otherFraction : List Char, (∀ c ∈ otherWhole, c.isDigit = true) →
      (∀ c ∈ otherFraction, c.isDigit = true) →
      pointValue otherWhole otherFraction = pointValue whole fraction →
      token? ⟨otherWhole, some otherFraction⟩ =
        some (.float ((decimal ⟨whole, some fraction⟩).toBinary64 false)) := by
    intro otherWhole otherFraction hotherWhole hotherFraction hsame
    rw [token_eq_of_point hotherWhole hotherFraction]
    rw [← decimal_value, ← hvalue] at hsame
    rw [Decimal.to_binary64_congr false hsame]
  refine ⟨_, token_eq_of_point hwhole hfraction, ?_, ?_, ?_, ?_, rfl, hnearest.is_nan_eq, hequal,
    ?_⟩
  · intro name
    exact tokenize_point name hwhole hfraction
  · intro y
    constructor
    · intro hy
      exact hy.unique hnearest
    · intro hy
      exact hy ▸ hnearest
  · show _ ↔ pointValue whole fraction ≤ underflow
    rw [← hvalue, ← Decimal.to_binary64_eq_zero_iff _ false]
    exact ⟨congrArg magnitude, fun h => eq_of_parts hnearest.negative_eq h⟩
  · show _ ↔ overflow ≤ pointValue whole fraction
    rw [← hvalue, ← Decimal.to_binary64_eq_infinity_iff _ false]
    exact ⟨congrArg magnitude, fun h => eq_of_parts hnearest.negative_eq h⟩
  · intro leading trailing
    have hzero : ∀ count, ∀ c ∈ List.replicate count '0', c.isDigit = true := by
      intro count c hc
      rw [List.eq_of_mem_replicate hc]
      rfl
    refine hequal _ _ ?_ ?_ (point_value_zeros whole fraction leading trailing)
    · intro c hc
      exact (List.mem_append.1 hc).elim (hzero leading c) (hwhole c)
    · intro c hc
      exact (List.mem_append.1 hc).elim (hfraction c) (hzero trailing c)

/-- The first whole number that is no double is half-way between two doubles, and the one with the
even significand is taken, with any number of zeros in front of it and behind its point. -/
theorem fraction_token_half_way :
    let whole := "9007199254740993".toList
    let even : Binary64 := .ofBits 0x4340000000000000
    (∀ y : Binary64, y.IsNearest 9007199254740993 ↔ y = even) ∧
      ∀ leading trailing : Nat,
        token? ⟨List.replicate leading '0' ++ whole, some (List.replicate trailing '0')⟩ =
          some (.float even) := by
  intro whole even
  have hwhole : ∀ c ∈ whole, c.isDigit = true := List.all_eq_true.1 (by decide +kernel)
  have hfraction : ∀ c ∈ ([] : List Char), c.isDigit = true := by
    intro c hc
    cases hc
  have hvalue : pointValue whole [] = 9007199254740993 := by
    have hdigits : Nat.ofDigitChars 10 (whole ++ []) 0 = 9007199254740993 := by decide +kernel
    rw [pointValue, hdigits]
    norm_num
  obtain ⟨x, htoken, -, hnearest, -, -, -, -, -, hzeros⟩ :=
    fraction_token_nearest hwhole hfraction
  have heven : token? ⟨whole, some []⟩ = some (.float even) := by decide +kernel
  obtain rfl : even = x := by simpa [heven] using htoken
  rw [hvalue] at hnearest
  exact ⟨hnearest, hzeros⟩

end ArithTokens
