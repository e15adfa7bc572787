import ArithTokens.Json.Reading
import ArithTokens.Proofs.Spelling

/-!
# Written numbers

Integers and doubles are written as digits behind a sign, with a fraction and an exponent where
there is one. This is the form that JSON gives to numbers (`Numeral.IsForm.is_number`), and reading
it gives the integer (`Numeral.read_integer_repr`) or the double (`Decimal.Style.read_write`) back,
the double with every bit of it.
-/

namespace ArithTokens

/-- The sign of a negative number; other numbers have none. -/
def signText (negative : Bool) : List Char := if negative then ['-'] else []

/-- Says that a text is a number of JSON: it can be read, and no zero stands in front of another
digit. -/
def Json.IsNumber (text : List Char) : Prop :=
  (∀ c ∈ text, isNumberChar c = true) ∧ (Numeral.read? text).isSome = true ∧
    hasPlainStart text = true

/-! ## The form of a number -/

namespace Numeral

/-- Says that a number and what is behind it are written as JSON asks for: there are digits on both
sides of the point, no zero stands in front of another digit, and behind the number there is
nothing or an exponent. -/
structure IsForm (number : NumberLexeme) (tail : List Char) (exponent : Int) : Prop where
  is_written : number.isWritten = true
  whole_ne_nil : number.whole ≠ []
  fraction_ne_nil : number.fraction? ≠ some []
  no_leading_zero : number.whole.head? ≠ some '0' ∨ number.whole.length = 1
  read_tail : readExponent? tail = some exponent
  tail_chars : ∀ c ∈ tail, Json.isNumberChar c = true

variable {number : NumberLexeme} {tail : List Char} {exponent : Int}

/-- An exponent does not make a number longer. -/
theorem IsForm.ends_before (h : IsForm number tail exponent) : number.EndsBefore tail := by
  refine NumberLexeme.ends_before_of_starts ?_
  intro c hc
  cases tail with
  | nil => cases hc
  | cons mark rest =>
    obtain rfl : mark = c := Option.some.inj hc
    have htail := h.read_tail
    rw [readExponent?] at htail
    split at htail
    · next hmark =>
      rw [Bool.or_eq_true, decide_eq_true_eq, decide_eq_true_eq] at hmark
      rcases hmark with rfl | rfl <;> rfl
    · cases htail

/-- A number of this form is read with its exponent. -/
theorem IsForm.read_unsigned (h : IsForm number tail exponent) :
    readUnsigned? (number.text ++ tail) =
      some ⟨number.decimal.coefficient, number.decimal.exponent + exponent⟩ :=
  NumberLexeme.read_unsigned_append h.is_written h.whole_ne_nil h.fraction_ne_nil h.ends_before
    h.read_tail

/-- A number of this form is one of JSON, with a sign as without one. -/
theorem IsForm.is_number (h : IsForm number tail exponent) (negative : Bool) :
    Json.IsNumber (signText negative ++ (number.text ++ tail)) := by
  have hread := h.read_unsigned
  refine ⟨?_, ?_, ?_⟩
  · intro c hc
    rw [List.mem_append, List.mem_append] at hc
    rcases hc with hc | hc | hc
    · cases negative with
      | true =>
        obtain rfl := List.mem_singleton.1 hc
        rfl
      | false => cases hc
    · have hstarts := NumberLexeme.starts_number_of_mem h.is_written c hc
      rw [startsNumber, Bool.or_eq_true, decide_eq_true_eq] at hstarts
      rcases hstarts with hdigit | rfl
      · simp [Json.isNumberChar, hdigit]
      · rfl
    · exact h.tail_chars c hc
  · rw [signText, NumberLexeme.read_signed negative hread]
    rfl
  · -- Behind the sign the digits before the point come first.
    have hstart : (signText negative ++ (number.text ++ tail)).dropWhile (· = '-') =
        number.text ++ tail := by
      obtain ⟨c, rest, htext, hdigit⟩ := NumberLexeme.head_of_read_unsigned hread
      have hminus : c ≠ '-' := ne_of_class hdigit rfl
      rw [htext]
      cases negative with
      | true => simp [signText, hminus]
      | false => simp [signText, hminus]
    have hwhole : (number.text ++ tail).takeWhile Char.isDigit = number.whole :=
      congrArg NumberLexeme.whole (NumberLexeme.read_append h.is_written h.ends_before)
    simp only [Json.hasPlainStart, hstart, hwhole]
    simpa using h.no_leading_zero

/-! ## Naturals and integers -/

/-- The digits of a natural number are read as the number. -/
theorem read_natural_digits (n : Nat) : readNatural? (Nat.toDigits 10 n) = some n := by
  have hall : (Nat.toDigits 10 n).all Char.isDigit = true :=
    List.all_eq_true.2 is_digit_of_mem_digits
  rw [readNatural?, if_pos ⟨Nat.toDigits_ne_nil, hall⟩, Nat.ofDigitChars_ten_toDigits]

/-- Digits without a sign are read as a number that is not negative. -/
theorem read_integer_digits (n : Nat) : readInteger? (Nat.toDigits 10 n) = some (n : Int) := by
  have hnatural := read_natural_digits n
  have hall : ∀ c ∈ Nat.toDigits 10 n, c.isDigit = true := is_digit_of_mem_digits
  cases hdigits : Nat.toDigits 10 n with
  | nil => exact absurd hdigits Nat.toDigits_ne_nil
  | cons c rest =>
    rw [hdigits] at hnatural hall
    have hdigit := hall c List.mem_cons_self
    have hminus : c ≠ '-' := ne_of_class hdigit rfl
    have hplus : c ≠ '+' := ne_of_class hdigit rfl
    rw [readInteger?, if_neg hminus, if_neg hplus, hnatural]
    rfl

/-- Digits behind a minus sign are read as the negated number. -/
theorem read_integer_minus (n : Nat) :
    readInteger? ('-' :: Nat.toDigits 10 n) = some (-n : Int) := by
  rw [readInteger?, if_pos rfl, read_natural_digits]
  rfl

/-- Digits behind a plus sign are read as the number. -/
theorem read_integer_plus (n : Nat) :
    readInteger? ('+' :: Nat.toDigits 10 n) = some (n : Int) := by
  rw [readInteger?, if_neg (by decide), if_pos rfl, read_natural_digits]
  rfl

/-- An integer is written as its sign and the digits of its absolute value. -/
theorem repr_to_list (n : Int) :
    n.repr.toList = signText (decide (n < 0)) ++ Nat.toDigits 10 n.natAbs := by
  rw [Int.repr_eq_if]
  split
  · next h =>
    have hpositive : ¬ n < 0 := by omega
    have habs : n.toNat = n.natAbs := by omega
    simp [signText, hpositive, Nat.toList_repr, habs]
  · next h =>
    have hnegative : n < 0 := by omega
    have habs : (-n).toNat = n.natAbs := by omega
    simp [signText, hnegative, Nat.toList_repr, habs]

/-- The text of an integer is read as the integer. -/
theorem read_integer_repr (n : Int) : readInteger? n.repr.toList = some n := by
  rw [repr_to_list]
  by_cases h : n < 0
  · have habs : -(n.natAbs : Int) = n := by omega
    simp only [h, decide_true, signText, ↓reduceIte, List.cons_append, List.nil_append]
    rw [read_integer_minus, habs]
  · have habs : (n.natAbs : Int) = n := by omega
    simp only [h, decide_false, signText, Bool.false_eq_true, ↓reduceIte, List.nil_append]
    rw [read_integer_digits, habs]

/-- The digits of a positive number do not start with a zero. -/
theorem head_digits_ne_zero {n : Nat} (hpos : 0 < n) : (Nat.toDigits 10 n).head? ≠ some '0' := by
  induction n using Nat.strongRecOn with
  | ind n ih =>
    by_cases hsmall : n < 10
    · rw [Nat.toDigits_of_lt_base hsmall]
      have hall : ∀ digit < 10, 0 < digit → digit.digitChar ≠ '0' := by decide
      simpa using hall n hsmall hpos
    · rw [Nat.toDigits_of_base_le (by decide) (by omega),
        List.head?_append_of_ne_nil _ Nat.toDigits_ne_nil]
      exact ih (n / 10) (by omega) (by omega)

/-- The digits of a natural number are of the form that JSON asks for. -/
theorem digits_form (n : Nat) : IsForm ⟨Nat.toDigits 10 n, none⟩ [] 0 where
  is_written := NumberLexeme.digits_is_written n
  whole_ne_nil := Nat.toDigits_ne_nil
  fraction_ne_nil := by simp
  no_leading_zero := by
    rcases Nat.eq_zero_or_pos n with rfl | hpos
    · exact .inr rfl
    · exact .inl (head_digits_ne_zero hpos)
  read_tail := rfl
  tail_chars := by simp

/-- The text of an integer is a number of JSON. -/
theorem repr_is_number (n : Int) : Json.IsNumber n.repr.toList := by
  have hnumber := (digits_form n.natAbs).is_number (decide (n < 0))
  rw [NumberLexeme.text, List.append_nil, List.append_nil] at hnumber
  rw [repr_to_list]
  exact hnumber

end Numeral

/-! ## Decimals -/

namespace Decimal

/-- The digits of a decimal are at least one. -/
theorem digits_ne_nil (d : Decimal) : d.digits ≠ [] := Nat.toDigits_ne_nil

/-- A decimal above zero does not start with a zero. -/
theorem head_digits {d : Decimal} (hpos : d.coefficient ≠ 0) : d.digits.head? ≠ some '0' :=
  Numeral.head_digits_ne_zero (Nat.pos_of_ne_zero hpos)

/-- A plainly written decimal is of the form that JSON asks for, if a zero has no exponent that
would write more zeros. -/
theorem plain_form {d : Decimal} (hzero : d.coefficient = 0 → d.exponent = 0) :
    Numeral.IsForm d.plainNumber [] 0 where
  is_written := d.plain_number_is_written
  whole_ne_nil := by
    have hdigits := d.digits_ne_nil
    unfold plainNumber
    dsimp only
    split
    · simp [hdigits]
    · split
      · next hlength =>
        have hpos : d.digits.length - (-d.exponent).toNat ≠ 0 := by omega
        simp [hdigits, hpos]
      · simp
  fraction_ne_nil := by
    have hdigits := d.digits_ne_nil
    unfold plainNumber
    dsimp only
    split
    · simp
    · split
      · simp only [ne_eq, Option.some.injEq, List.drop_eq_nil_iff]
        omega
      · simp [hdigits]
  no_leading_zero := by
    have hdigits := d.digits_ne_nil
    by_cases hcoefficient : d.coefficient = 0
    · have hexponent := hzero hcoefficient
      right
      simp [plainNumber, hexponent, digits, hcoefficient]
    · have hhead := head_digits hcoefficient
      unfold plainNumber
      dsimp only
      split
      · left
        rwa [List.head?_append_of_ne_nil _ hdigits]
      · split
        · left
          have hpos : d.digits.length - (-d.exponent).toNat ≠ 0 := by omega
          rwa [List.head?_take, if_neg hpos]
        · exact .inr rfl
  read_tail := rfl
  tail_chars := by simp

/-- The first digit, and the others as a fraction if there are any. -/
def scientificNumber (d : Decimal) : NumberLexeme where
  whole := d.digits.take 1
  fraction? := if d.digits.length = 1 then none else some (d.digits.drop 1)

/-- The exponent behind its mark. -/
def exponentText (plus : List Char) (d : Decimal) : List Char :=
  'e' :: ((if d.leading < 0 then ['-'] else plus) ++ Nat.toDigits 10 d.leading.natAbs)

/-- These are the characters that are written with an exponent. -/
theorem scientific_eq (plus : List Char) (d : Decimal) :
    d.scientific plus = d.scientificNumber.text ++ d.exponentText plus := by
  unfold scientific scientificNumber exponentText NumberLexeme.text
  dsimp only
  split
  · next hlength =>
    have hdrop : d.digits.drop 1 = [] := List.drop_eq_nil_of_le (by omega)
    simp [hdrop]
  · simp

/-- With its exponent the number is the decimal. -/
theorem scientific_decimal (d : Decimal) :
    (⟨d.scientificNumber.decimal.coefficient,
      d.scientificNumber.decimal.exponent + d.leading⟩ : Decimal) = d := by
  have hlength : 0 < d.digits.length := List.length_pos_iff.2 d.digits_ne_nil
  have hfraction : d.scientificNumber.fraction?.getD [] = d.digits.drop 1 := by
    unfold scientificNumber
    dsimp only
    split
    · next hone => exact (List.drop_eq_nil_of_le (by omega)).symm
    · rfl
  have hcoefficient : d.scientificNumber.decimal.coefficient = d.coefficient := by
    rw [NumberLexeme.decimal, hfraction]
    show Nat.ofDigitChars 10 (d.digits.take 1 ++ d.digits.drop 1) 0 = d.coefficient
    rw [List.take_append_drop, of_digits]
  have hexponent : d.scientificNumber.decimal.exponent + d.leading = d.exponent := by
    show -((d.scientificNumber.fraction?.getD []).length : Int) + d.leading = d.exponent
    rw [hfraction, leading, List.length_drop]
    omega
  rw [hcoefficient, hexponent]

/-- A decimal written with an exponent is of the form that JSON asks for. -/
theorem scientific_form {plus : List Char} (hplus : plus = [] ∨ plus = ['+']) (d : Decimal) :
    Numeral.IsForm d.scientificNumber (d.exponentText plus) d.leading where
  is_written := by
    refine NumberLexeme.isWritten_iff.2 ⟨?_, ?_, ?_⟩
    · exact fun c hc => d.digits_all c (List.mem_of_mem_take hc)
    · intro c hc
      unfold scientificNumber at hc
      dsimp only at hc
      split at hc
      · cases hc
      · exact d.digits_all c (List.mem_of_mem_drop hc)
    · simp [NumberLexeme.text, scientificNumber, d.digits_ne_nil]
  whole_ne_nil := by simp [scientificNumber, d.digits_ne_nil]
  fraction_ne_nil := by
    have hlength : 0 < d.digits.length := List.length_pos_iff.2 d.digits_ne_nil
    unfold scientificNumber
    dsimp only
    split
    · simp
    · simp only [ne_eq, Option.some.injEq, List.drop_eq_nil_iff]
      omega
  no_leading_zero := by
    have hlength : 0 < d.digits.length := List.length_pos_iff.2 d.digits_ne_nil
    right
    rw [scientificNumber, List.length_take]
    omega
  read_tail := by
    show Numeral.readInteger? ((if d.leading < 0 then ['-'] else plus) ++ _) = _
    split
    · next hnegative =>
      have habs : -(d.leading.natAbs : Int) = d.leading := by omega
      show Numeral.readInteger? ('-' :: Nat.toDigits 10 d.leading.natAbs) = _
      rw [Numeral.read_integer_minus, habs]
    · next hpositive =>
      have habs : (d.leading.natAbs : Int) = d.leading := by omega
      rcases hplus with rfl | rfl
      · rw [List.nil_append, Numeral.read_integer_digits, habs]
      · show Numeral.readInteger? ('+' :: Nat.toDigits 10 d.leading.natAbs) = _
        rw [Numeral.read_integer_plus, habs]
  tail_chars := by
    intro c hc
    rw [exponentText, List.mem_cons, List.mem_append] at hc
    rcases hc with rfl | hc | hc
    · rfl
    · split at hc
      · obtain rfl := List.mem_singleton.1 hc
        rfl
      · rcases hplus with rfl | rfl
        · cases hc
        · obtain rfl := List.mem_singleton.1 hc
          rfl
    · simp [Json.isNumberChar, is_digit_of_mem_digits c hc]

/-! ## Doubles -/

/-- A shortest decimal that is zero has no exponent. -/
theorem shortest_exponent {magnitude : Nat} (tie : Tie)
    (hfinite : magnitude < Binary64.infinityMagnitude)
    (h : (shortest tie magnitude).coefficient = 0) : (shortest tie magnitude).exponent = 0 := by
  rcases Nat.eq_zero_or_pos magnitude with rfl | hpos
  · rfl
  · have hcoefficient := shortest_coefficient_pos tie hfinite hpos
    omega

namespace Style

variable {style : Style} {x : Binary64}

/-- In every format decimals are written in the form that JSON asks for, and keep their value. -/
theorem decimal_form (hplus : style.plus = [] ∨ style.plus = ['+']) {d : Decimal}
    (hzero : d.coefficient = 0 → d.exponent = 0) :
    ∃ number tail exponent, Numeral.IsForm number tail exponent ∧
      style.decimal d = number.text ++ tail ∧
      value ⟨number.decimal.coefficient, number.decimal.exponent + exponent⟩ = d.value := by
  rw [decimal]
  split
  · refine ⟨d.plainNumber, [], 0, plain_form hzero, ?_, ?_⟩
    · rw [plain_number_text, List.append_nil]
    · rw [Int.add_zero]
      exact d.plain_number_value
  · refine ⟨d.scientificNumber, d.exponentText style.plus, d.leading, scientific_form hplus d,
      d.scientific_eq style.plus, ?_⟩
    rw [scientific_decimal]

/-- A finite double is written as a number of JSON. -/
theorem write_is_number (hplus : style.plus = [] ∨ style.plus = ['+'])
    (hfinite : x.isFinite = true) : Json.IsNumber (style.write x) := by
  obtain ⟨number, tail, exponent, hform, htext, -⟩ :=
    decimal_form hplus (shortest_exponent style.tie (of_decide_eq_true hfinite))
  rw [write, htext]
  exact hform.is_number x.negative

/-- What is written for a finite double is read as this double. -/
theorem read_write (hplus : style.plus = [] ∨ style.plus = ['+']) (hfinite : x.isFinite = true) :
    (Numeral.read? (style.write x)).map Numeral.toBinary64 = some x := by
  obtain ⟨number, tail, exponent, hform, htext, hvalue⟩ :=
    decimal_form hplus (shortest_exponent style.tie (of_decide_eq_true hfinite))
  rw [write, htext, NumberLexeme.read_signed x.negative hform.read_unsigned, Option.map_some,
    Numeral.toBinary64, to_binary64_congr x.negative hvalue,
    shortest_to_binary64 style.tie hfinite]

end Style

end Decimal

end ArithTokens
