import ArithTokens.Lexeme
import ArithTokens.Proofs.Value

/-!
# Numbers in a text

A number in a text is a run of digits with at most one point, and it goes on as long as it can.
`NumberLexeme.read_append` says that a number that cannot go on into the text behind it is the one
that is read, and `NumberLexeme.token_eq` that every number is turned into its token: an integer, or
the double nearest to its decimal, for which it does not matter that a missing side of the point is
filled with a zero.
-/

namespace ArithTokens

/-- A run of characters of one class in front of something else is taken up to there. -/
theorem take_while_append {p : Char → Bool} {run rest : List Char}
    (hrun : ∀ c ∈ run, p c = true) (hrest : ∀ c ∈ rest.head?, p c = false) :
    (run ++ rest).takeWhile p = run := by
  rw [List.takeWhile_append_of_pos hrun]
  cases rest with
  | nil => simp
  | cons c rest => simp [hrest c rfl]

/-- What is left behind a run of characters of one class is what follows it. -/
theorem drop_while_append {p : Char → Bool} {run rest : List Char}
    (hrun : ∀ c ∈ run, p c = true) (hrest : ∀ c ∈ rest.head?, p c = false) :
    (run ++ rest).dropWhile p = rest := by
  rw [List.dropWhile_append_of_pos hrun]
  cases rest with
  | nil => simp
  | cons c rest => simp [hrest c rfl]

/-- A property of a character is one of the head of a text that starts with it. -/
theorem of_head_cons {p : Char → Prop} {c : Char} {rest : List Char} (h : p c) :
    ∀ d ∈ (c :: rest).head?, p d := by
  intro d hd
  obtain rfl : c = d := Option.some.inj hd
  exact h

/-- A character of a class is none outside of it. -/
theorem ne_of_class {p : Char → Bool} {c d : Char} (hc : p c = true) (hd : p d = false) :
    c ≠ d := by
  intro heq
  rw [heq, hd] at hc
  cases hc

/-- Numbers are written with digits. -/
theorem is_digit_of_mem_digits {n : Nat} : ∀ c ∈ Nat.toDigits 10 n, c.isDigit = true :=
  fun _ hc => Nat.isDigit_of_mem_toDigits (by decide) (by decide) hc

namespace NumberLexeme

/-- Says that a number is made of digits and at most one point, and of at least one of these. -/
def isWritten (number : NumberLexeme) : Bool :=
  number.whole.all Char.isDigit && (number.fraction?.getD []).all Char.isDigit &&
    !number.text.isEmpty

/-- Says that a text behind a number does not make it longer: it does not start with a digit, nor
with a point if the number has none yet. -/
def EndsBefore (number : NumberLexeme) (rest : List Char) : Prop :=
  ∀ c ∈ rest.head?, c.isDigit = false ∧ (number.fraction? = none → c ≠ '.')

/-- The token of a number: without a point its decimal value, and with one the double nearest to
it. -/
def token (number : NumberLexeme) : Token :=
  match number.fraction? with
  | none => .int (Nat.ofDigitChars 10 number.whole 0)
  | some _ => .float (number.decimal.toBinary64 false)

variable {number : NumberLexeme}

theorem isWritten_iff :
    number.isWritten = true ↔ (∀ c ∈ number.whole, c.isDigit = true) ∧
      (∀ c ∈ number.fraction?.getD [], c.isDigit = true) ∧ number.text ≠ [] := by
  simp [isWritten, and_assoc]

/-- Digits are a number. -/
theorem digits_is_written (n : Nat) : isWritten ⟨Nat.toDigits 10 n, none⟩ = true := by
  refine isWritten_iff.2 ⟨is_digit_of_mem_digits, by simp, ?_⟩
  simp [text, Nat.toDigits_ne_nil]

/-- A text in which no number starts makes no number longer. -/
theorem ends_before_of_starts {rest : List Char}
    (h : ∀ c ∈ rest.head?, startsNumber c = false) : number.EndsBefore rest := by
  intro c hc
  have hstarts := h c hc
  rw [startsNumber, Bool.or_eq_false_iff, decide_eq_false_iff_not] at hstarts
  exact ⟨hstarts.1, fun _ => hstarts.2⟩

/-- A number has no other characters than those with which numbers start. -/
theorem starts_number_of_mem (hwritten : number.isWritten = true) :
    ∀ c ∈ number.text, startsNumber c = true := by
  intro c hc
  obtain ⟨whole, fraction?⟩ := number
  obtain ⟨hwhole, hfraction, -⟩ := isWritten_iff.1 hwritten
  cases fraction? with
  | none =>
    have hdigit := hwhole c (by simpa [text] using hc)
    simp [startsNumber, hdigit]
  | some fraction =>
    simp only [text, List.mem_append, List.mem_cons] at hc
    rcases hc with hc | rfl | hc
    · simp [startsNumber, hwhole c hc]
    · rfl
    · simp [startsNumber, hfraction c hc]

/-! ## Reading a number -/

/-- A number that cannot go on into the text behind it is the longest one there is. -/
theorem read_append {rest : List Char} (hwritten : number.isWritten = true)
    (hends : number.EndsBefore rest) : read (number.text ++ rest) = number := by
  obtain ⟨whole, fraction?⟩ := number
  obtain ⟨hwhole, hfraction, -⟩ := isWritten_iff.1 hwritten
  cases fraction? with
  | none =>
    have hrest : ∀ c ∈ rest.head?, c.isDigit = false := fun c hc => (hends c hc).1
    simp only [read, text, List.append_nil, take_while_append hwhole hrest,
      drop_while_append hwhole hrest]
    -- What follows is not a point, so that nothing is read as a fraction.
    congr
    split
    · next after => exact absurd rfl ((hends '.' rfl).2 rfl)
    · rfl
  | some fraction =>
    have hdigits : ∀ c ∈ fraction, c.isDigit = true := hfraction
    have hpoint : ∀ c ∈ ('.' :: (fraction ++ rest)).head?, c.isDigit = false := by
      rintro c ⟨⟩
      decide
    have hrest : ∀ c ∈ rest.head?, c.isDigit = false := fun c hc => (hends c hc).1
    simp only [read, text, List.append_assoc, List.cons_append, take_while_append hwhole hpoint,
      drop_while_append hwhole hpoint, take_while_append hdigits hrest]

/-- The head of what is left behind a run of digits is not a digit. -/
theorem head_drop_digits (rest : List Char) :
    ∀ c ∈ (rest.dropWhile Char.isDigit).head?, c.isDigit = false := by
  intro c hc
  have hhead := List.head?_dropWhile_not Char.isDigit rest
  rw [Option.mem_def.1 hc] at hhead
  exact hhead

/-- The longest number at the start of a text cannot go on into what is left. -/
theorem read_ends (source : List Char) :
    ∃ rest, source = (read source).text ++ rest ∧ (read source).EndsBefore rest := by
  have hsplit := List.takeWhile_append_dropWhile (p := Char.isDigit) (l := source)
  have hhead := head_drop_digits source
  cases hdrop : source.dropWhile Char.isDigit with
  | nil =>
    refine ⟨[], ?_, by simp [EndsBefore]⟩
    rw [hdrop] at hsplit
    simpa [read, text, hdrop] using hsplit.symm
  | cons d after =>
    rw [hdrop] at hsplit hhead
    -- Behind the digits a point starts the fraction, and anything else ends the number.
    by_cases hpoint : d = '.'
    · subst hpoint
      refine ⟨after.dropWhile Char.isDigit, ?_, ?_⟩
      · simp only [read, text, hdrop, List.append_assoc, List.cons_append,
          List.takeWhile_append_dropWhile]
        exact hsplit.symm
      · intro c hc
        exact ⟨head_drop_digits after c hc, by simp [read, hdrop]⟩
    · have hfraction : (read source).fraction? = none := by
        simp only [read, hdrop]
        split
        · next heq => exact absurd (List.cons.inj heq).1 hpoint
        · rfl
      refine ⟨d :: after, ?_, ?_⟩
      · simp only [text, hfraction, List.append_nil]
        exact hsplit.symm
      · rintro c ⟨⟩
        exact ⟨hhead d rfl, fun _ => hpoint⟩

/-- The longest number at a digit or a point is not empty. -/
theorem read_is_written {c : Char} {rest : List Char} (h : startsNumber c = true) :
    (read (c :: rest)).isWritten = true := by
  refine isWritten_iff.2 ⟨List.all_eq_true.1 (List.all_takeWhile ..), ?_, ?_⟩
  · simp only [read]
    split
    · exact List.all_eq_true.1 (List.all_takeWhile ..)
    · simp
  · by_cases hdigit : c.isDigit = true
    · simp [read, text, hdigit]
    · obtain rfl : c = '.' := by simpa [startsNumber, hdigit] using h
      simp [read, text]

/-! ## The token of a number -/

/-- Filling the sides of the point does not change the decimal that a number stands for. -/
theorem padded_decimal_value (number : NumberLexeme) :
    number.padded.decimal.value = number.decimal.value := by
  obtain ⟨whole, fraction?⟩ := number
  have hwhole : ∀ digits, Nat.ofDigitChars 10 ((if whole = [] then ['0'] else whole) ++ digits) 0 =
      Nat.ofDigitChars 10 (whole ++ digits) 0 := by
    intro digits
    split
    · next hempty => simp [hempty, Nat.ofDigitChars_cons]
    · rfl
  rcases fraction? with _ | fraction
  · have hdigits := hwhole []
    rw [List.append_nil, List.append_nil] at hdigits
    simp [Decimal.value, decimal, padded, hdigits]
  · cases fraction with
    | nil =>
      -- The zero that is filled in multiplies the coefficient by ten and takes one from the
      -- exponent.
      have hzero : Nat.ofDigitChars 10 (whole ++ ['0']) 0 = 10 * Nat.ofDigitChars 10 whole 0 := by
        simp [Nat.ofDigitChars_append, Nat.ofDigitChars_cons]
      simp only [Decimal.value, decimal, padded, Option.map_some, Option.getD_some, ↓reduceIte,
        hwhole, hzero, List.append_nil, List.length_singleton, List.length_nil]
      push_cast
      norm_num
      ring
    | cons c fraction => simp [Decimal.value, decimal, padded, hwhole]

/-- Filling the sides of the point keeps a number written. -/
theorem padded_is_written (h : number.isWritten = true) : number.padded.isWritten = true := by
  obtain ⟨hwhole, hfraction, -⟩ := isWritten_iff.1 h
  have hzero : ∀ c ∈ ['0'], c.isDigit = true := by
    intro c hc
    obtain rfl := List.mem_singleton.1 hc
    rfl
  refine isWritten_iff.2 ⟨?_, ?_, ?_⟩
  · simp only [padded]
    split
    · exact hzero
    · exact hwhole
  · cases hside : number.fraction? with
    | none => simp [padded, hside]
    | some fraction =>
      rw [hside] at hfraction
      simp only [padded, hside, Option.map_some, Option.getD_some]
      split
      · exact hzero
      · exact hfraction
  · simp only [text, padded]
    split <;> simp_all

/-- A number with a digit on each side of its point, or without a point, and an exponent behind it
read as the decimal of the number with this exponent. -/
theorem read_unsigned_append {tail : List Char} {exponent : Int}
    (hwritten : number.isWritten = true) (hwhole : number.whole ≠ [])
    (hfraction : number.fraction? ≠ some []) (hends : number.EndsBefore tail)
    (htail : Numeral.readExponent? tail = some exponent) :
    Numeral.readUnsigned? (number.text ++ tail) =
      some ⟨number.decimal.coefficient, number.decimal.exponent + exponent⟩ := by
  simp [Numeral.readUnsigned?, read_append hwritten hends, hwhole, hfraction, htail]

/-- What reads without a sign starts with a digit. -/
theorem head_of_read_unsigned {source : List Char} {d : Decimal}
    (h : Numeral.readUnsigned? source = some d) :
    ∃ c rest, source = c :: rest ∧ c.isDigit = true := by
  cases source with
  | nil => cases h
  | cons c rest =>
    refine ⟨c, rest, rfl, ?_⟩
    by_contra hdigit
    simp [Numeral.readUnsigned?, read, hdigit] at h

/-- A minus sign is read as the sign of what is behind it. -/
theorem read_signed {source : List Char} {d : Decimal} (negative : Bool)
    (h : Numeral.readUnsigned? source = some d) :
    Numeral.read? ((if negative then ['-'] else []) ++ source) = some ⟨negative, d⟩ := by
  obtain ⟨c, rest, rfl, hdigit⟩ := head_of_read_unsigned h
  cases negative with
  | true =>
    show (Numeral.readUnsigned? (c :: rest)).map (Numeral.mk true) = _
    rw [h, Option.map_some]
  | false =>
    have hminus : c ≠ '-' := ne_of_class hdigit rfl
    show Numeral.read? (c :: rest) = _
    rw [Numeral.read?, if_neg hminus, h, Option.map_some]

/-- A number with a digit on each side of its point, or without a point, reads as its decimal. -/
theorem read_numeral (hwritten : number.isWritten = true) (hwhole : number.whole ≠ [])
    (hfraction : number.fraction? ≠ some []) :
    Numeral.read? number.text = some ⟨false, number.decimal⟩ := by
  have hends : number.EndsBefore [] := by simp [EndsBefore]
  have hread := read_unsigned_append hwritten hwhole hfraction hends rfl
  rw [List.append_nil, Int.add_zero] at hread
  exact read_signed false hread

/-- Every number has its token. -/
theorem token_eq (h : number.isWritten = true) : number.token? = some number.token := by
  obtain ⟨whole, fraction?⟩ := number
  obtain ⟨hwhole, hfraction, hne⟩ := isWritten_iff.1 h
  rcases fraction? with _ | fraction
  · simp only [text, List.append_nil] at hne
    have hall : whole.all Char.isDigit = true := List.all_eq_true.2 hwhole
    simp [token?, token, text, Numeral.readNatural?, hne, hall]
  · have hread : Numeral.read? (padded ⟨whole, some fraction⟩).text =
        some ⟨false, (padded ⟨whole, some fraction⟩).decimal⟩ := by
      refine read_numeral (padded_is_written h) ?_ ?_
      · simp only [padded]
        split <;> simp_all
      · simp only [padded, Option.map_some, ne_eq, Option.some.injEq]
        split <;> simp_all
    simp only [token?, token, hread, Option.map_some, Numeral.toBinary64]
    rw [Decimal.to_binary64_congr false (padded_decimal_value _)]

end NumberLexeme

end ArithTokens
