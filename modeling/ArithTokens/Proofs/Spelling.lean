import ArithTokens.Proofs.Scanning
import Mathlib.Data.List.Chain

/-!
# Spelling tokens

A symbol is spelled by its character and a number by the text of its value. Wherever doubles are
written plainly, the spelling of a token is a lexeme that stands for this token
(`Token.lexeme_token`). Spelled tokens with blanks between them are therefore a maximal layout, and
scanning them gives the tokens back (`tokenize_joined`).
-/

namespace ArithTokens

/-! ## Plainly written decimals -/

namespace Decimal

/-- The decimal's digits on both sides of the point, with zeros where there are none. -/
def plainNumber (d : Decimal) : NumberLexeme :=
  let places := (-d.exponent).toNat
  if 0 ≤ d.exponent then ⟨d.digits ++ List.replicate d.exponent.toNat '0', some ['0']⟩
  else if places < d.digits.length then
    ⟨d.digits.take (d.digits.length - places), some (d.digits.drop (d.digits.length - places))⟩
  else ⟨['0'], some (List.replicate (places - d.digits.length) '0' ++ d.digits)⟩

/-- These are the characters that are written. -/
theorem plain_number_text (d : Decimal) : d.plainNumber.text = d.plain := by
  unfold plainNumber plain
  dsimp only
  split
  · simp [NumberLexeme.text]
  · split <;> rfl

/-- A decimal has digits only. -/
theorem digits_all (d : Decimal) : ∀ c ∈ d.digits, c.isDigit = true :=
  is_digit_of_mem_digits

/-- The digits stand for the coefficient. -/
theorem of_digits (d : Decimal) : Nat.ofDigitChars 10 d.digits 0 = d.coefficient :=
  Nat.ofDigitChars_ten_toDigits

/-- A plainly written decimal always has a point. -/
theorem plain_number_fraction (d : Decimal) :
    ∃ fraction, d.plainNumber.fraction? = some fraction := by
  unfold plainNumber
  dsimp only
  split
  · exact ⟨_, rfl⟩
  · split <;> exact ⟨_, rfl⟩

/-- A plainly written decimal is a number. -/
theorem plain_number_is_written (d : Decimal) : d.plainNumber.isWritten = true := by
  have hdigits := d.digits_all
  have hzeros : ∀ count, ∀ c ∈ List.replicate count '0', c.isDigit = true := by
    intro count c hc
    rw [List.eq_of_mem_replicate hc]
    rfl
  have hboth : ∀ {first second : List Char}, (∀ c ∈ first, c.isDigit = true) →
      (∀ c ∈ second, c.isDigit = true) → ∀ c ∈ first ++ second, c.isDigit = true := by
    intro first second hfirst hsecond c hc
    exact (List.mem_append.1 hc).elim (hfirst c) (hsecond c)
  refine NumberLexeme.isWritten_iff.2 ⟨?_, ?_, ?_⟩
  · unfold plainNumber
    dsimp only
    split
    · exact hboth hdigits (hzeros _)
    · split
      · exact fun c hc => hdigits c (List.mem_of_mem_take hc)
      · exact hzeros 1
  · unfold plainNumber
    dsimp only
    split
    · exact hzeros 1
    · split
      · exact fun c hc => hdigits c (List.mem_of_mem_drop hc)
      · exact hboth (hzeros _) hdigits
  · obtain ⟨fraction, hfraction⟩ := d.plain_number_fraction
    simp [NumberLexeme.text, hfraction]

/-- A plainly written decimal keeps its value. -/
theorem plain_number_value (d : Decimal) : d.plainNumber.decimal.value = d.value := by
  have hdigits := d.of_digits
  have hten : (10 : ℚ) ≠ 0 := by norm_num
  unfold plainNumber
  dsimp only
  split
  · next hexponent =>
    -- The zero behind the point multiplies the coefficient by ten once more.
    have hcoefficient : Nat.ofDigitChars 10
        (d.digits ++ List.replicate d.exponent.toNat '0' ++ ['0']) 0 =
        10 * (10 ^ d.exponent.toNat * d.coefficient) := by
      simp [Nat.ofDigitChars_append, Nat.ofDigitChars_replicate_zero, Nat.ofDigitChars_cons,
        hdigits]
    have hpower : (10 : ℚ) ^ d.exponent = 10 ^ d.exponent.toNat := by
      rw [← zpow_natCast, Int.toNat_of_nonneg hexponent]
    simp only [NumberLexeme.decimal, Option.getD_some, hcoefficient, value, hpower]
    push_cast
    norm_num
    ring
  · next hexponent =>
    have hplaces : -((-d.exponent).toNat : ℤ) = d.exponent := by omega
    split
    · next hlength =>
      have hdrop : (d.digits.drop (d.digits.length - (-d.exponent).toNat)).length =
          (-d.exponent).toNat := by
        rw [List.length_drop]
        omega
      simp only [NumberLexeme.decimal, Option.getD_some, List.take_append_drop, hdigits, hdrop,
        hplaces, value]
    · next hlength =>
      have hfilled : (List.replicate ((-d.exponent).toNat - d.digits.length) '0' ++
          d.digits).length = (-d.exponent).toNat := by
        rw [List.length_append, List.length_replicate]
        omega
      have hcoefficient : Nat.ofDigitChars 10 (['0'] ++
          (List.replicate ((-d.exponent).toNat - d.digits.length) '0' ++ d.digits)) 0 =
          d.coefficient := by
        simp [Nat.ofDigitChars_append, Nat.ofDigitChars_replicate_zero, Nat.ofDigitChars_cons,
          hdigits]
      simp only [NumberLexeme.decimal, Option.getD_some, hfilled, hplaces, hcoefficient, value]

/-- A plainly written decimal is read as the double nearest to it. -/
theorem plain_number_token (d : Decimal) :
    d.plainNumber.token = .float (d.toBinary64 false) := by
  obtain ⟨fraction, hfraction⟩ := d.plain_number_fraction
  simp only [NumberLexeme.token, hfraction, to_binary64_congr false d.plain_number_value]

end Decimal

/-! ## Spelled tokens -/

namespace Token

/-- The character of a symbol, or the text of a number's value. -/
def spelling : Token → List Char
  | .symbol s => [s.char]
  | .int n => (Literal.int n).text.toList
  | .float x => (Literal.float x).text.toList

/-- Numbers are the tokens with a value. -/
def isNumber (token : Token) : Bool := token.value?.isSome

/-- Says that a token is spelled with nothing but digits, a point, or a symbol: an integer is not
negative, and a double is finite, has no sign, and is zero or has a decimal exponent from -4 to
15. -/
def IsPlain : Token → Prop
  | .symbol _ => True
  | .int n => 0 ≤ n
  | .float x => x.isFinite = true ∧ x.negative = false ∧
      (x.magnitude = 0 ∨ -4 ≤ Int.log 10 (Binary64.value x.magnitude) ∧
        Int.log 10 (Binary64.value x.magnitude) ≤ 15)

/-- The lexeme that spells a plain token. -/
def lexeme : Token → Lexeme
  | .symbol s => .symbol s
  | .int n => .number ⟨Nat.toDigits 10 n.toNat, none⟩
  | .float x => .number (Decimal.shortest .up x.magnitude).plainNumber

/-- The spelling of a number is what the text of its token has behind the name of its class. -/
theorem text_of_number {token : Token} (h : token.isNumber = true) :
    token.text = token.kind.name ++ ":" ++ String.ofList token.spelling := by
  cases token with
  | int n => simp [text, value?, spelling]
  | float x => simp [text, value?, spelling]
  | symbol s => cases h

variable {token : Token}

/-- Zero and the doubles of these decimal exponents are the ones that are written plainly. -/
theorem float_is_plain_iff {x : Binary64} (hfinite : x.isFinite = true) :
    IsPlain (.float x) ↔ x.negative = false ∧
      Decimal.Style.text.isPlain (Decimal.shortest .up x.magnitude) = true := by
  rw [IsPlain]
  rcases Nat.eq_zero_or_pos x.magnitude with hzero | hpos
  · have hplain : Decimal.Style.text.isPlain (Decimal.shortest .up 0) = true := by decide
    simp [hfinite, hzero, hplain]
  · rw [Decimal.shortest_is_plain_iff (of_decide_eq_true hfinite) hpos]
    simp [hfinite, Nat.pos_iff_ne_zero.1 hpos]

/-- The characters of the lexeme are the spelling. -/
theorem lexeme_text (h : token.IsPlain) : token.lexeme.text = token.spelling := by
  cases token with
  | symbol s => rfl
  | int n =>
    obtain ⟨digits, rfl⟩ := Int.eq_ofNat_of_zero_le h
    rw [lexeme, Lexeme.text, NumberLexeme.text, List.append_nil, spelling, Literal.text]
    exact Nat.toList_repr.symm
  | float x =>
    obtain ⟨hnegative, hplain⟩ := (float_is_plain_iff h.1).1 h
    have hwrite : Decimal.Style.text.write x = (Decimal.shortest .up x.magnitude).plain := by
      have hdecimal : Decimal.Style.text.decimal (Decimal.shortest .up x.magnitude) =
          (Decimal.shortest .up x.magnitude).plain := by
        rw [Decimal.Style.decimal, if_pos hplain]
      rw [Decimal.Style.write, hnegative]
      exact hdecimal
    rw [lexeme, Lexeme.text, Decimal.plain_number_text, spelling, Literal.text, Literal.floatText,
      if_pos h.1, String.toList_ofList, hwrite]

/-- The lexeme is made of the right characters. -/
theorem lexeme_is_written (token : Token) : token.lexeme.isWritten = true := by
  cases token with
  | symbol s => rfl
  | int n => exact NumberLexeme.digits_is_written n.toNat
  | float x => exact Decimal.plain_number_is_written _

/-- The lexeme stands for the token that it spells. -/
theorem lexeme_token (h : token.IsPlain) : token.lexeme.token = token := by
  cases token with
  | symbol s => rfl
  | int n =>
    obtain ⟨m, rfl⟩ := Int.eq_ofNat_of_zero_le h
    change Token.int (Nat.ofDigitChars 10 (Nat.toDigits 10 m) 0 : Nat) = .int m
    rw [Nat.ofDigitChars_ten_toDigits]
  | float x =>
    have hback := Decimal.shortest_to_binary64 .up h.1
    rw [h.2.1] at hback
    rw [lexeme, Lexeme.token, Decimal.plain_number_token, hback]

/-- A lexeme cannot go on into a text in which no number starts, and a symbol never goes on. -/
theorem lexeme_ends_before {rest : List Char}
    (h : token.isNumber = true → ∀ c ∈ rest.head?, startsNumber c = false) :
    token.lexeme.EndsBefore rest := by
  have hnumber : ∀ number : NumberLexeme, (∀ c ∈ rest.head?, startsNumber c = false) →
      (Lexeme.number number).EndsBefore rest := by
    intro number hrest
    have hends : (Lexeme.number number).EndsBefore [] := by
      rintro c ⟨⟩
    exact Lexeme.ends_before_append hends hrest
  cases token with
  | symbol s => trivial
  | int n => exact hnumber _ (h rfl)
  | float x => exact hnumber _ (h rfl)

end Token

/-- Spelled tokens, each with the blanks behind it, behind the blanks before the first one. -/
def joined (blanks : List Char) (parts : List (Token × List Char)) : List Char :=
  blanks ++ parts.flatMap fun part => part.1.spelling ++ part.2

/-- The lexemes of spelled tokens are maximal if there are blanks between any two numbers. -/
theorem joined_maximal {parts : List (Token × List Char)}
    (hplain : ∀ part ∈ parts, part.1.IsPlain)
    (hblanks : ∀ part ∈ parts, part.2.all isBlank = true)
    (hseparated : parts.IsChain fun part next =>
      part.1.isNumber = true → next.1.isNumber = true → part.2 ≠ []) :
    Layout.PartsMaximal (parts.map fun part => (part.1.lexeme, part.2)) := by
  induction parts with
  | nil => trivial
  | cons part rest ih =>
    obtain ⟨token, blanks⟩ := part
    have hbehind : blanks.all isBlank = true := hblanks _ List.mem_cons_self
    refine ⟨token.lexeme_is_written, Token.lexeme_ends_before fun hnumber => ?_, hbehind,
      ih (fun part hpart => hplain part (List.mem_cons_of_mem _ hpart))
        (fun part hpart => hblanks part (List.mem_cons_of_mem _ hpart)) hseparated.tail⟩
    intro c hc
    cases blanks with
    | cons blank blanks =>
      obtain rfl : blank = c := Option.some.inj hc
      rw [List.all_cons, Bool.and_eq_true] at hbehind
      exact starts_number_of_blank hbehind.1
    | nil =>
      cases rest with
      | nil => cases hc
      | cons next rest =>
        obtain ⟨other, others⟩ := next
        -- Without blanks the next token is a symbol, whose character comes next.
        cases other with
        | symbol s =>
          obtain rfl : s.char = c := Option.some.inj hc
          exact Lexeme.starts_number_symbol s
        | int n => exact absurd rfl ((List.isChain_cons_cons.1 hseparated).1 hnumber rfl)
        | float x => exact absurd rfl ((List.isChain_cons_cons.1 hseparated).1 hnumber rfl)

/-- Scanning spelled tokens gives the tokens back. Blanks may stand anywhere around them, and must
stand between two numbers. -/
theorem tokenize_joined (name : String) {blanks : List Char} {parts : List (Token × List Char)}
    (hplain : ∀ part ∈ parts, part.1.IsPlain)
    (hbefore : blanks.all isBlank = true)
    (hblanks : ∀ part ∈ parts, part.2.all isBlank = true)
    (hseparated : parts.IsChain fun part next =>
      part.1.isNumber = true → next.1.isNumber = true → part.2 ≠ []) :
    tokenize name (String.ofList (joined blanks parts)) = .ok (parts.map Prod.fst) := by
  have hmaximal : Layout.IsMaximal ⟨blanks, parts.map fun part => (part.1.lexeme, part.2)⟩ :=
    ⟨hbefore, joined_maximal hplain hblanks hseparated⟩
  have htext : Layout.text ⟨blanks, parts.map fun part => (part.1.lexeme, part.2)⟩ =
      (String.ofList (joined blanks parts)).toList := by
    rw [String.toList_ofList, Layout.text, joined, Layout.partsText, List.flatMap_map]
    congr 1
    refine List.flatMap_congr fun part hpart => ?_
    rw [Token.lexeme_text (hplain part hpart)]
  rw [tokenize_of_layout name hmaximal htext, Layout.tokens, List.map_map]
  congr 1
  refine List.map_congr_left fun part hpart => ?_
  exact Token.lexeme_token (hplain part hpart)

/-- Two doubles with a tab between them, behind an integer and a symbol without blanks between
these. -/
theorem tokenize_joined_doubles :
    tokenize "sum" " 12+ 1.5\t0.0" =
      .ok [.int 12, .symbol .plus, .float (.ofBits 0x3FF8000000000000), .float .zero] := by
  let parts : List (Token × List Char) := [(.int 12, []), (.symbol .plus, [' ']),
    (.float (.ofBits 0x3FF8000000000000), ['\t']), (.float .zero, [])]
  have hplain : ∀ part ∈ parts, part.1.IsPlain := by
    intro part hpart
    simp only [parts, List.mem_cons, List.not_mem_nil, or_false] at hpart
    rcases hpart with rfl | rfl | rfl | rfl
    · exact Int.natCast_nonneg 12
    · trivial
    · exact (Token.float_is_plain_iff (by decide +kernel)).2 (by decide +kernel)
    · exact (Token.float_is_plain_iff (by decide +kernel)).2 (by decide +kernel)
  have htext : " 12+ 1.5\t0.0" = String.ofList (joined [' '] parts) := by decide +kernel
  rw [htext]
  exact tokenize_joined "sum" hplain (by decide) (by decide) (by decide)

end ArithTokens
