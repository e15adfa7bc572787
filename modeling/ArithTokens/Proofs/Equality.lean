import ArithTokens.Proofs.Output

/-!
# Equality of tokens

Tokens can be compared by `==`, by their texts and by their documents. `==` is equality of classes
and values, and an equivalence but for the NaNs, which it holds unequal to themselves. Texts tell
everything that `Token.Identical` does: equal encodings, with all NaNs counted as one. So the zeros,
equal in value and different in text, and the NaNs are all that `==` and the texts disagree about
(`equality_agrees_with_texts`).
-/

namespace ArithTokens

namespace Binary64

/-- The negative zero. -/
def negativeZero : Binary64 := { zero with negative := true }

variable {x y z : Binary64}

/-- Numbers of the same bits are the same. -/
theorem to_bits_inj : x.toBits = y.toBits ↔ x = y := by
  constructor
  · intro h
    rw [← x.of_bits_to_bits, h, y.of_bits_to_bits]
  · rintro rfl
    rfl

/-- A number without a magnitude is one of the zeros. -/
theorem zero_or_negative_zero (h : x.magnitude = 0) : x = zero ∨ x = negativeZero := by
  cases hsign : x.negative with
  | false => exact .inl (eq_of_parts hsign h)
  | true => exact .inr (eq_of_parts hsign h)

/-- The order of the two sides does not matter. -/
theorem beq_comm (x y : Binary64) : (x == y) = (y == x) := by
  rw [Bool.eq_iff_iff, beq_iff, beq_iff, and_left_comm, and_comm (a := x.magnitude = 0),
    eq_comm (a := x)]

/-- What is equal to the same number is equal. -/
theorem beq_trans (hxy : (x == y) = true) (hyz : (y == z) = true) : (x == z) = true := by
  obtain ⟨hx, -, hxy⟩ := beq_iff.1 hxy
  obtain ⟨-, hz, hyz⟩ := beq_iff.1 hyz
  refine beq_iff.2 ⟨hx, hz, ?_⟩
  rcases hxy with ⟨hzero, hother⟩ | rfl
  · rcases hyz with ⟨-, hlast⟩ | rfl
    · exact .inl ⟨hzero, hlast⟩
    · exact .inl ⟨hzero, hother⟩
  · exact hyz

/-- Only a NaN is not equal to itself. -/
theorem beq_self (x : Binary64) : (x == x) = !x.isNaN := by
  rw [Bool.eq_iff_iff, beq_iff, Bool.not_eq_true']
  exact ⟨fun h => h.1, fun h => ⟨h, h, .inr rfl⟩⟩

/-- Equal numbers of different encodings are the two zeros. -/
theorem beq_and_ne_iff :
    (x == y) = true ∧ x ≠ y ↔ x = zero ∧ y = negativeZero ∨ x = negativeZero ∧ y = zero := by
  constructor
  · rintro ⟨hbeq, hne⟩
    obtain ⟨-, -, ⟨hx, hy⟩ | rfl⟩ := beq_iff.1 hbeq
    · rcases zero_or_negative_zero hx with rfl | rfl
      · exact .inl ⟨rfl, (zero_or_negative_zero hy).resolve_left hne.symm⟩
      · exact .inr ⟨rfl, (zero_or_negative_zero hy).resolve_right hne.symm⟩
    · exact absurd rfl hne
  · rintro (⟨rfl, rfl⟩ | ⟨rfl, rfl⟩) <;> decide

end Binary64

namespace Token

/-- Says that tokens are of one class and have the same integer or doubles of the same bits, where
all NaNs count as one. -/
def Identical : Token → Token → Prop
  | .int m, .int n => m = n
  | .float x, .float y => x.toBits = y.toBits ∨ x.isNaN = true ∧ y.isNaN = true
  | .symbol s, .symbol t => s = t
  | _, _ => False

/-- Says that a token is a double that is not a number. -/
def isNaN : Token → Bool
  | .float x => x.isNaN
  | _ => false

/-- Says that two tokens are the two zeros. -/
def OppositeZeros (token other : Token) : Prop :=
  token = .float .zero ∧ other = .float .negativeZero ∨
    token = .float .negativeZero ∧ other = .float .zero

variable {token other third : Token}

/-! ## Comparing by value -/

/-- Tokens are equal when their classes and their values are. -/
theorem beq_iff_kind_value :
    (token == other) = true ↔ token.kind = other.kind ∧ (token.value? == other.value?) = true := by
  cases token with
  | int m =>
    cases other with
    | int n => exact ⟨fun h => ⟨rfl, h⟩, fun h => h.2⟩
    | float _ | symbol _ => exact ⟨nofun, fun h => nomatch h.1⟩
  | float x =>
    cases other with
    | float y => exact ⟨fun h => ⟨rfl, h⟩, fun h => h.2⟩
    | int _ | symbol _ => exact ⟨nofun, fun h => nomatch h.1⟩
  | symbol s =>
    cases other with
    | int _ | float _ => exact ⟨nofun, fun h => nomatch h.1⟩
    | symbol t =>
      -- Symbols have no values, so that only the classes tell them apart.
      show (s == t) = true ↔ Kind.symbol s = Kind.symbol t ∧ _
      rw [beq_iff_eq, Kind.symbol.injEq]
      exact ⟨fun h => ⟨h, rfl⟩, fun h => h.1⟩

/-- Apart from doubles of equal value, only the same tokens are equal, and of these not the NaNs. -/
theorem beq_iff :
    (token == other) = true ↔ token = other ∧ token.isNaN = false ∨
      ∃ x y, token = .float x ∧ other = .float y ∧ (x == y) = true := by
  constructor
  · intro h
    obtain ⟨hkind, hvalue⟩ := beq_iff_kind_value.1 h
    cases token with
    | int m =>
      cases other with
      | int n => exact .inl ⟨congrArg int (beq_iff_eq.1 hvalue), rfl⟩
      | float _ | symbol _ => cases hkind
    | float x =>
      cases other with
      | float y => exact .inr ⟨x, y, rfl, rfl, hvalue⟩
      | int _ | symbol _ => cases hkind
    | symbol s =>
      cases other with
      | int _ | float _ => cases hkind
      | symbol t => exact .inl ⟨congrArg symbol (Kind.symbol.inj hkind), rfl⟩
  · rintro (⟨rfl, hnan⟩ | ⟨x, y, rfl, rfl, h⟩)
    · cases token with
      | int n => exact beq_self_eq_true n
      | float x =>
        show (x == x) = true
        rw [x.beq_self, Bool.not_eq_true']
        exact hnan
      | symbol s => exact beq_self_eq_true s
    · exact h

/-- The order of the two sides does not matter. -/
theorem beq_symm (h : (token == other) = true) : (other == token) = true := by
  rcases beq_iff.1 h with ⟨rfl, -⟩ | ⟨x, y, rfl, rfl, hvalue⟩
  · exact h
  · rw [Binary64.beq_comm] at hvalue
    exact hvalue

/-- What is equal to the same token is equal. -/
theorem beq_trans (h : (token == other) = true) (hother : (other == third) = true) :
    (token == third) = true := by
  rcases beq_iff.1 h with ⟨rfl, -⟩ | ⟨x, y, rfl, rfl, hxy⟩
  · exact hother
  · rcases beq_iff.1 hother with ⟨rfl, -⟩ | ⟨y', z, hy, rfl, hyz⟩
    · exact h
    · obtain rfl : y = y' := Token.float.inj hy
      exact Binary64.beq_trans hxy hyz

/-- Only a NaN is not equal to itself. -/
theorem beq_self (token : Token) : (token == token) = !token.isNaN := by
  rw [Bool.eq_iff_iff, beq_iff, Bool.not_eq_true']
  constructor
  · rintro (⟨-, h⟩ | ⟨x, y, rfl, -, h⟩)
    · exact h
    · exact (Binary64.beq_iff.1 h).1
  · intro h
    exact .inl ⟨rfl, h⟩

/-! ## Comparing by text -/

/-- Tokens are identical when they are the same or both a NaN. -/
theorem identical_iff :
    token.Identical other ↔ token = other ∨ token.isNaN = true ∧ other.isNaN = true := by
  cases token with
  | int m =>
    cases other with
    | int n => simp [Identical, isNaN]
    | float _ | symbol _ => simp [Identical, isNaN]
  | float x =>
    cases other with
    | float y => simp [Identical, isNaN, Binary64.to_bits_inj]
    | int _ | symbol _ => simp [Identical, isNaN]
  | symbol s =>
    cases other with
    | symbol t => simp [Identical, isNaN]
    | int _ | float _ => simp [Identical, isNaN]

/-- All NaNs have one text. -/
theorem text_of_nan (h : token.isNaN = true) : token.text = "FLOAT:NaN" := by
  cases token with
  | int _ | symbol _ => cases h
  | float x =>
    show "FLOAT" ++ ":" ++ Literal.floatText x = _
    rw [Literal.float_text_of_nan h]
    rfl

/-- Texts are equal exactly if the tokens are the same or both a NaN. -/
theorem text_eq_iff :
    token.text = other.text ↔ token = other ∨ token.isNaN = true ∧ other.isNaN = true := by
  constructor
  · intro h
    rcases text_injective h with heq | ⟨x, y, rfl, rfl, hx, hy⟩
    · exact .inl heq
    · exact .inr ⟨hx, hy⟩
  · rintro (rfl | ⟨h, hother⟩)
    · rfl
    · rw [text_of_nan h, text_of_nan hother]

/-- The equal tokens of different texts are the two zeros. -/
theorem beq_and_text_ne_iff :
    (token == other) = true ∧ token.text ≠ other.text ↔ token.OppositeZeros other := by
  constructor
  · rintro ⟨hbeq, htext⟩
    rcases beq_iff.1 hbeq with ⟨rfl, -⟩ | ⟨x, y, rfl, rfl, hvalue⟩
    · exact absurd rfl htext
    · have hne : x ≠ y := fun h => htext (by rw [h])
      rcases Binary64.beq_and_ne_iff.1 ⟨hvalue, hne⟩ with ⟨rfl, rfl⟩ | ⟨rfl, rfl⟩
      · exact .inl ⟨rfl, rfl⟩
      · exact .inr ⟨rfl, rfl⟩
  · intro h
    have hne : token.text ≠ other.text := by
      rw [Ne, text_eq_iff]
      rcases h with ⟨rfl, rfl⟩ | ⟨rfl, rfl⟩ <;> decide
    rcases h with ⟨rfl, rfl⟩ | ⟨rfl, rfl⟩ <;> exact ⟨rfl, hne⟩

/-- The unequal tokens of one text are the NaNs. -/
theorem text_eq_and_not_beq_iff :
    token.text = other.text ∧ (token == other) = false ↔
      token.isNaN = true ∧ other.isNaN = true := by
  constructor
  · rintro ⟨htext, hbeq⟩
    rcases text_eq_iff.1 htext with rfl | hnan
    · rw [beq_self, Bool.not_eq_false'] at hbeq
      exact ⟨hbeq, hbeq⟩
    · exact hnan
  · rintro ⟨hnan, hother⟩
    refine ⟨text_eq_iff.2 (.inr ⟨hnan, hother⟩), ?_⟩
    by_contra hbeq
    rw [Bool.not_eq_false] at hbeq
    -- What is equal to something is equal to itself.
    have hself := beq_trans hbeq (beq_symm hbeq)
    rw [beq_self, hnan] at hself
    cases hself

/-! ## Comparing by document -/

/-- A finite double is not a NaN. -/
theorem is_nan_of_finite (h : token.isFinite = true) : token.isNaN = false := by
  cases token with
  | int _ | symbol _ => rfl
  | float x =>
    simp only [isFinite, isNaN, Binary64.isFinite, Binary64.isNaN, decide_eq_true_eq,
      decide_eq_false_iff_not] at *
    omega

/-- Without infinities and NaNs texts and compact documents tell the same tokens apart. -/
theorem text_eq_iff_compact_text (h : token.isFinite = true) (hother : other.isFinite = true) :
    token.text = other.text ↔ token.json.compactText = other.json.compactText := by
  rw [text_eq_iff, is_nan_of_finite h]
  constructor
  · rintro (rfl | ⟨hnan, -⟩)
    · rfl
    · cases hnan
  · intro htext
    exact .inl (json_injective_of_finite h hother (json_of_text htext))

end Token

/-- Tokens are equal exactly if their classes and their values are. Equality is symmetric and
transitive, and only a NaN is not equal to itself. Texts are equal exactly for identical tokens, so
that equal tokens of different texts are the two zeros, and unequal tokens of one text are NaNs. Of
tokens without infinities and NaNs the texts are equal exactly if the compact documents are. -/
theorem equality_agrees_with_texts (token other third : Token) :
    ((token == other) = true ↔ token.kind = other.kind ∧ (token.value? == other.value?) = true) ∧
    ((token == other) = true → (other == token) = true) ∧
    ((token == other) = true → (other == third) = true → (token == third) = true) ∧
    ((token == token) = false ↔ token.isNaN = true) ∧
    (token.text = other.text ↔ token.Identical other) ∧
    ((token == other) = true ∧ token.text ≠ other.text ↔ token.OppositeZeros other) ∧
    (token.text = other.text ∧ (token == other) = false ↔
      token.isNaN = true ∧ other.isNaN = true) ∧
    (token.isFinite = true → other.isFinite = true →
      (token.text = other.text ↔ token.json.compactText = other.json.compactText)) := by
  refine ⟨Token.beq_iff_kind_value, Token.beq_symm, Token.beq_trans, ?_, ?_,
    Token.beq_and_text_ne_iff, Token.text_eq_and_not_beq_iff, Token.text_eq_iff_compact_text⟩
  · rw [Token.beq_self, Bool.not_eq_false']
  · rw [Token.text_eq_iff, Token.identical_iff]

/-- The zeros are equal to each other, and their texts and documents are not. -/
theorem equality_of_zeros :
    let token : Token := .float .zero
    let other : Token := .float .negativeZero
    (other == token) = true ∧ (token == token) = true ∧ token.text ≠ other.text ∧
      token.json.compactText ≠ other.json.compactText := by
  intro token other
  obtain ⟨-, hsymm, htrans, -, -, hzeros, -, hdocuments⟩ :=
    equality_agrees_with_texts token other token
  obtain ⟨hbeq, htext⟩ := hzeros.2 (.inl ⟨rfl, rfl⟩)
  have hreversed := hsymm hbeq
  exact ⟨hreversed, htrans hbeq hreversed, htext, (hdocuments rfl rfl).not.1 htext⟩

end ArithTokens
