import ArithTokens.Proofs.TokenDocument

/-!
# Texts of tokens

The text of a token tells its class and its value. Tokens of one text are the same token, except
that all NaNs have one text (`Token.text_injective`). A text has no spaces and no newlines, so that
every token has a line of its own.
-/

namespace ArithTokens

namespace Binary64

/-- A double without a finite value is an infinity or a NaN. -/
theorem infinite_or_nan {x : Binary64} (h : x.isFinite = false) :
    x.isInfinite = true ∨ x.isNaN = true := by
  simp only [isFinite, isInfinite, isNaN, decide_eq_false_iff_not, decide_eq_true_eq] at *
  omega

/-- Infinities of one sign are the same. -/
theorem eq_of_infinite {x y : Binary64} (hx : x.isInfinite = true) (hy : y.isInfinite = true)
    (hsign : x.negative = y.negative) : x = y := by
  simp only [isInfinite, decide_eq_true_eq] at hx hy
  exact eq_of_parts hsign (hx.trans hy.symm)

end Binary64

namespace Literal

/-- The text of an infinity tells its sign. -/
theorem float_text_of_infinite {x : Binary64} (h : x.isInfinite = true) :
    floatText x = if x.negative then "-inf" else "inf" := by
  have hfinite : x.isFinite = false := by
    simp only [Binary64.isInfinite, Binary64.isFinite, decide_eq_true_eq,
      decide_eq_false_iff_not] at *
    omega
  simp [floatText, hfinite, h]

/-- All NaNs have one text. -/
theorem float_text_of_nan {x : Binary64} (h : x.isNaN = true) : floatText x = "NaN" := by
  simp only [Binary64.isNaN, decide_eq_true_eq] at h
  have hfinite : ¬ x.magnitude < Binary64.infinityMagnitude := by omega
  have hinfinite : ¬ x.magnitude = Binary64.infinityMagnitude := by omega
  simp [floatText, Binary64.isFinite, Binary64.isInfinite, hfinite, hinfinite]

/-- Integers of one text are the same. -/
theorem int_text_injective {n m : Int} (h : n.repr = m.repr) : n = m := by
  have hread := Numeral.read_integer_repr n
  rw [h, Numeral.read_integer_repr m] at hread
  exact (Option.some.inj hread).symm

/-- The text of a double without a finite value is not the text of a number. -/
theorem read_of_not_finite {x : Binary64} (h : x.isFinite = false) :
    Numeral.read? (floatText x).toList = none := by
  rcases Binary64.infinite_or_nan h with hinfinite | hnan
  · rw [float_text_of_infinite hinfinite]
    split <;> decide
  · rw [float_text_of_nan hnan]
    decide

/-- The text of a finite double is read as the double. -/
theorem read_of_finite {x : Binary64} (h : x.isFinite = true) :
    (Numeral.read? (floatText x).toList).map Numeral.toBinary64 = some x := by
  rw [floatText, if_pos h, String.toList_ofList]
  exact Decimal.Style.read_write (.inl rfl) h

/-- Doubles of one text are the same double, or both are a NaN. -/
theorem float_text_injective {x y : Binary64} (h : floatText x = floatText y) :
    x = y ∨ x.isNaN = true ∧ y.isNaN = true := by
  have hread := congrArg (fun text : String =>
    (Numeral.read? text.toList).map Numeral.toBinary64) h
  cases hx : x.isFinite with
  | true =>
    rw [read_of_finite hx] at hread
    cases hy : y.isFinite with
    | true =>
      rw [read_of_finite hy] at hread
      exact .inl (Option.some.inj hread)
    | false =>
      rw [read_of_not_finite hy] at hread
      cases hread
  | false =>
    cases hy : y.isFinite with
    | true =>
      rw [read_of_not_finite hx, read_of_finite hy] at hread
      cases hread
    | false =>
      -- What is left are the texts of the two infinities and the one of the NaNs.
      rcases Binary64.infinite_or_nan hx with hx | hx
      · rcases Binary64.infinite_or_nan hy with hy | hy
        · rw [float_text_of_infinite hx, float_text_of_infinite hy] at h
          refine .inl (Binary64.eq_of_infinite hx hy ?_)
          cases hsign : x.negative <;> cases hother : y.negative <;>
            simp [hsign, hother] at h ⊢
        · rw [float_text_of_infinite hx, float_text_of_nan hy] at h
          split at h <;> exact absurd h (by decide)
      · rcases Binary64.infinite_or_nan hy with hy | hy
        · rw [float_text_of_nan hx, float_text_of_infinite hy] at h
          split at h <;> exact absurd h (by decide)
        · exact .inr ⟨hx, hy⟩

/-- The text of a value has no spaces and no newlines. -/
theorem text_is_solid (value : Literal) : Json.IsSolid value.text.toList := by
  cases value with
  | int n => exact Json.number_is_solid (Numeral.repr_is_number n)
  | float x =>
    rw [text, floatText]
    split
    · next hfinite =>
      rw [String.toList_ofList]
      exact Json.number_is_solid (Decimal.Style.write_is_number (.inl rfl) hfinite)
    · split
      · split <;> exact List.all_eq_true.1 (by decide)
      · exact List.all_eq_true.1 (by decide)

end Literal

/-- The name of a class has no colon. -/
theorem Kind.colon_not_mem_name (kind : Kind) :
    ∀ c ∈ kind.name.toList, decide (c ≠ ':') = true := by
  refine List.all_eq_true.1 ?_
  cases kind with
  | int => rfl
  | float => rfl
  | symbol s => cases s <;> rfl

namespace Token

/-- The text of a token has no spaces and no newlines. -/
theorem text_is_solid (token : Token) : Json.IsSolid token.text.toList := by
  have hname := token.kind.name_is_solid
  rw [text]
  cases token.value? with
  | none => exact hname
  | some value =>
    have hvalue := value.text_is_solid
    intro c hc
    simp only [String.toList_append, List.mem_append] at hc
    rcases hc with (hc | hc) | hc
    · exact hname c hc
    · obtain rfl := List.mem_singleton.1 hc
      rfl
    · exact hvalue c hc

/-- The text of a token starts with the name of its class, up to a colon if there is one. -/
theorem text_kind (token : Token) :
    token.text.toList.takeWhile (fun c => decide (c ≠ ':')) = token.kind.name.toList := by
  have hname := token.kind.colon_not_mem_name
  rw [text]
  cases token.value? with
  | none =>
    have hnil : ∀ c ∈ ([] : List Char).head?, decide (c ≠ ':') = false := by simp
    simpa only [List.append_nil] using take_while_append hname hnil
  | some value =>
    show (token.kind.name ++ ":" ++ value.text).toList.takeWhile _ = _
    rw [String.append_assoc, String.toList_append]
    have hcolon : (":" ++ value.text).toList = ':' :: value.text.toList := String.toList_append
    rw [hcolon]
    exact take_while_append hname (of_head_cons rfl)

/-- Tokens of one text are of one class. -/
theorem kind_of_text {token other : Token} (h : token.text = other.text) :
    token.kind = other.kind := by
  have hname := token.text_kind
  rw [h, other.text_kind] at hname
  have hkind := token.kind.of_name
  rw [← hname, other.kind.of_name] at hkind
  exact (Option.some.inj hkind).symm

/-- Tokens of one text are the same token, or doubles that are both a NaN. -/
theorem text_injective {token other : Token} (h : token.text = other.text) :
    token = other ∨
      ∃ x y, token = .float x ∧ other = .float y ∧ x.isNaN = true ∧ y.isNaN = true := by
  have hkind := kind_of_text h
  cases token with
  | int n =>
    cases other with
    | int m =>
      have hvalue : n.repr = m.repr := (String.append_right_inj _).1 h
      rw [Literal.int_text_injective hvalue]
      exact .inl rfl
    | float y => cases hkind
    | symbol t => cases hkind
  | float x =>
    cases other with
    | int m => cases hkind
    | float y =>
      have hvalue : Literal.floatText x = Literal.floatText y := (String.append_right_inj _).1 h
      rcases Literal.float_text_injective hvalue with rfl | ⟨hx, hy⟩
      · exact .inl rfl
      · exact .inr ⟨x, y, rfl, rfl, hx, hy⟩
    | symbol t => cases hkind
  | symbol s =>
    cases other with
    | int m => cases hkind
    | float y => cases hkind
    | symbol t =>
      cases hkind
      exact .inl rfl

end Token

end ArithTokens
