import ArithTokens.Proofs.Document
import ArithTokens.Token.Decoding

/-!
# Tokens as documents

The document of a list of tokens can be read back from its compact text and decoded: integers of any
size and finite doubles come back as they were, with the sign of a zero (`token_json_lossless`). The
names and values in it have no spaces, so the indented text differs from the compact one in spaces
and newlines only.
-/

namespace ArithTokens

/-- The name of a class denotes this class. -/
theorem Kind.of_name (kind : Kind) : ofName? kind.name.toList = some kind := by
  cases kind with
  | int => decide
  | float => decide
  | symbol s => cases s <;> decide

/-- The name of a class has no spaces and no newlines. -/
theorem Kind.name_is_solid (kind : Kind) : Json.IsSolid kind.name.toList := by
  cases kind with
  | int => exact List.all_eq_true.1 (by decide)
  | float => exact List.all_eq_true.1 (by decide)
  | symbol s => cases s <;> exact List.all_eq_true.1 (by decide)

namespace Literal

/-- The document of a value has numbers of JSON, and strings without spaces. -/
theorem json_forall (value : Literal) : value.json.Forall Json.IsNumber Json.IsSolid := by
  cases value with
  | int n =>
    have hnumber := Numeral.repr_is_number n
    rw [json]
    split
    · exact .number _ hnumber
    · exact .string _ (Json.number_is_solid hnumber)
  | float x =>
    rw [json]
    split
    · next hfinite => exact .number _ (Decimal.Style.write_is_number (.inr rfl) hfinite)
    · exact .null

/-- An integer is decoded from the number or the string that it is written as. -/
theorem decode_int (n : Int) : Token.decodeInt? (json (.int n)) = some n := by
  rw [json]
  split
  · exact Numeral.read_integer_repr n
  · exact Numeral.read_integer_repr n

/-- A finite double is decoded from the number that it is written as. -/
theorem decode_float {x : Binary64} (hfinite : x.isFinite = true) :
    Token.decodeFloat? (json (.float x)) = some x := by
  rw [json, if_pos hfinite]
  exact Decimal.Style.read_write (.inr rfl) hfinite

end Literal

namespace Token

/-- Says that a token is not a double without a finite value. -/
def isFinite : Token → Bool
  | .float x => x.isFinite
  | _ => true

/-- The document of a token has numbers of JSON, and strings without spaces. -/
theorem json_forall (token : Token) : token.json.Forall Json.IsNumber Json.IsSolid := by
  have hkind : Json.IsSolid "kind".toList := List.all_eq_true.1 (by decide)
  have hvalue : Json.IsSolid "value".toList := List.all_eq_true.1 (by decide)
  have hname : token.kind.json.Forall Json.IsNumber Json.IsSolid :=
    .string _ token.kind.name_is_solid
  rw [json]
  cases token.value? with
  | none =>
    refine .object _ ?_ ?_
    · intro member hmember
      obtain rfl := List.mem_singleton.1 hmember
      exact hkind
    · intro member hmember
      obtain rfl := List.mem_singleton.1 hmember
      exact hname
  | some value =>
    refine .object _ ?_ ?_
    · intro member hmember
      rcases List.mem_cons.1 hmember with rfl | hmember
      · exact hkind
      · obtain rfl := List.mem_singleton.1 hmember
        exact hvalue
    · intro member hmember
      rcases List.mem_cons.1 hmember with rfl | hmember
      · exact hname
      · obtain rfl := List.mem_singleton.1 hmember
        exact value.json_forall

/-- The document of a list of tokens has numbers of JSON, and strings without spaces. -/
theorem json_list_forall (tokens : List Token) :
    (jsonList tokens).Forall Json.IsNumber Json.IsSolid := by
  refine .array _ ?_
  intro item hitem
  obtain ⟨token, -, rfl⟩ := List.mem_map.1 hitem
  exact token.json_forall

/-- A document of a token is decoded by the token's class and the document of its value. -/
theorem of_json_eq (token : Token) :
    ofJson? token.json = decode? token.kind (token.value?.map Literal.json) := by
  have hname := token.kind.of_name
  rw [json]
  cases token.value? with
  | none => simp [ofJson?, Kind.json, hname, List.lookup_cons]
  | some value => simp [ofJson?, Kind.json, hname, List.lookup_cons]

/-- A token without an infinity or a NaN is decoded from its document. -/
theorem of_json {token : Token} (h : token.isFinite = true) : ofJson? token.json = some token := by
  rw [of_json_eq]
  cases token with
  | int n =>
    show (decodeInt? (Literal.int n).json).map int = _
    rw [Literal.decode_int, Option.map_some]
  | float x =>
    show (decodeFloat? (Literal.float x).json).map float = _
    rw [Literal.decode_float h, Option.map_some]
  | symbol s => rfl

/-- Tokens without infinities and NaNs are told apart by their documents. -/
theorem json_injective_of_finite {token other : Token} (h : token.isFinite = true)
    (hother : other.isFinite = true) (hjson : token.json = other.json) : token = other := by
  have hdecoded := congrArg ofJson? hjson
  rw [of_json h, of_json hother] at hdecoded
  exact Option.some.inj hdecoded

/-- Tokens without an infinity or a NaN are decoded from their document. -/
theorem list_of_json {tokens : List Token} (h : ∀ token ∈ tokens, token.isFinite = true) :
    listOfJson? (jsonList tokens) = some tokens := by
  show (tokens.map json).mapM ofJson? = some tokens
  induction tokens with
  | nil => rfl
  | cons token rest ih =>
    have hrest := ih fun other hother => h other (List.mem_cons_of_mem _ hother)
    rw [List.map_cons, List.mapM_cons, of_json (h token List.mem_cons_self), hrest]
    rfl

/-- The compact text of the document of some tokens is read as this document. -/
theorem read_json_list (tokens : List Token) :
    Json.read? (jsonList tokens).compactText.toList = some (jsonList tokens) := by
  rw [Json.compactText, String.toList_ofList, Json.read_compact (json_list_forall tokens)]

/-- Without its spaces and newlines the indented text of the document of some tokens is its compact
text. -/
theorem indented_json_list (tokens : List Token) :
    (jsonList tokens).indentedText.toList.filter Json.isInk =
      (jsonList tokens).compactText.toList := by
  rw [Json.indentedText, Json.compactText, String.toList_ofList, String.toList_ofList,
    Json.indented_filter (json_list_forall tokens)]

end Token

/-- Tokens without infinities and NaNs come back from the compact text of their document as they
were. An integer is written as a number exactly if it fits into 64 bits with a sign, and as a string
of its digits otherwise. The two layouts of the document of any tokens differ in spaces and newlines
only. -/
theorem token_json_lossless (tokens : List Token) :
    ((∀ token ∈ tokens, token.isFinite = true) →
      (Json.read? (Token.jsonList tokens).compactText.toList).bind Token.listOfJson? =
        some tokens) ∧
    (∀ n : Int, ∃ value,
      Json.read? (Token.int n).json.compactText.toList =
        some (.object [("kind".toList, .string "INT".toList), ("value".toList, value)]) ∧
      (value = .number n.repr.toList ↔ -2 ^ 63 ≤ n ∧ n ≤ 2 ^ 63 - 1) ∧
      (value = .string n.repr.toList ↔ ¬ (-2 ^ 63 ≤ n ∧ n ≤ 2 ^ 63 - 1))) ∧
    (Token.jsonList tokens).indentedText.toList.filter Json.isInk =
      (Token.jsonList tokens).compactText.toList := by
  refine ⟨?_, ?_, Token.indented_json_list tokens⟩
  · intro hfinite
    rw [Token.read_json_list, Option.bind_some, Token.list_of_json hfinite]
  · intro n
    refine ⟨(Literal.int n).json, ?_, ?_⟩
    · rw [Json.compactText, String.toList_ofList, Json.read_compact (Token.int n).json_forall]
      rfl
    · have hword : Literal.fitsWord n = true ↔ -2 ^ 63 ≤ n ∧ n ≤ 2 ^ 63 - 1 := by
        rw [Literal.fitsWord, decide_eq_true_iff]
        rfl
      rw [← hword, Literal.json]
      split
      · next hfits => simp [hfits]
      · next hwide => simp [hwide]

/-- The first integer that is too wide for a number, a negative zero and a symbol. -/
theorem token_json_of_wide :
    let tokens : List Token :=
      [.int 9223372036854775808, .float ⟨true, 0, by decide⟩, .symbol .plus]
    (∀ token ∈ tokens, token.isFinite = true) ∧
      (Token.jsonList tokens).compactText =
        "[\x7b\"kind\":\"INT\",\"value\":\"9223372036854775808\"\x7d," ++
          "\x7b\"kind\":\"FLOAT\",\"value\":-0.0\x7d,\x7b\"kind\":\"PLUS\"\x7d]" ∧
      (Json.read? (Token.jsonList tokens).compactText.toList).bind Token.listOfJson? =
        some tokens := by
  intro tokens
  have hfinite : ∀ token ∈ tokens, token.isFinite = true := by decide
  exact ⟨hfinite, by decide +kernel, (token_json_lossless tokens).1 hfinite⟩

end ArithTokens
