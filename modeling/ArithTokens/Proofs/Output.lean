import ArithTokens.Command
import ArithTokens.Proofs.TokenText
import Mathlib.Data.List.TFAE

/-!
# What is printed

Tokens are printed as lines of text or as one document. Both show every token of a scan, as a scan
finds no negative zero, no NaN and no other infinity than the positive one: what is printed in
either form tells the tokens, and so what is printed in the other one (`output_determines_tokens`).
-/

namespace ArithTokens

/-! ## The tokens of a scan -/

/-- Says that a scan may find a token: an integer is not negative, and a double has no sign and is
not a NaN. -/
def Token.isScannable : Token → Bool
  | .int n => 0 ≤ n
  | .float x => !x.negative && !x.isNaN
  | .symbol _ => true

/-- A lexeme stands for a token that a scan may find. -/
theorem Lexeme.token_is_scannable (lexeme : Lexeme) : lexeme.token.isScannable = true := by
  cases lexeme with
  | symbol s => rfl
  | number number =>
    show number.token.isScannable = true
    rw [NumberLexeme.token]
    split
    · simp [Token.isScannable]
    · rw [Token.isScannable, Decimal.toBinary64, Binary64.of_ratio_negative,
        Binary64.of_ratio_is_nan]
      rfl

/-- A scan finds nothing else than such tokens. -/
theorem scannable_of_tokenize {name text : String} {tokens : List Token}
    (h : tokenize name text = .ok tokens) : ∀ token ∈ tokens, token.isScannable = true := by
  obtain ⟨layout, -, -, rfl⟩ := layout_of_tokenize h
  intro token htoken
  obtain ⟨part, -, rfl⟩ := List.mem_map.1 htoken
  exact part.1.token_is_scannable

namespace Token

/-- The only double without a finite value that a scan may find is the positive infinity. -/
theorem infinity_of_scannable {x : Binary64} (h : (float x).isScannable = true)
    (hfinite : x.isFinite = false) : x = .infinity := by
  rw [isScannable, Bool.and_eq_true, Bool.not_eq_true', Bool.not_eq_true'] at h
  rcases Binary64.infinite_or_nan hfinite with hinfinite | hnan
  · exact Binary64.eq_of_infinite hinfinite rfl h.1
  · rw [h.2] at hnan
    cases hnan

/-- Tokens of a scan with one text are the same. -/
theorem text_injective_of_scannable {token other : Token} (h : token.isScannable = true)
    (htext : token.text = other.text) : token = other := by
  rcases text_injective htext with heq | ⟨x, y, rfl, rfl, hx, -⟩
  · exact heq
  · rw [isScannable, hx, Bool.not_true, Bool.and_false] at h
    cases h

/-- Tokens with one document are of one class. -/
theorem kind_of_json {token other : Token} (h : token.json = other.json) :
    token.kind = other.kind := by
  have hname : token.kind.name.toList = other.kind.name.toList := by
    simp only [json, Json.object.injEq, List.cons.injEq, Prod.mk.injEq, Kind.json,
      Json.string.injEq] at h
    exact h.1.2
  have hkind := token.kind.of_name
  rw [hname, other.kind.of_name] at hkind
  exact (Option.some.inj hkind).symm

/-- An infinity or a NaN cannot be decoded from its document. -/
theorem of_json_of_not_finite {token : Token} (h : token.isFinite = false) :
    ofJson? token.json = none := by
  cases token with
  | int n => cases h
  | symbol s => cases h
  | float x =>
    have hvalue : (Literal.float x).json = .null := if_neg (by simpa [isFinite] using h)
    rw [of_json_eq]
    show (decodeFloat? (Literal.float x).json).map float = none
    rw [hvalue]
    rfl

/-- Tokens of a scan with one document are the same. -/
theorem json_injective_of_scannable {token other : Token} (h : token.isScannable = true)
    (hother : other.isScannable = true) (hjson : token.json = other.json) : token = other := by
  have hdecoded := congrArg ofJson? hjson
  cases hfinite : token.isFinite with
  | true =>
    cases hotherFinite : other.isFinite with
    | true => exact json_injective_of_finite hfinite hotherFinite hjson
    | false =>
      rw [of_json hfinite, of_json_of_not_finite hotherFinite] at hdecoded
      cases hdecoded
  | false =>
    cases hotherFinite : other.isFinite with
    | true =>
      rw [of_json_of_not_finite hfinite, of_json hotherFinite] at hdecoded
      cases hdecoded
    | false =>
      cases token with
      | int n => cases hfinite
      | symbol s => cases hfinite
      | float x =>
        cases other with
        | int n => cases hotherFinite
        | symbol s => cases hotherFinite
        | float y =>
          rw [infinity_of_scannable h hfinite, infinity_of_scannable hother hotherFinite]

/-- Tokens whose documents have one compact text have one document. -/
theorem json_of_text {token other : Token}
    (h : token.json.compactText = other.json.compactText) : token.json = other.json := by
  have htext := congrArg String.toList h
  rw [Json.compactText, Json.compactText, String.toList_ofList, String.toList_ofList] at htext
  have hread := Json.read_compact token.json_forall
  rw [htext, Json.read_compact other.json_forall] at hread
  exact (Option.some.inj hread).symm

end Token

/-- Among the doubles that a scan may find, the positive infinity is the one that is written as
`null`. -/
theorem Literal.null_iff_infinity {x : Binary64} (h : (Token.float x).isScannable = true) :
    (Literal.float x).json.compactText = "null" ↔ x = .infinity := by
  constructor
  · intro hnull
    refine Token.infinity_of_scannable h ?_
    by_contra hfinite
    rw [Bool.not_eq_false] at hfinite
    -- The text of a finite double starts like a number.
    have hnumber : Json.IsNumber (Decimal.Style.json.write x) :=
      Decimal.Style.write_is_number (.inr rfl) hfinite
    obtain ⟨c, rest, htext, hc⟩ := Json.number_head hnumber
    have hchars := congrArg String.toList hnull
    rw [Json.compactText, String.toList_ofList, Literal.json, if_pos hfinite, Json.compact,
      htext] at hchars
    obtain rfl : c = 'n' := (List.cons.inj hchars).1
    exact absurd hc (by decide)
  · rintro rfl
    rfl

/-! ## Lists of tokens -/

/-- Lists are the same if a function that tells their elements apart takes them to one list. -/
theorem eq_of_map_eq {α β : Type} {f : α → β} {first second : List α}
    (h : ∀ a ∈ first, ∀ b ∈ second, f a = f b → a = b) (heq : first.map f = second.map f) :
    first = second := by
  induction first generalizing second with
  | nil => exact (List.map_eq_nil_iff.1 heq.symm).symm
  | cons a first ih =>
    cases second with
    | nil => cases heq
    | cons b second =>
      rw [List.map_cons, List.map_cons, List.cons.injEq] at heq
      rw [h a List.mem_cons_self b List.mem_cons_self heq.1]
      rw [ih (fun c hc d hd => h c (List.mem_cons_of_mem _ hc) d (List.mem_cons_of_mem _ hd)) heq.2]

/-- Printed lines are the lines between the newlines, and nothing behind the last one. -/
theorem split_print_lines {lines : List String} (h : ∀ line ∈ lines, '\n' ∉ line.toList) :
    (printLines lines).toList.splitOn '\n' = lines.map String.toList ++ [[]] := by
  have htext : (printLines lines).toList =
      ['\n'].intercalate (lines.map String.toList ++ [[]]) := by
    rw [printLines, String.toList_join, List.flatMap_map]
    induction lines with
    | nil => rfl
    | cons line more ih =>
      have hmore := ih fun other hother => h other (List.mem_cons_of_mem _ hother)
      rw [List.flatMap_cons, hmore, List.map_cons, List.cons_append,
        List.intercalate_cons_of_ne_nil (by simp), String.toList_append]
      rfl
  rw [htext, List.splitOn_intercalate]
  · intro line hline
    rcases List.mem_append.1 hline with hline | hline
    · obtain ⟨text, htext, rfl⟩ := List.mem_map.1 hline
      exact h text htext
    · obtain rfl := List.mem_singleton.1 hline
      exact List.not_mem_nil
  · simp

/-- In the form of text every token has a line. -/
theorem split_print_text (tokens : List Token) :
    (Format.text.print tokens).toList.splitOn '\n' =
      tokens.map (fun token => token.text.toList) ++ [[]] := by
  have hlines : ∀ line ∈ tokens.map Token.text, '\n' ∉ line.toList := by
    intro line hline hnewline
    obtain ⟨token, -, rfl⟩ := List.mem_map.1 hline
    exact absurd (token.text_is_solid '\n' hnewline) (by decide)
  rw [Format.print, split_print_lines hlines, List.map_map]
  rfl

/-- What is printed as text tells the tokens of a scan. -/
theorem print_text_injective {tokens others : List Token}
    (h : ∀ token ∈ tokens, token.isScannable = true)
    (heq : Format.text.print tokens = Format.text.print others) : tokens = others := by
  have hlines := split_print_text tokens
  rw [heq, split_print_text others] at hlines
  refine eq_of_map_eq ?_ (List.append_cancel_right hlines).symm
  intro token htoken other _ htext
  exact Token.text_injective_of_scannable (h token htoken) (String.toList_injective htext)

/-- What is printed as a document tells the tokens of a scan. -/
theorem print_json_injective {tokens others : List Token}
    (h : ∀ token ∈ tokens, token.isScannable = true)
    (hothers : ∀ token ∈ others, token.isScannable = true)
    (heq : Format.json.print tokens = Format.json.print others) : tokens = others := by
  have hindented : (Token.jsonList tokens).indentedText = (Token.jsonList others).indentedText := by
    simpa [Format.print, printLines] using heq
  -- Without the indentation both documents are read back from one text.
  have hcompact := Token.indented_json_list tokens
  rw [hindented, Token.indented_json_list others] at hcompact
  have hread := Token.read_json_list tokens
  rw [← hcompact, Token.read_json_list others] at hread
  have hdocuments : others.map Token.json = tokens.map Token.json :=
    Json.array.inj (Option.some.inj hread)
  refine eq_of_map_eq ?_ hdocuments.symm
  intro token htoken other hother hjson
  exact Token.json_injective_of_scannable (h token htoken) (hothers other hother) hjson

/-! ## The standard output -/

/-- What a run writes to the standard output that ends with this scan. -/
def Scan.stdout (scan : Scan) (options : Options) (filter : Filter) : String :=
  ((Verdict.scanned options scan).outcome filter).stdout

/-- The standard output of a run that finds tokens is these tokens, in the form asked for. -/
theorem stdout_of_tokenize {name text : String} {tokens : List Token}
    (h : tokenize name text = .ok tokens) (options : Options) (filter : Filter) :
    (Source.scan ⟨name, text⟩).stdout options filter = options.format.print tokens := by
  rw [Scan.stdout, Verdict.outcome, result_scan, h]

/-- Of two texts that are accepted, the standard outputs are the same in the form of text exactly
if they are the same as documents, and exactly if the tokens are the same. Every token has a line of
its own, an integer and a double are never printed alike, and the only double of a scan that is
`null` in a document is the positive infinity. -/
theorem output_determines_tokens {name text otherName otherText : String}
    {tokens others : List Token} (h : tokenize name text = .ok tokens)
    (hother : tokenize otherName otherText = .ok others)
    (options otherOptions : Options) (filter otherFilter : Filter) :
    let printed := fun format =>
      (Source.scan ⟨name, text⟩).stdout { options with format := format } filter
    let otherPrinted := fun format =>
      (Source.scan ⟨otherName, otherText⟩).stdout { otherOptions with format := format } otherFilter
    [printed .text = otherPrinted .text, printed .json = otherPrinted .json,
      tokens = others].TFAE ∧
    (printed .text).toList.splitOn '\n' = tokens.map (fun token => token.text.toList) ++ [[]] ∧
    (∀ n x, (Token.int n).text ≠ (Token.float x).text ∧
      (Token.int n).json.compactText ≠ (Token.float x).json.compactText) ∧
    ∀ x, .float x ∈ tokens → ((Literal.float x).json.compactText = "null" ↔ x = .infinity) := by
  intro printed otherPrinted
  have hscannable := scannable_of_tokenize h
  have hprinted : ∀ format, printed format = format.print tokens := fun format =>
    stdout_of_tokenize h { options with format := format } filter
  have hotherPrinted : ∀ format, otherPrinted format = format.print others := fun format =>
    stdout_of_tokenize hother { otherOptions with format := format } otherFilter
  simp only [hprinted, hotherPrinted]
  refine ⟨?_, split_print_text tokens, ?_, ?_⟩
  · tfae_have 1 → 3 := print_text_injective hscannable
    tfae_have 2 → 3 := print_json_injective hscannable (scannable_of_tokenize hother)
    tfae_have 3 → 1 := congrArg Format.text.print
    tfae_have 3 → 2 := congrArg Format.json.print
    tfae_finish
  · intro n x
    constructor
    · intro htext
      cases Token.kind_of_text htext
    · intro hjson
      cases Token.kind_of_json (Token.json_of_text hjson)
  · intro x hx
    exact Literal.null_iff_infinity (hscannable _ hx)

/-- A digit behind the last one can be rounded away: both texts are one token, printed alike in both
forms. -/
theorem output_of_long_fractions :
    let options : Options := ⟨none, .text, true⟩
    let tokens : List Token := [.symbol .minus, .float (.ofBits 0x3FB999999999999A)]
    tokenize "a" "-.1" = .ok tokens ∧ tokenize "b" "- 0.10000000000000000001" = .ok tokens ∧
      (Source.scan ⟨"a", "-.1"⟩).stdout { options with format := .json } .standard =
        (Source.scan ⟨"b", "- 0.10000000000000000001"⟩).stdout
          { options with format := .json } .standard := by
  intro options tokens
  have h : tokenize "a" "-.1" = .ok tokens := by decide +kernel
  have hother : tokenize "b" "- 0.10000000000000000001" = .ok tokens := by decide +kernel
  obtain ⟨hequivalent, -⟩ := output_determines_tokens h hother options options .standard .standard
  exact ⟨h, hother, (hequivalent.out 2 1).1 rfl⟩

end ArithTokens
