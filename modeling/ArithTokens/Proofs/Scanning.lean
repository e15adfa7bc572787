import ArithTokens.Proofs.Index
import ArithTokens.Proofs.Layout

/-!
# What a scan finds

A scan walks along the maximal layout of its text and stops at the first illegal character
(`Scanner.scan_layout`). Hence a text is accepted exactly if it has a maximal layout, with the
tokens of that layout (`tokenize_ok_iff_layout`), and otherwise the error is the first illegal
character with its exact place (`tokenize_first_illegal`).
-/

namespace ArithTokens

/-- Legal characters have one byte. -/
theorem utf8_size_of_legal {c : Char} (h : isLegal c = true) : c.utf8Size = 1 := by
  rw [Char.utf8Size_eq_one_iff]
  simp only [isLegal, Bool.or_eq_true, List.contains_iff_mem, List.mem_cons, List.not_mem_nil,
    or_false] at h
  rcases h with h | rfl | rfl | rfl | rfl | rfl | rfl | rfl | rfl | rfl
  · simp only [Char.isDigit, Bool.and_eq_true, decide_eq_true_eq] at h
    exact UInt32.le_trans h.2 (by decide)
  all_goals decide

/-- Legal characters are not newlines. -/
theorem ne_newline_of_legal {c : Char} (h : isLegal c = true) : c ≠ '\n' := by
  rintro rfl
  exact absurd h (by decide)

/-- A legal text has as many bytes as characters. -/
theorem byte_count_of_legal {text : List Char} (h : ∀ c ∈ text, isLegal c = true) :
    byteCount text = text.length := by
  induction text with
  | nil => rfl
  | cons c rest ih =>
    rw [byte_count_cons, utf8_size_of_legal (h c List.mem_cons_self),
      ih fun d hd => h d (List.mem_cons_of_mem c hd), List.length_cons, Nat.add_comm]

namespace Scanner

variable {source : Source} {index : Nat}

/-! ## One step -/

/-- At the end of the text a scan is finished. -/
theorem step_of_end (h : source.text.toList.length ≤ index) :
    (ofIndex source index).step = .finish := by
  have hcurrent : (ofIndex source index).current? = none := List.getElem?_eq_none h
  rw [step, hcurrent]

/-- A blank is passed. -/
theorem step_of_blank {c : Char} (hcurrent : source.text.toList[index]? = some c)
    (h : isBlank c = true) : (ofIndex source index).step = .pass none 1 := by
  simp [step, ofIndex, hcurrent, h]

/-- An illegal character is rejected. -/
theorem step_of_illegal {c : Char} (hcurrent : source.text.toList[index]? = some c)
    (h : isLegal c = false) : (ofIndex source index).step = .reject c := by
  have hnone : ¬ (isBlank c = true ∨ startsNumber c = true ∨
      ∃ symbol, Symbol.ofChar? c = some symbol) := by
    rw [← is_legal_iff, h]
    exact Bool.false_ne_true
  rw [not_or, not_or, not_exists] at hnone
  obtain ⟨hblank, hstarts, hsymbol⟩ := hnone
  have htoken : Token.ofChar? c = none := by
    rw [Token.ofChar?, Option.map_eq_none_iff]
    exact Option.eq_none_iff_forall_ne_some.2 hsymbol
  simp [step, ofIndex, hcurrent, hblank, hstarts, htoken]

/-- The number at a place is read with its length in characters, as it has no others than ASCII
ones. -/
theorem number_of_index {number : NumberLexeme} {rest : List Char}
    (hdrop : source.text.toList.drop index = number.text ++ rest)
    (hwritten : number.isWritten = true) (hends : number.EndsBefore rest) :
    (ofIndex source index).number? = some (number.token, number.text.length) := by
  have hread : NumberLexeme.read (ofIndex source index).place.rest.copy.toList = number := by
    rw [of_index_place, Place.rest_of_index, hdrop, NumberLexeme.read_append hwritten hends]
  have hlexeme : (Lexeme.number number).isWritten = true := hwritten
  have hlegal : ∀ c ∈ number.text, isLegal c = true := Lexeme.text_legal hlexeme
  simp only [number?, hread, NumberLexeme.token_eq hwritten, Option.map_some,
    byte_count_of_legal hlegal]

/-- A lexeme that cannot go on is passed with its token. -/
theorem step_of_lexeme {lexeme : Lexeme} {rest : List Char}
    (hdrop : source.text.toList.drop index = lexeme.text ++ rest)
    (hwritten : lexeme.isWritten = true) (hends : lexeme.EndsBefore rest) :
    (ofIndex source index).step = .pass (some lexeme.token) lexeme.text.length := by
  have hcurrent : source.text.toList[index]? = (lexeme.text ++ rest).head? := by
    rw [← hdrop, List.head?_drop]
  cases lexeme with
  | symbol s =>
    have hfirst : source.text.toList[index]? = some s.char := hcurrent
    have hblank : isBlank s.char = false := by cases s <;> rfl
    have htoken : Token.ofChar? s.char = some (.symbol s) := by
      rw [Token.ofChar?, Symbol.of_char_eq_some_iff.2 rfl, Option.map_some]
    simp [step, ofIndex, hfirst, hblank, Lexeme.starts_number_symbol, htoken, Lexeme.token,
      Lexeme.text]
  | number n =>
    obtain ⟨c, digits, htext⟩ := List.exists_cons_of_ne_nil (Lexeme.text_ne_nil hwritten)
    have hfirst : source.text.toList[index]? = some c := by rw [hcurrent, htext]; rfl
    have hstarts := Lexeme.starts_number_of_written hwritten htext
    -- A blank would be passed before any number is read.
    have hblank : isBlank c = false := by
      by_contra hblank
      rw [starts_number_of_blank (by simpa using hblank)] at hstarts
      cases hstarts
    have hnumber := number_of_index hdrop hwritten hends
    have hhere : (ofIndex source index).current? = some c := hfirst
    simp [step, hhere, hblank, hstarts, hnumber, Lexeme.token, Lexeme.text]

/-- A lexeme of the text ends in the text, so that the steps past it lead to the character behind
it. -/
theorem lexeme_inside {lexeme : Lexeme} {rest : List Char}
    (hdrop : source.text.toList.drop index = lexeme.text ++ rest)
    (hwritten : lexeme.isWritten = true) :
    index + lexeme.text.length ≤ source.text.toList.length := by
  have hpos := List.length_pos_iff.2 (Lexeme.text_ne_nil hwritten)
  have hlength := congrArg List.length hdrop
  rw [List.length_drop, List.length_append] at hlength
  omega

/-! ## A whole scan -/

/-- Blanks only take the scan further. -/
theorem scan_blanks {blanks rest : List Char}
    (hdrop : source.text.toList.drop index = blanks ++ rest) (h : blanks.all isBlank = true) :
    (ofIndex source index).scan = (ofIndex source (index + blanks.length)).scan := by
  induction blanks generalizing index with
  | nil => rfl
  | cons c blanks ih =>
    rw [List.all_cons, Bool.and_eq_true] at h
    obtain ⟨hcurrent, hindex, hnext⟩ := of_drop_eq_cons hdrop
    rw [scan_of_pass (step_of_blank hcurrent h.1), advance_by_of_index hindex, ih hnext h.2,
      List.length_cons, Nat.add_right_comm, Nat.add_assoc]
    rfl

/-- What is found along maximal lexemes is their tokens, and then what is found behind them. -/
theorem scan_parts {parts : List (Lexeme × List Char)} {rest : List Char}
    (h : Layout.PartsMaximal parts)
    (hdrop : source.text.toList.drop index = Layout.partsText parts ++ rest)
    (hrest : ∀ c ∈ rest.head?, startsNumber c = false) :
    (ofIndex source index).scan =
      let behind := (ofIndex source (index + (Layout.partsText parts).length)).scan
      { behind with tokens := parts.map (fun part => part.1.token) ++ behind.tokens } := by
  induction parts generalizing index with
  | nil => rfl
  | cons part more ih =>
    obtain ⟨lexeme, blanks⟩ := part
    obtain ⟨hwritten, hends, hblanks, hmore⟩ := h
    rw [Layout.parts_text_cons, List.append_assoc] at hdrop
    have hstep := step_of_lexeme hdrop hwritten (Lexeme.ends_before_append hends hrest)
    have hinside := lexeme_inside hdrop hwritten
    have hbehind : source.text.toList.drop (index + lexeme.text.length) =
        blanks ++ (Layout.partsText more ++ rest) := by
      rw [drop_behind hdrop, List.append_assoc]
    rw [scan_of_pass hstep, advance_by_of_index hinside, scan_blanks hbehind hblanks,
      ih hmore (drop_behind hbehind), Layout.parts_text_cons, List.length_append,
      List.length_append]
    simp only [Nat.add_assoc, Option.toList_some, List.map_cons, List.cons_append, List.nil_append]

/-- A scan that has a maximal layout in front of it, and behind that the end of the text or an
illegal character, finds the tokens of the layout and that character. -/
theorem scan_layout {layout : Layout} {rest : List Char} (h : layout.IsMaximal)
    (hdrop : source.text.toList.drop index = layout.text ++ rest)
    (hrest : ∀ c ∈ rest.head?, isLegal c = false) :
    (ofIndex source index).scan = ⟨source, layout.tokens, rest.head?.map fun c =>
      (ofIndex source (index + layout.text.length)).illegal c⟩ := by
  have hstarts : ∀ c ∈ rest.head?, startsNumber c = false := by
    intro c hc
    by_contra hstarts
    have hlegal := is_legal_iff.2 (.inr (.inl (by simpa using hstarts : startsNumber c = true)))
    rw [hrest c hc] at hlegal
    cases hlegal
  -- An illegal character starts no number, so the last number of the layout does not go on there.
  rw [Layout.text, List.append_assoc] at hdrop
  have hparts : source.text.toList.drop (index + layout.blanks.length) =
      Layout.partsText layout.parts ++ rest := drop_behind hdrop
  have hrestDrop : source.text.toList.drop (index + layout.text.length) = rest := by
    rw [Layout.text, List.length_append, ← Nat.add_assoc, drop_behind hparts]
  rw [scan_blanks hdrop h.1, scan_parts h.2 hparts hstarts, Nat.add_assoc,
    ← List.length_append, ← Layout.text]
  cases rest with
  | nil =>
    rw [scan_of_finish (step_of_end (List.drop_eq_nil_iff.1 hrestDrop))]
    simp [Layout.tokens]
  | cons c rest =>
    have hcurrent := (of_drop_eq_cons hrestDrop).1
    rw [scan_of_reject (step_of_illegal hcurrent (hrest c rfl))]
    simp [Layout.tokens]

/-- The error at the first illegal character. Before it there are only characters of one byte and no
newlines, so its index is also its byte and its column. -/
theorem illegal_of_index (source : Source) {index : Nat} {c : Char}
    (hcurrent : source.text.toList[index]? = some c)
    (hbefore : ∀ d ∈ source.text.toList.take index, isLegal d = true) :
    (ofIndex source index).illegal c =
      ⟨.illegalCharacter, "'" ++ c.toString ++ "'", ⟨some index, index, 0, some index, source⟩,
        ⟨some (index + 1), index + c.utf8Size, if c = '\n' then 1 else 0,
          some (if c = '\n' then 0 else index + 1), source⟩⟩ := by
  have hindex : index < source.text.toList.length := (List.getElem?_eq_some_iff.1 hcurrent).1
  have hlength : (source.text.toList.take index).length = index :=
    List.length_take_of_le (Nat.le_of_lt hindex)
  have hnewline : '\n' ∉ source.text.toList.take index :=
    fun hmem => ne_newline_of_legal (hbefore _ hmem) rfl
  have hplace : Place.ofIndex source index = ⟨some index, index, 0, some index, source⟩ := by
    rw [Place.ofIndex, byte_count_of_legal hbefore, List.count_eq_zero_of_not_mem hnewline,
      column_behind_of_not_mem hnewline, hlength]
  have hnext : (ofIndex source index).advance.place =
      (Place.ofIndex source index).advance (some c) := by
    rw [advance, ofIndex, hcurrent]
  rw [illegal, hnext, of_index_place, hplace]
  by_cases hc : c = '\n'
  · simp [ScanError.illegal, Place.advance, Place.next, hc]
  · simp [ScanError.illegal, Place.advance, Place.next, hc]

end Scanner

namespace Source

/-- The scan of a text without illegal characters finds the tokens of a maximal layout of it. -/
theorem scan_of_legal (source : Source) (h : ∀ c ∈ source.text.toList, isLegal c = true) :
    ∃ layout : Layout, layout.IsMaximal ∧ layout.text = source.text.toList ∧
      source.scan = ⟨source, layout.tokens, none⟩ := by
  obtain ⟨layout, hmaximal, htext⟩ := Layout.exists_of_legal h
  refine ⟨layout, hmaximal, htext, ?_⟩
  have hdrop : source.text.toList.drop 0 = layout.text ++ [] := by simp [htext]
  rw [scan, Scanner.start_eq, Scanner.scan_layout hmaximal hdrop (by simp)]
  rfl

/-- The scan of a text with an illegal character finds the tokens of a maximal layout of the text
before the first one, and then this character. -/
theorem scan_of_illegal (source : Source) {index : Nat} {c : Char}
    (hcurrent : source.text.toList[index]? = some c) (hillegal : isLegal c = false)
    (hbefore : ∀ d ∈ source.text.toList.take index, isLegal d = true) :
    ∃ layout : Layout, layout.IsMaximal ∧ layout.text = source.text.toList.take index ∧
      source.scan =
        ⟨source, layout.tokens, some ((Scanner.ofIndex source index).illegal c)⟩ := by
  obtain ⟨layout, hmaximal, htext⟩ := Layout.exists_of_legal hbefore
  refine ⟨layout, hmaximal, htext, ?_⟩
  have hdrop : source.text.toList.drop 0 = layout.text ++ source.text.toList.drop index := by
    rw [htext, List.take_append_drop, List.drop_zero]
  have hhead : (source.text.toList.drop index).head? = some c := by rw [List.head?_drop, hcurrent]
  have hlength : layout.text.length = index := by
    rw [htext, List.length_take_of_le (Nat.le_of_lt (List.getElem?_eq_some_iff.1 hcurrent).1)]
  rw [scan, Scanner.start_eq, Scanner.scan_layout hmaximal hdrop (by simpa [hhead] using hillegal),
    hhead, hlength, Nat.zero_add]
  rfl

end Source

/-- Tokenizing is scanning for the result. -/
theorem result_scan (name text : String) :
    (Source.scan ⟨name, text⟩).result = tokenize name text := rfl

/-- A text without illegal characters has tokens. -/
theorem tokenize_of_layout (name : String) {text : String} {layout : Layout}
    (hmaximal : layout.IsMaximal) (htext : layout.text = text.toList) :
    tokenize name text = .ok layout.tokens := by
  obtain ⟨other, hother, hotherText, hscan⟩ :=
    Source.scan_of_legal ⟨name, text⟩ (htext ▸ Layout.text_legal hmaximal)
  obtain rfl := Layout.eq_of_text_eq hmaximal hother (htext.trans hotherText.symm)
  rw [tokenize, hscan]
  rfl

/-- The first illegal character of a text is its error. -/
theorem tokenize_of_illegal (name : String) {text : String} {index : Nat} {c : Char}
    (hcurrent : text.toList[index]? = some c) (hillegal : isLegal c = false)
    (hbefore : ∀ d ∈ text.toList.take index, isLegal d = true) :
    tokenize name text = .error ((Scanner.ofIndex ⟨name, text⟩ index).illegal c) := by
  obtain ⟨layout, -, -, hscan⟩ :=
    Source.scan_of_illegal ⟨name, text⟩ hcurrent hillegal hbefore
  rw [tokenize, hscan]
  rfl

/-- A text with an illegal character has a first one. -/
theorem exists_first_illegal {text : List Char} (h : ∃ c ∈ text, isLegal c = false) :
    ∃ index c, text[index]? = some c ∧ isLegal c = false ∧
      ∀ d ∈ text.take index, isLegal d = true := by
  induction text with
  | nil => simp at h
  | cons c rest ih =>
    by_cases hc : isLegal c = true
    · obtain ⟨d, hd, hillegal⟩ := h
      rcases List.mem_cons.1 hd with rfl | hd
      · rw [hc] at hillegal
        cases hillegal
      · obtain ⟨index, e, hcurrent, he, hbefore⟩ := ih ⟨d, hd, hillegal⟩
        refine ⟨index + 1, e, hcurrent, he, ?_⟩
        intro f hf
        rcases List.mem_cons.1 hf with rfl | hf
        · exact hc
        · exact hbefore f hf
    · exact ⟨0, c, rfl, by simpa using hc, by simp⟩

/-- A scan succeeds or fails by whether all characters are legal. -/
theorem tokenize_ok_iff_legal (name text : String) :
    (∃ tokens, tokenize name text = .ok tokens) ↔ ∀ c ∈ text.toList, isLegal c = true := by
  constructor
  · rintro ⟨tokens, htokens⟩
    by_contra h
    push Not at h
    obtain ⟨index, c, hcurrent, hillegal, hbefore⟩ :=
      exists_first_illegal (by simpa using h : ∃ c ∈ text.toList, isLegal c = false)
    rw [tokenize_of_illegal name hcurrent hillegal hbefore] at htokens
    cases htokens
  · intro h
    obtain ⟨layout, hmaximal, htext⟩ := Layout.exists_of_legal h
    exact ⟨layout.tokens, tokenize_of_layout name hmaximal htext⟩

/-- The tokens that are found are those of a maximal layout of the text. -/
theorem layout_of_tokenize {name text : String} {tokens : List Token}
    (h : tokenize name text = .ok tokens) :
    ∃ layout : Layout, layout.IsMaximal ∧ layout.text = text.toList ∧ layout.tokens = tokens := by
  obtain ⟨layout, hmaximal, htext⟩ :=
    Layout.exists_of_legal ((tokenize_ok_iff_legal name text).1 ⟨tokens, h⟩)
  have hlayout := tokenize_of_layout name hmaximal htext
  exact ⟨layout, hmaximal, htext, Except.ok.inj (hlayout.symm.trans h)⟩

/-! ## What is accepted, and what is reported -/

/-- A text is accepted exactly if it can be cut into blanks, symbols and numbers that are as long as
they can be; this can be done in one way only, and the tokens are those of the symbols and numbers
in their order. -/
theorem tokenize_ok_iff_layout (name text : String) (tokens : List Token) :
    (tokenize name text = .ok tokens ↔
      ∃ layout : Layout, layout.IsMaximal ∧ layout.text = text.toList ∧ layout.tokens = tokens) ∧
    ∀ layout other : Layout, layout.IsMaximal → layout.text = text.toList → other.IsMaximal →
      other.text = text.toList → layout = other := by
  constructor
  · constructor
    · intro h
      obtain ⟨layout, hmaximal, htext⟩ :=
        Layout.exists_of_legal ((tokenize_ok_iff_legal name text).1 ⟨tokens, h⟩)
      rw [tokenize_of_layout name hmaximal htext] at h
      exact ⟨layout, hmaximal, htext, Except.ok.inj h⟩
    · rintro ⟨layout, hmaximal, htext, rfl⟩
      exact tokenize_of_layout name hmaximal htext
  · intro layout other hlayout htext hother hotherText
    exact Layout.eq_of_text_eq hlayout hother (htext.trans hotherText.symm)

/-- The second of two points starts a number, and there is no other way to cut this text. -/
theorem tokenize_two_points :
    let layout : Layout := ⟨[], [(.number ⟨['1'], some []⟩, []), (.number ⟨[], some ['2']⟩, [])]⟩
    let other : Layout := ⟨[], [(.number ⟨['1'], none⟩, []), (.number ⟨[], some []⟩, []),
      (.number ⟨[], some ['2']⟩, [])]⟩
    tokenize "sum" "1..2" = .ok layout.tokens ∧ ¬ other.IsMaximal := by
  intro layout other
  have hlayout : layout.IsMaximal := by
    refine ⟨rfl, rfl, ?_, rfl, rfl, ?_, rfl, trivial⟩
    · rintro c ⟨⟩
      exact ⟨by decide, by rintro ⟨⟩⟩
    · rintro c ⟨⟩
  have htext : layout.text = "1..2".toList := by decide +kernel
  obtain ⟨haccepted, hunique⟩ := tokenize_ok_iff_layout "sum" "1..2" layout.tokens
  refine ⟨haccepted.2 ⟨layout, hlayout, htext, rfl⟩, fun hother => ?_⟩
  have hsame := hunique layout other hlayout htext hother (by decide +kernel)
  exact absurd hsame (by decide)

/-- An error as it is found in another text at the same place. -/
def ScanError.inText (error : ScanError) (text : String) : ScanError :=
  { error with
    start := { error.start with source := { error.start.source with text := text } }
    stop := { error.stop with source := { error.stop.source with text := text } } }

/-- A scan fails exactly if there is an illegal character, and then reports the first one with its
exact place, whatever follows it. -/
theorem tokenize_first_illegal (name text : String) :
    ((∃ error, tokenize name text = .error error) ↔ ∃ c ∈ text.toList, isLegal c = false) ∧
    ∀ index c, text.toList[index]? = some c → isLegal c = false →
      (∀ d ∈ text.toList.take index, isLegal d = true) →
      ∃ error, tokenize name text = .error error ∧
        error.fault = .illegalCharacter ∧
        error.detail = "'" ++ c.toString ++ "'" ∧
        error.start = ⟨some index, index, 0, some index, ⟨name, text⟩⟩ ∧
        byteCount (text.toList.take index) = index ∧
        error.stop = ⟨some (index + 1), index + c.utf8Size, if c = '\n' then 1 else 0,
          some (if c = '\n' then 0 else index + 1), ⟨name, text⟩⟩ ∧
        error.span = ⟨index, c.utf8Size⟩ ∧
        error.message =
          "Illegal Character: " ++ error.detail ++ "\nFile " ++ name ++ ", line 1" ∧
        ∀ other : String, other.toList.take (index + 1) = text.toList.take (index + 1) →
          tokenize name other = .error (error.inText other) := by
  constructor
  · constructor
    · rintro ⟨error, herror⟩
      by_contra hlegal
      push Not at hlegal
      obtain ⟨tokens, htokens⟩ :=
        (tokenize_ok_iff_legal name text).2 (by simpa using hlegal)
      rw [htokens] at herror
      cases herror
    · intro h
      obtain ⟨index, c, hcurrent, hillegal, hbefore⟩ := exists_first_illegal h
      exact ⟨_, tokenize_of_illegal name hcurrent hillegal hbefore⟩
  · intro index c hcurrent hillegal hbefore
    have herror := tokenize_of_illegal name hcurrent hillegal hbefore
    rw [Scanner.illegal_of_index ⟨name, text⟩ hcurrent hbefore] at herror
    refine ⟨_, herror, rfl, rfl, rfl, ?_, rfl, ?_, ?_, ?_⟩
    · rw [byte_count_of_legal hbefore]
      exact List.length_take_of_le (Nat.le_of_lt (List.getElem?_eq_some_iff.1 hcurrent).1)
    · simp [ScanError.span, Span.between]
    · have hline : (0 + 1).repr = "1" := rfl
      simp only [ScanError.message, Fault.title, hline, String.append_assoc]
      rfl
    · intro other hother
      -- The first illegal character of the other text is the same one at the same place.
      have hotherCurrent : other.toList[index]? = some c := by
        rw [← List.getElem?_take_of_lt (Nat.lt_succ_self index), hother,
          List.getElem?_take_of_lt (Nat.lt_succ_self index), hcurrent]
      have hotherTake : other.toList.take index = text.toList.take index := by
        have htake := congrArg (List.take index) hother
        rwa [List.take_take, List.take_take, Nat.min_eq_left (Nat.le_succ index)] at htake
      have hotherBefore : ∀ d ∈ other.toList.take index, isLegal d = true := hotherTake ▸ hbefore
      rw [tokenize_of_illegal name hotherCurrent hillegal hotherBefore,
        Scanner.illegal_of_index ⟨name, other⟩ hotherCurrent hotherBefore]
      rfl

/-- A sign of two bytes behind a number is reported with its bytes. -/
theorem tokenize_first_sign :
    ∃ error, tokenize "sum" "2.×\n" = .error error ∧ error.span = ⟨2, 2⟩ ∧
      error.stop = ⟨some 3, 4, 0, some 3, ⟨"sum", "2.×\n"⟩⟩ := by
  have hsign : "2.×\n".toList[2]? = some '×' := by decide +kernel
  have hbefore : ∀ d ∈ "2.×\n".toList.take 2, isLegal d = true :=
    List.all_eq_true.1 (by decide +kernel)
  obtain ⟨error, herror, -, -, -, -, hstop, hspan, -⟩ :=
    (tokenize_first_illegal "sum" "2.×\n").2 2 '×' hsign rfl hbefore
  exact ⟨error, herror, hspan, hstop⟩

end ArithTokens
