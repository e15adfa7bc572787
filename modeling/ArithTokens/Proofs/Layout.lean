import ArithTokens.Proofs.Number

/-!
# Layouts

A layout cuts a text into lexemes, each a symbol or a number, with blanks before, between and behind
them. In a maximal layout every number is as long as it can be. A text has a maximal layout exactly
if all its characters are legal (`Layout.exists_of_legal`, `Layout.text_legal`), and it has only one
(`Layout.eq_of_text_eq`).
-/

namespace ArithTokens

/-- The characters that a text may have: digits, points, blanks and symbols. -/
def isLegal (c : Char) : Bool :=
  c.isDigit || [' ', '\t', '.', '+', '-', '*', '/', '(', ')'].contains c

/-- A legal character is a blank, starts a number, or is a symbol. -/
theorem is_legal_iff {c : Char} :
    isLegal c = true ↔ isBlank c = true ∨ startsNumber c = true ∨
      ∃ symbol, Symbol.ofChar? c = some symbol := by
  constructor
  · intro h
    simp only [isLegal, Bool.or_eq_true, List.contains_iff_mem, List.mem_cons, List.not_mem_nil,
      or_false] at h
    rcases h with h | rfl | rfl | rfl | rfl | rfl | rfl | rfl | rfl | rfl
    · exact .inr (.inl (by simp [startsNumber, h]))
    · exact .inl rfl
    · exact .inl rfl
    · exact .inr (.inl rfl)
    all_goals exact .inr (.inr ⟨_, rfl⟩)
  · rintro (h | h | ⟨symbol, h⟩)
    · simp only [isBlank, Bool.or_eq_true, decide_eq_true_eq] at h
      rcases h with rfl | rfl <;> rfl
    · simp only [startsNumber, Bool.or_eq_true, decide_eq_true_eq] at h
      rcases h with h | rfl
      · simp [isLegal, h]
      · rfl
    · rw [Symbol.of_char_eq_some_iff.1 h]
      cases symbol <;> rfl

/-- A blank does not start a number. -/
theorem starts_number_of_blank {c : Char} (h : isBlank c = true) : startsNumber c = false := by
  simp only [isBlank, Bool.or_eq_true, decide_eq_true_eq] at h
  rcases h with rfl | rfl <;> rfl

/-- A piece of text that stands for a token. -/
inductive Lexeme where
  | symbol (symbol : Symbol)
  | number (number : NumberLexeme)
deriving DecidableEq, Repr

namespace Lexeme

/-- The characters of a lexeme. -/
def text : Lexeme → List Char
  | .symbol s => [s.char]
  | .number n => n.text

/-- The token that a lexeme stands for. -/
def token : Lexeme → Token
  | .symbol s => .symbol s
  | .number n => n.token

/-- Says that a lexeme is made of the right characters. -/
def isWritten : Lexeme → Bool
  | .symbol _ => true
  | .number n => n.isWritten

/-- Says that a lexeme cannot go on into the text behind it, which only numbers ever do. -/
def EndsBefore (rest : List Char) : Lexeme → Prop
  | .symbol _ => True
  | .number n => n.EndsBefore rest

/-- The longest lexeme at the start of a text, if one starts there. -/
def first? : List Char → Option Lexeme
  | [] => none
  | c :: rest =>
    if startsNumber c then some (.number (.read (c :: rest)))
    else (Symbol.ofChar? c).map .symbol

variable {lexeme : Lexeme}

/-- A symbol does not start a number. -/
theorem starts_number_symbol (s : Symbol) : startsNumber s.char = false := by
  cases s <;> rfl

/-- The first character of a number is a digit or a point. -/
theorem starts_number_of_written {number : NumberLexeme} {c : Char} {rest : List Char}
    (hwritten : number.isWritten = true) (htext : number.text = c :: rest) :
    startsNumber c = true := by
  obtain ⟨hwhole, -, hne⟩ := NumberLexeme.isWritten_iff.1 hwritten
  obtain ⟨whole, fraction?⟩ := number
  cases whole with
  | cons d digits =>
    obtain rfl : d = c := (List.cons.inj htext).1
    simp [startsNumber, hwhole d (by simp)]
  | nil =>
    cases fraction? with
    | none => exact absurd rfl hne
    | some fraction =>
      obtain rfl : '.' = c := (List.cons.inj htext).1
      rfl

/-- No lexeme is empty. -/
theorem text_ne_nil (hwritten : lexeme.isWritten = true) : lexeme.text ≠ [] := by
  cases lexeme with
  | symbol s => exact List.cons_ne_nil _ _
  | number n => exact (NumberLexeme.isWritten_iff.1 hwritten).2.2

/-- A lexeme that cannot go on into the text behind it is the first one in front of that text. -/
theorem first_append {rest : List Char} (hwritten : lexeme.isWritten = true)
    (hends : lexeme.EndsBefore rest) : first? (lexeme.text ++ rest) = some lexeme := by
  cases lexeme with
  | symbol s =>
    have hsymbol := Symbol.of_char_eq_some_iff.2 (rfl : s.char = s.char)
    simp [text, first?, starts_number_symbol, hsymbol]
  | number n =>
    have hread := NumberLexeme.read_append hwritten hends
    cases htext : n.text with
    | nil => exact absurd htext (text_ne_nil hwritten)
    | cons c digits =>
      rw [htext, List.cons_append] at hread
      rw [text, htext, List.cons_append, first?, if_pos (starts_number_of_written hwritten htext),
        hread]

/-- The first lexeme of a text is a first part of it that cannot go on. -/
theorem first_spec {source : List Char} (h : first? source = some lexeme) :
    lexeme.isWritten = true ∧ ∃ rest, source = lexeme.text ++ rest ∧ lexeme.EndsBefore rest := by
  cases source with
  | nil => cases h
  | cons c rest =>
    simp only [first?] at h
    split at h
    · next hstarts =>
      cases h
      exact ⟨NumberLexeme.read_is_written hstarts, NumberLexeme.read_ends _⟩
    · obtain ⟨s, hs, rfl⟩ := Option.map_eq_some_iff.1 h
      exact ⟨rfl, rest, by rw [Symbol.of_char_eq_some_iff.1 hs]; rfl, trivial⟩

/-- No lexeme starts with a blank. -/
theorem first_of_blank {c : Char} {rest : List Char} (h : isBlank c = true) :
    first? (c :: rest) = none := by
  simp only [isBlank, Bool.or_eq_true, decide_eq_true_eq] at h
  rcases h with rfl | rfl <;> rfl

/-- A lexeme starts with every legal character that is not a blank. -/
theorem exists_first {c : Char} (rest : List Char) (hlegal : isLegal c = true)
    (hblank : isBlank c = false) : ∃ lexeme, first? (c :: rest) = some lexeme := by
  rcases is_legal_iff.1 hlegal with h | h | ⟨s, h⟩
  · simp [h] at hblank
  · exact ⟨.number (.read (c :: rest)), by simp [first?, h]⟩
  · refine ⟨.symbol s, ?_⟩
    have hstarts : startsNumber c = false := by
      rw [Symbol.of_char_eq_some_iff.1 h, starts_number_symbol]
    simp [first?, hstarts, h]

/-- A lexeme that cannot go on into a text cannot do so when more text follows in which no number
starts. -/
theorem ends_before_append {rest more : List Char} (hends : lexeme.EndsBefore rest)
    (hmore : ∀ c ∈ more.head?, startsNumber c = false) : lexeme.EndsBefore (rest ++ more) := by
  cases lexeme with
  | symbol s => trivial
  | number n =>
    intro c hc
    cases rest with
    | cons d rest => exact hends c hc
    | nil => exact NumberLexeme.ends_before_of_starts hmore c hc

/-- The characters of a lexeme are legal. -/
theorem text_legal (hwritten : lexeme.isWritten = true) : ∀ c ∈ lexeme.text, isLegal c = true := by
  intro c hc
  cases lexeme with
  | symbol s =>
    obtain rfl := List.mem_singleton.1 hc
    exact is_legal_iff.2 (.inr (.inr ⟨s, Symbol.of_char_eq_some_iff.2 rfl⟩))
  | number n =>
    exact is_legal_iff.2 (.inr (.inl (NumberLexeme.starts_number_of_mem hwritten c hc)))

end Lexeme

/-- Blanks, and then lexemes with the blanks behind each of them. -/
structure Layout where
  blanks : List Char
  parts : List (Lexeme × List Char)
deriving DecidableEq, Repr

namespace Layout

/-- The text of lexemes and the blanks behind them. -/
def partsText (parts : List (Lexeme × List Char)) : List Char :=
  parts.flatMap fun part => part.1.text ++ part.2

/-- The text that is laid out. -/
def text (layout : Layout) : List Char := layout.blanks ++ partsText layout.parts

/-- The tokens of the lexemes. -/
def tokens (layout : Layout) : List Token := layout.parts.map fun part => part.1.token

/-- Says that the lexemes are made of the right characters, that no number can go on into the text
behind it, and that the blanks are blanks. -/
def PartsMaximal : List (Lexeme × List Char) → Prop
  | [] => True
  | (lexeme, blanks) :: rest =>
    lexeme.isWritten = true ∧ lexeme.EndsBefore (blanks ++ partsText rest) ∧
      blanks.all isBlank = true ∧ PartsMaximal rest

/-- Says that a layout cuts its text into the longest lexemes and blanks. -/
def IsMaximal (layout : Layout) : Prop :=
  layout.blanks.all isBlank = true ∧ PartsMaximal layout.parts

@[simp] theorem parts_text_nil : partsText [] = [] := rfl

@[simp] theorem parts_text_cons (lexeme : Lexeme) (blanks : List Char)
    (rest : List (Lexeme × List Char)) :
    partsText ((lexeme, blanks) :: rest) = lexeme.text ++ (blanks ++ partsText rest) := by
  simp [partsText]

/-- Lexemes with the blanks behind them do not start with a blank. -/
theorem parts_text_head {parts : List (Lexeme × List Char)} (h : PartsMaximal parts) :
    ∀ c ∈ (partsText parts).head?, isBlank c = false := by
  intro c hc
  cases parts with
  | nil => cases hc
  | cons part rest =>
    obtain ⟨lexeme, blanks⟩ := part
    obtain ⟨hwritten, hends, -, -⟩ := h
    have hfirst := Lexeme.first_append hwritten hends
    rw [parts_text_cons] at hc
    cases htext : lexeme.text ++ (blanks ++ partsText rest) with
    | nil => simp [htext] at hc
    | cons d tail =>
      rw [htext] at hc hfirst
      obtain rfl : d = c := Option.some.inj hc
      by_contra hblank
      rw [Lexeme.first_of_blank (by simpa using hblank)] at hfirst
      cases hfirst

/-- The blanks in front of maximal lexemes are those that the text starts with. -/
theorem blanks_eq {layout : Layout} (h : layout.IsMaximal) :
    layout.blanks = layout.text.takeWhile isBlank :=
  (take_while_append (List.all_eq_true.1 h.1) (parts_text_head h.2)).symm

/-- The first of two maximal lists of lexemes with one text is that of the other. -/
theorem parts_eq {parts others : List (Lexeme × List Char)} (h : PartsMaximal parts)
    (hothers : PartsMaximal others) (htext : partsText parts = partsText others) :
    parts = others := by
  induction parts generalizing others with
  | nil =>
    cases others with
    | nil => rfl
    | cons other rest =>
      have hempty := htext.symm
      rw [parts_text_cons, parts_text_nil, List.append_eq_nil_iff] at hempty
      exact absurd hempty.1 (Lexeme.text_ne_nil hothers.1)
  | cons part rest ih =>
    obtain ⟨lexeme, blanks⟩ := part
    obtain ⟨hwritten, hends, hblanks, hrest⟩ := h
    cases others with
    | nil =>
      rw [parts_text_cons, parts_text_nil, List.append_eq_nil_iff] at htext
      exact absurd htext.1 (Lexeme.text_ne_nil hwritten)
    | cons other others =>
      obtain ⟨lexeme', blanks'⟩ := other
      obtain ⟨hwritten', hends', hblanks', hrest'⟩ := hothers
      rw [parts_text_cons, parts_text_cons] at htext
      -- Both lexemes are the longest one at the start of the same text, and both runs of blanks are
      -- all the blanks behind it.
      obtain rfl : lexeme = lexeme' := by
        have hfirst := Lexeme.first_append hwritten hends
        rw [htext, Lexeme.first_append hwritten' hends'] at hfirst
        exact (Option.some.inj hfirst).symm
      have hbehind := List.append_cancel_left htext
      have hlayout : IsMaximal ⟨blanks, rest⟩ := ⟨hblanks, hrest⟩
      have hother : IsMaximal ⟨blanks', others⟩ := ⟨hblanks', hrest'⟩
      obtain rfl : blanks = blanks' :=
        calc blanks = (blanks ++ partsText rest).takeWhile isBlank := blanks_eq hlayout
          _ = (blanks' ++ partsText others).takeWhile isBlank := by rw [hbehind]
          _ = blanks' := (blanks_eq hother).symm
      rw [ih hrest hrest' (List.append_cancel_left hbehind)]

/-- A text has at most one maximal layout. -/
theorem eq_of_text_eq {layout other : Layout} (h : layout.IsMaximal) (hother : other.IsMaximal)
    (htext : layout.text = other.text) : layout = other := by
  obtain ⟨blanks, parts⟩ := layout
  obtain ⟨blanks', parts'⟩ := other
  obtain rfl : blanks = blanks' := by
    have hblanks := blanks_eq h
    rwa [htext, ← blanks_eq hother] at hblanks
  obtain rfl : parts = parts' := parts_eq h.2 hother.2 (List.append_cancel_left htext)
  rfl

/-- Every legal text has a maximal layout. -/
theorem exists_of_legal {source : List Char} (h : ∀ c ∈ source, isLegal c = true) :
    ∃ layout : Layout, layout.IsMaximal ∧ layout.text = source := by
  -- The induction is on the length, as a number takes away any number of characters.
  induction hlength : source.length using Nat.strongRecOn generalizing source with
  | ind length ih =>
    subst hlength
    cases source with
    | nil => exact ⟨⟨[], []⟩, ⟨rfl, trivial⟩, rfl⟩
    | cons c rest =>
      by_cases hblank : isBlank c = true
      · obtain ⟨layout, ⟨hblanks, hparts⟩, htext⟩ :=
          ih rest.length (Nat.lt_succ_self _) (fun d hd => h d (List.mem_cons_of_mem c hd)) rfl
        refine ⟨⟨c :: layout.blanks, layout.parts⟩, ⟨?_, hparts⟩, ?_⟩
        · rw [List.all_cons, hblank, hblanks, Bool.and_true]
        · rw [← htext]
          rfl
      · obtain ⟨lexeme, hfirst⟩ :=
          Lexeme.exists_first rest (h c List.mem_cons_self) (by simpa using hblank)
        obtain ⟨hwritten, after, hsplit, hends⟩ := Lexeme.first_spec hfirst
        have hshorter : after.length < (c :: rest).length := by
          have hpos := List.length_pos_iff.2 (Lexeme.text_ne_nil hwritten)
          rw [hsplit, List.length_append]
          omega
        obtain ⟨layout, ⟨hblanks, hparts⟩, htext⟩ :=
          ih after.length hshorter (fun d hd => h d (hsplit ▸ List.mem_append_right _ hd)) rfl
        refine ⟨⟨[], (lexeme, layout.blanks) :: layout.parts⟩, ⟨rfl, hwritten, ?_, hblanks, hparts⟩,
          ?_⟩
        · rw [← htext] at hends
          exact hends
        · rw [hsplit, ← htext, text, List.nil_append, parts_text_cons, text]

/-- The characters of a layout are legal. -/
theorem text_legal {layout : Layout} (h : layout.IsMaximal) :
    ∀ c ∈ layout.text, isLegal c = true := by
  have hblank : ∀ blanks : List Char, blanks.all isBlank = true → ∀ c ∈ blanks, isLegal c = true :=
    fun blanks hblanks c hc => is_legal_iff.2 (.inl (List.all_eq_true.1 hblanks c hc))
  have hparts : ∀ parts, PartsMaximal parts → ∀ c ∈ partsText parts, isLegal c = true := by
    intro parts
    induction parts with
    | nil => intro _ c hc; cases hc
    | cons part rest ih =>
      rintro ⟨hwritten, -, hblanks, hrest⟩ c hc
      rw [parts_text_cons, List.mem_append, List.mem_append] at hc
      rcases hc with hc | hc | hc
      · exact Lexeme.text_legal hwritten c hc
      · exact hblank _ hblanks c hc
      · exact ih hrest c hc
  intro c hc
  rcases List.mem_append.1 hc with hc | hc
  · exact hblank _ h.1 c hc
  · exact hparts _ h.2 c hc

end Layout

end ArithTokens
