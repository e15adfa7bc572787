import ArithTokens.Proofs.Scanning

/-!
# One text behind another

Two maximal layouts, one behind the other, are a maximal layout of the two texts together, unless
the first one ends with a number that goes on into the second text (`Layout.append_maximal`). Hence
scanning the two texts together gives the tokens of the first and then those of the second, unless
a number is cut between them (`tokenize_append`). Blanks between the texts keep them apart.
-/

namespace ArithTokens

namespace Layout

/-- Lexemes behind some blanks, and a layout behind these. The blanks that the layout starts with
belong to the last lexeme before it. -/
def appendParts (blanks : List Char) (second : Layout) : List (Lexeme × List Char) → Layout
  | [] => ⟨blanks ++ second.blanks, second.parts⟩
  | (lexeme, behind) :: rest =>
    ⟨blanks, (lexeme, (appendParts behind second rest).blanks) ::
      (appendParts behind second rest).parts⟩

/-- One layout behind another. -/
def append (first second : Layout) : Layout := appendParts first.blanks second first.parts

/-- Says that a layout ends with a number, without blanks behind it. -/
def EndsWith (layout : Layout) (number : NumberLexeme) : Prop :=
  layout.parts.getLast? = some (.number number, [])

/-- The text of two layouts is the text of the first and then that of the second. -/
theorem append_text (first second : Layout) :
    (first.append second).text = first.text ++ second.text := by
  obtain ⟨blanks, parts⟩ := first
  show (appendParts blanks second parts).text = _
  induction parts generalizing blanks with
  | nil => simp [appendParts, text]
  | cons part rest ih =>
    obtain ⟨lexeme, behind⟩ := part
    have htail := ih behind
    simp only [text] at htail
    simp only [appendParts, text, parts_text_cons, htail, List.append_assoc]

/-- The tokens of two layouts are those of the first and then those of the second. -/
theorem append_tokens (first second : Layout) :
    (first.append second).tokens = first.tokens ++ second.tokens := by
  obtain ⟨blanks, parts⟩ := first
  show (appendParts blanks second parts).tokens = _
  induction parts generalizing blanks with
  | nil => rfl
  | cons part rest ih =>
    obtain ⟨lexeme, behind⟩ := part
    have htail := ih behind
    simp only [tokens] at htail
    simp only [appendParts, tokens, List.map_cons, htail, List.cons_append]

/-- Maximal lexemes without text are none. -/
theorem parts_eq_nil {parts : List (Lexeme × List Char)} (h : PartsMaximal parts)
    (htext : partsText parts = []) : parts = [] := by
  cases parts with
  | nil => rfl
  | cons part rest =>
    rw [parts_text_cons, List.append_eq_nil_iff] at htext
    exact absurd htext.1 (Lexeme.text_ne_nil h.1)

/-- Two maximal layouts are a maximal one if no number at the end of the first can go on into the
text of the second. -/
theorem append_maximal {first second : Layout} (h : first.IsMaximal) (hsecond : second.IsMaximal)
    (hends : ∀ number, first.EndsWith number → number.EndsBefore second.text) :
    (first.append second).IsMaximal := by
  obtain ⟨blanks, parts⟩ := first
  show (appendParts blanks second parts).IsMaximal
  induction parts generalizing blanks with
  | nil =>
    refine ⟨?_, hsecond.2⟩
    rw [appendParts, List.all_append, h.1, hsecond.1, Bool.and_true]
  | cons part rest ih =>
    obtain ⟨lexeme, behind⟩ := part
    obtain ⟨hblanks, hwritten, hlexeme, hbehind, hrest⟩ := h
    have htail : (appendParts behind second rest).IsMaximal := by
      refine ih behind ⟨hbehind, hrest⟩ ?_
      intro number hlast
      refine hends number ?_
      have hlast' : rest.getLast? = some (.number number, []) := hlast
      show ((lexeme, behind) :: rest).getLast? = _
      rw [List.getLast?_cons, hlast', Option.getD_some]
    have htext : (appendParts behind second rest).text =
        behind ++ partsText rest ++ second.text := append_text ⟨behind, rest⟩ second
    -- Behind a lexeme comes what came there before, and only the last one meets the second text.
    have hlexemeEnds : lexeme.EndsBefore (appendParts behind second rest).text := by
      rw [htext]
      cases lexeme with
      | symbol s => trivial
      | number n =>
        cases hahead : behind ++ partsText rest with
        | cons c ahead =>
          rw [hahead] at hlexeme
          intro d hd
          exact hlexeme d hd
        | nil =>
          obtain ⟨hnone, hempty⟩ := List.append_eq_nil_iff.1 hahead
          have hlast : EndsWith ⟨blanks, (.number n, behind) :: rest⟩ n := by
            rw [EndsWith, parts_eq_nil hrest hempty, hnone]
            rfl
          exact hends n hlast
    exact ⟨hblanks, hwritten, hlexemeEnds, htail.1, htail.2⟩

end Layout

/-- Says that a number is cut between two texts: the first one ends with a number, and the second
one starts with a digit, or with a point if the number has none yet. -/
def CutsNumber (first second : String) : Prop :=
  ∃ (layout : Layout) (number : NumberLexeme) (c : Char),
    layout.IsMaximal ∧ layout.text = first.toList ∧ layout.EndsWith number ∧
      second.toList.head? = some c ∧ (c.isDigit = true ∨ number.fraction? = none ∧ c = '.')

/-- The tokens of two texts, when no number can go on from the first into the second one. -/
theorem tokenize_append_of_ends (name : String) {first second : String} {layout other : Layout}
    (h : layout.IsMaximal) (htext : layout.text = first.toList)
    (hother : other.IsMaximal) (hotherText : other.text = second.toList)
    (hends : ∀ number, layout.EndsWith number → number.EndsBefore second.toList) :
    tokenize name (first ++ second) = .ok (layout.tokens ++ other.tokens) := by
  rw [← hotherText] at hends
  have hboth : (layout.append other).text = (first ++ second).toList := by
    rw [Layout.append_text, htext, hotherText, String.toList_append]
  rw [tokenize_of_layout name (Layout.append_maximal h hother hends) hboth, Layout.append_tokens]

/-- Two texts with blanks between them are accepted exactly if both are. Their tokens are those of
the first text and then those of the second, if there is a blank between them or no number is cut
there. -/
theorem tokenize_append (name : String) {first blanks second : String}
    (hblanks : blanks.toList.all isBlank = true) :
    ((∃ tokens, tokenize name (first ++ blanks ++ second) = .ok tokens) ↔
      (∃ tokens, tokenize name first = .ok tokens) ∧
        ∃ tokens, tokenize name second = .ok tokens) ∧
    ∀ tokens others, tokenize name first = .ok tokens → tokenize name second = .ok others →
      (blanks ≠ "" ∨ ¬ CutsNumber first second) →
      tokenize name (first ++ blanks ++ second) = .ok (tokens ++ others) := by
  constructor
  · have hlegal : ∀ c ∈ blanks.toList, isLegal c = true :=
      fun c hc => is_legal_iff.2 (.inl (List.all_eq_true.1 hblanks c hc))
    simp only [tokenize_ok_iff_legal, String.toList_append, List.mem_append]
    constructor
    · intro h
      exact ⟨fun c hc => h c (.inl (.inl hc)), fun c hc => h c (.inr hc)⟩
    · rintro ⟨hfirst, hsecond⟩ c ((hc | hc) | hc)
      · exact hfirst c hc
      · exact hlegal c hc
      · exact hsecond c hc
  · intro tokens others htokens hothers hcut
    obtain ⟨layout, hlayout, htext, rfl⟩ := layout_of_tokenize htokens
    obtain ⟨other, hother, hotherText, rfl⟩ := layout_of_tokenize hothers
    -- The blanks are laid out with the second text, in front of its own blanks.
    have hbehind : Layout.IsMaximal ⟨blanks.toList ++ other.blanks, other.parts⟩ := by
      refine ⟨?_, hother.2⟩
      rw [List.all_append, hblanks, hother.1, Bool.and_true]
    have hbehindText : Layout.text ⟨blanks.toList ++ other.blanks, other.parts⟩ =
        (blanks ++ second).toList := by
      rw [Layout.text, List.append_assoc, String.toList_append, ← hotherText, Layout.text]
    have hends : ∀ number, layout.EndsWith number →
        number.EndsBefore (blanks ++ second).toList := by
      intro number hnumber
      rw [String.toList_append]
      cases hblank : blanks.toList with
      | cons blank more =>
        rw [hblank, List.all_cons, Bool.and_eq_true] at hblanks
        refine NumberLexeme.ends_before_of_starts ?_
        rw [List.cons_append]
        exact of_head_cons (starts_number_of_blank hblanks.1)
      | nil =>
        have hnot : ¬ CutsNumber first second :=
          hcut.resolve_left fun hne => hne (String.toList_eq_nil_iff.1 hblank)
        intro c hc
        constructor
        · by_contra hdigit
          rw [Bool.not_eq_false] at hdigit
          exact hnot ⟨layout, number, c, hlayout, htext, hnumber, hc, .inl hdigit⟩
        · intro hfraction hpoint
          exact hnot ⟨layout, number, c, hlayout, htext, hnumber, hc, .inr ⟨hfraction, hpoint⟩⟩
    have happend := tokenize_append_of_ends name hlayout htext hbehind hbehindText hends
    rw [String.append_assoc]
    exact happend

/-- A number that has its point ends before another point, so that no blank is needed there. -/
theorem tokenize_append_points :
    ¬ CutsNumber "1.2" ".3" ∧
      tokenize "sum" "1.2.3" =
        .ok [.float (.ofBits 0x3FF3333333333333), .float (.ofBits 0x3FD3333333333333)] := by
  have hcut : ¬ CutsNumber "1.2" ".3" := by
    rintro ⟨layout, number, c, hmaximal, htext, hnumber, hc, hlonger⟩
    have hlayout : Layout.IsMaximal ⟨[], [(.number ⟨['1'], some ['2']⟩, [])]⟩ := by
      refine ⟨rfl, rfl, ?_, rfl, trivial⟩
      rintro c ⟨⟩
    obtain rfl := Layout.eq_of_text_eq hlayout hmaximal
      (Eq.trans (by decide +kernel) htext.symm)
    obtain rfl : ⟨['1'], some ['2']⟩ = number := by simpa [Layout.EndsWith] using hnumber
    obtain rfl : '.' = c := by simpa using hc
    simp at hlonger
  have hfirst : tokenize "sum" "1.2" = .ok [.float (.ofBits 0x3FF3333333333333)] := by
    decide +kernel
  have hsecond : tokenize "sum" ".3" = .ok [.float (.ofBits 0x3FD3333333333333)] := by
    decide +kernel
  have hblanks : "".toList.all isBlank = true := rfl
  exact ⟨hcut, (tokenize_append "sum" hblanks).2 _ _ hfirst hsecond (.inr hcut)⟩

end ArithTokens
