import ArithTokens.Proofs.Index
import ArithTokens.Proofs.Number

/-!
# Lines and columns

The newlines of a text cut it into lines. A place counts the newlines before it and the characters
behind the last one of them, and with these two numbers it names one character of the text
(`line_and_column_identify_place`): the characters before the place are those of whole lines, each
with its newline, and as many of the next line as the column says.
-/

namespace ArithTokens

/-! ## The lines of a text -/

/-- A text has one line more than newlines. -/
theorem split_length (text : List Char) :
    (text.splitOn '\n').length = text.count '\n' + 1 := by
  induction text with
  | nil => simp
  | cons c text ih =>
    rw [List.splitOn_cons_eq_if_modifyHead]
    by_cases hc : c = '\n'
    · simp [hc, ih]
    · simp [hc, ih]

/-- The lines of a text, each with a newline, have one character more than the text. -/
theorem split_length_sum (text : List Char) :
    ((text.splitOn '\n').map (·.length + 1)).sum = text.length + 1 := by
  induction text with
  | nil => simp
  | cons c text ih =>
    rw [List.splitOn_cons_eq_if_modifyHead]
    by_cases hc : c = '\n'
    · simp only [hc, beq_self_eq_true, ↓reduceIte, List.map_cons, List.sum_cons, List.length_nil,
        ih, List.length_cons]
      omega
    · cases hlines : text.splitOn '\n' with
      | nil => exact absurd hlines (List.splitOn_ne_nil _ _)
      | cons line lines =>
        rw [hlines, List.map_cons, List.sum_cons] at ih
        simp only [beq_iff_eq, hc, ↓reduceIte, List.modifyHead_cons, List.map_cons, List.sum_cons,
          List.length_cons]
        omega

/-- Characters without a newline in front of a text belong to its first line. -/
theorem split_append {before : List Char} (h : '\n' ∉ before) (rest : List Char) :
    (before ++ rest).splitOn '\n' = (rest.splitOn '\n').modifyHead (before ++ ·) := by
  induction before with
  | nil =>
    cases hlines : rest.splitOn '\n' with
    | nil => exact absurd hlines (List.splitOn_ne_nil _ _)
    | cons line lines => simp [hlines]
  | cons c before ih =>
    obtain ⟨hc, hbefore⟩ := not_or.1 (mt List.mem_cons.2 h)
    rw [List.cons_append, List.splitOn_cons_eq_if_modifyHead, ih hbefore]
    simp only [beq_iff_eq, Ne.symm hc, ↓reduceIte]
    cases rest.splitOn '\n' with
    | nil => rfl
    | cons line lines => rfl

/-- A text is one line, or whole lines and a newline in front of its last line. -/
theorem exists_last_line (text : List Char) :
    '\n' ∉ text ∨ ∃ before last, text = before ++ '\n' :: last ∧ '\n' ∉ last := by
  by_cases hmem : '\n' ∈ text
  · obtain ⟨last, before, hreverse, hlast⟩ :=
      List.eq_append_cons_of_mem (List.mem_reverse.2 hmem)
    refine .inr ⟨before.reverse, last.reverse, ?_, by simpa using hlast⟩
    rw [← List.reverse_reverse text, hreverse]
    simp
  · exact .inl hmem

/-- The column counts the characters of the last line. -/
theorem column_behind_newline (before : List Char) {last : List Char} (h : '\n' ∉ last) :
    columnBehind (before ++ '\n' :: last) = last.length := by
  have hrun : ∀ c ∈ last.reverse, decide (c ≠ '\n') = true := by
    intro c hc
    refine decide_eq_true ?_
    rintro rfl
    exact h (List.mem_reverse.1 hc)
  rw [columnBehind, List.reverse_append, List.reverse_cons, List.append_assoc,
    List.singleton_append, take_while_append hrun (of_head_cons (by decide)), List.length_reverse]

/-- The characters before a place are whole lines, each with its newline, and in front of the place
as much of another line as the column says. -/
theorem line_of_split (before rest : List Char) :
    ∃ line, ((before ++ rest).splitOn '\n')[before.count '\n']? = some line ∧
      columnBehind before ≤ line.length ∧
      before.length = columnBehind before +
        ((((before ++ rest).splitOn '\n').take (before.count '\n')).map (·.length + 1)).sum := by
  obtain ⟨line, lines, hrest⟩ : ∃ line lines, rest.splitOn '\n' = line :: lines :=
    List.exists_cons_of_ne_nil (List.splitOn_ne_nil _ _)
  rcases exists_last_line before with hbefore | ⟨whole, last, rfl, hlast⟩
  · refine ⟨before ++ line, ?_, ?_, ?_⟩
    · rw [split_append hbefore, List.count_eq_zero_of_not_mem hbefore, hrest]
      rfl
    · rw [column_behind_of_not_mem hbefore, List.length_append]
      exact Nat.le_add_right _ _
    · rw [column_behind_of_not_mem hbefore, List.count_eq_zero_of_not_mem hbefore]
      rfl
  · -- The lines before the place are those of the text before the last newline.
    have hlines : (whole ++ '\n' :: last ++ rest).splitOn '\n' =
        whole.splitOn '\n' ++ (last ++ line) :: lines := by
      rw [List.append_assoc, List.cons_append, List.splitOn_append_cons_self, split_append hlast,
        hrest]
      rfl
    have hcount : (whole ++ '\n' :: last).count '\n' = (whole.splitOn '\n').length := by
      rw [List.count_append, List.count_cons_self, List.count_eq_zero_of_not_mem hlast,
        split_length]
    rw [hlines, hcount, column_behind_newline whole hlast]
    refine ⟨last ++ line, by simp, by simp, ?_⟩
    rw [List.take_left, split_length_sum, List.length_append, List.length_cons]
    omega

namespace Place

/-- Before a place of the text there are as many lines as it counts, and as much of the next one. -/
theorem line_of_index (source : Source) (index : Nat) :
    ∃ line, source.lines[(ofIndex source index).line]? = some line ∧
      columnBehind (source.text.toList.take index) ≤ line.length ∧
      (source.text.toList.take index).length = columnBehind (source.text.toList.take index) +
        ((source.lines.take (ofIndex source index).line).map (·.length + 1)).sum := by
  have hsplit :=
    line_of_split (source.text.toList.take index) (source.text.toList.drop index)
  rwa [List.take_append_drop] at hsplit

/-! ## Places in order -/

/-- A later place has not counted less. -/
theorem of_index_line_mono (source : Source) {first second : Nat} (h : first ≤ second) :
    (ofIndex source first).line ≤ (ofIndex source second).line :=
  List.Sublist.count_le '\n' (List.take_sublist_take_left h)

/-- A later place of the text has counted more bytes. -/
theorem of_index_byte_lt {source : Source} {first second : Nat} (hlt : first < second)
    (hle : second ≤ source.text.toList.length) :
    (ofIndex source first).byte < (ofIndex source second).byte := by
  have hsplit := take_append_between (Nat.le_of_lt hlt) source.text.toList
  have hlength := length_le_byte_count ((source.text.toList.take second).drop first)
  rw [List.length_drop, List.length_take_of_le hle] at hlength
  simp only [ofIndex]
  rw [← hsplit, byte_count_append]
  omega

/-- A later place is on a later line, or on the same line in a later column. -/
theorem of_index_before {source : Source} {first second : Nat} (hlt : first < second)
    (hle : second ≤ source.text.toList.length) :
    (ofIndex source first).line < (ofIndex source second).line ∨
      (ofIndex source first).line = (ofIndex source second).line ∧
        columnBehind (source.text.toList.take first) <
          columnBehind (source.text.toList.take second) := by
  rcases Nat.lt_or_eq_of_le (of_index_line_mono source (Nat.le_of_lt hlt)) with hline | hline
  · exact .inl hline
  · -- With the same lines before them, the places differ in their columns alone.
    obtain ⟨-, -, -, hfirst⟩ := line_of_index source first
    obtain ⟨-, -, -, hsecond⟩ := line_of_index source second
    rw [List.length_take_of_le (by omega)] at hfirst hsecond
    rw [hline] at hfirst
    exact .inr ⟨hline, by omega⟩

/-! ## Texts of places -/

/-- A number is known by its digits. -/
theorem eq_of_repr {m n : Nat} (h : m.repr = n.repr) : m = n := by
  have hdigits := congrArg String.toList h
  rw [Nat.toList_repr, Nat.toList_repr] at hdigits
  rw [← Nat.ofDigitChars_ten_toDigits (n := m), hdigits, Nat.ofDigitChars_ten_toDigits]

/-- A number in front of a colon is read off the text up to there. -/
theorem take_while_repr (n : Nat) (rest : List Char) :
    (n.repr.toList ++ ':' :: rest).takeWhile Char.isDigit = n.repr.toList := by
  have hdigits : ∀ c ∈ n.repr.toList, c.isDigit = true := by
    rw [Nat.toList_repr]
    exact is_digit_of_mem_digits
  exact take_while_append hdigits (of_head_cons rfl)

/-- Places in sources of one name have one text exactly if they are on the same line and in the same
column for a reader. -/
theorem text_eq_iff {place other : Place} (hname : place.source.name = other.source.name) :
    place.text = other.text ↔
      place.line = other.line ∧ next place.column = next other.column := by
  constructor
  · intro h
    have htail : (place.line + 1).repr ++ ":" ++ (next place.column).repr =
        (other.line + 1).repr ++ ":" ++ (next other.column).repr := by
      simpa only [text, hname, String.append_assoc, String.append_right_inj] using h
    have hchars : (place.line + 1).repr.toList ++ ':' :: (next place.column).repr.toList =
        (other.line + 1).repr.toList ++ ':' :: (next other.column).repr.toList := by
      simpa using congrArg String.toList htail
    have hline := congrArg (List.takeWhile Char.isDigit) hchars
    rw [take_while_repr, take_while_repr] at hline
    have hrepr : (place.line + 1).repr = (other.line + 1).repr := String.toList_injective hline
    rw [hrepr, String.append_right_inj] at htail
    exact ⟨Nat.succ_injective (eq_of_repr hrepr), eq_of_repr htail⟩
  · rintro ⟨hline, hcolumn⟩
    rw [text, text, hname, hline, hcolumn]

/-- Places of one text are the same only for one character. -/
theorem of_index_injective {source : Source} {first second : Nat}
    (h : ofIndex source first = ofIndex source second) : first = second :=
  Option.some.inj (congrArg offset h)

end Place

/-- The place of a character has that many lines before it, and of the next line as many characters
as its column, which together are all characters before it. So a later place is on a later line, or
on the same line in a later column, it has more bytes before it, and it has another text. Places
that are reached in two sources of one name and one text are equal exactly if as many characters
were passed. -/
theorem line_and_column_identify_place (source : Source) :
    let length := source.text.toList.length
    let place := Place.walked source
    (∀ index ≤ length, ∃ column line,
      (place index).column = some column ∧
      source.lines[(place index).line]? = some line ∧
      column ≤ line.length ∧
      index = column + ((source.lines.take (place index).line).map (·.length + 1)).sum ∧
      (place index).byte = byteCount (source.text.toList.take index)) ∧
    (∀ first second, first < second → second ≤ length → ∃ column other,
      (place first).column = some column ∧
      (place second).column = some other ∧
      ((place first).line < (place second).line ∨
        (place first).line = (place second).line ∧ column < other) ∧
      (place first).byte < (place second).byte ∧
      (place first).text ≠ (place second).text) ∧
    ∀ other : Source, other.name = source.name → other.text = source.text →
      ∀ first ≤ length, ∀ second ≤ length,
        (place first == Place.walked other second) = true ↔ first = second := by
  intro length place
  have hplace : ∀ index ≤ length, place index = Place.ofIndex source index :=
    fun index hindex => Place.walked_eq hindex
  refine ⟨?_, ?_, ?_⟩
  · intro index hindex
    obtain ⟨line, hline, hcolumn, hlength⟩ := Place.line_of_index source index
    rw [List.length_take_of_le hindex] at hlength
    rw [hplace index hindex]
    exact ⟨_, line, rfl, hline, hcolumn, hlength, rfl⟩
  · intro first second hlt hle
    have hbefore := Place.of_index_before hlt hle
    have hname : (Place.ofIndex source first).source.name =
        (Place.ofIndex source second).source.name := rfl
    rw [hplace first (by omega), hplace second hle]
    refine ⟨_, _, rfl, rfl, hbefore, Place.of_index_byte_lt hlt hle, fun htext => ?_⟩
    obtain ⟨hline, hcolumn⟩ := (Place.text_eq_iff hname).1 htext
    have hcolumn : columnBehind (source.text.toList.take first) + 1 =
        columnBehind (source.text.toList.take second) + 1 := hcolumn
    omega
  · intro other hname htext first hfirst second hsecond
    obtain rfl : other = source := by
      cases other
      cases source
      simp_all
    rw [hplace first hfirst, Place.walked_eq hsecond, beq_iff_eq]
    exact ⟨Place.of_index_injective, congrArg _⟩

/-- Before the number there are a line of a letter with two bytes and an empty line. On the empty
line a place is in the same column as on the number's line, and yet it has another text. -/
theorem places_around_empty_line :
    let source : Source := ⟨"sum", "é\n\n2"⟩
    let place := Place.walked source
    (∃ column, (place 3).column = some column ∧ (place 3).line = 2 ∧
      3 = column + (1 + 1) + (0 + 1)) ∧
      (place 2).column = (place 3).column ∧
      (place 2).text ≠ (place 3).text ∧
      (place 3 == Place.walked ⟨"sum", "é\n\n2"⟩ 3) = true := by
  intro source place
  have hlength : source.text.toList.length = 4 := by decide +kernel
  obtain ⟨hlines, horder, hsame⟩ := line_and_column_identify_place source
  obtain ⟨column, line, hcolumn, -, -, hindex, -⟩ := hlines 3 (by omega)
  obtain ⟨-, -, -, -, -, -, htext⟩ := horder 2 3 (by decide) (by omega)
  have hbefore : ((source.lines.take (place 3).line).map (·.length + 1)).sum =
      (1 + 1) + (0 + 1) := by decide +kernel
  refine ⟨⟨column, hcolumn, by decide +kernel, ?_⟩, by decide +kernel, htext,
    (hsame ⟨"sum", "é\n\n2"⟩ rfl rfl 3 (by omega) 3 (by omega)).2 rfl⟩
  exact hindex.trans (congrArg (column + ·) hbefore)

end ArithTokens
