import ArithTokens.Scanner

/-!
# Places by index

The place of the character with a given index can be said without walking there: it has counted the
characters, bytes and newlines of the text before it. `Scanner.advance_of_index` says that a scanner
that stands on a character of the text is on the next one after one step, and so finds the right
text behind its byte.
-/

namespace ArithTokens

/-- The number of characters behind the last newline of a text; all of them if it has none. -/
def columnBehind (text : List Char) : Nat := (text.reverse.takeWhile (· ≠ '\n')).length

/-- A newline starts a new line, and any other character takes a column. -/
theorem column_behind_append (text : List Char) (c : Char) :
    columnBehind (text ++ [c]) = if c = '\n' then 0 else columnBehind text + 1 := by
  by_cases h : c = '\n'
  · simp [columnBehind, h]
  · simp [columnBehind, h]

/-- Without a newline the column counts all characters. -/
theorem column_behind_of_not_mem {text : List Char} (h : '\n' ∉ text) :
    columnBehind text = text.length := by
  have hall : ∀ c ∈ text.reverse, decide (c ≠ '\n') = true := by
    intro c hc
    have hne : c ≠ '\n' := by
      rintro rfl
      exact h (List.mem_reverse.1 hc)
    exact decide_eq_true hne
  rw [columnBehind, ← List.append_nil text.reverse, List.takeWhile_append_of_pos hall,
    List.takeWhile_nil, List.append_nil, List.length_reverse]

/-- The characters before an index are those before an earlier one and those between the two. -/
theorem take_append_between {first second : Nat} (h : first ≤ second) (text : List Char) :
    text.take first ++ (text.take second).drop first = text.take second := by
  have hfirst : (text.take second).take first = text.take first := by
    rw [List.take_take, Nat.min_eq_left h]
  rw [← hfirst, List.take_append_drop]

/-- A text that has a character at an index goes on behind it. -/
theorem of_drop_eq_cons {text rest : List Char} {index : Nat} {c : Char}
    (h : text.drop index = c :: rest) :
    text[index]? = some c ∧ index < text.length ∧ text.drop (index + 1) = rest := by
  have hcurrent : text[index]? = some c := by rw [← List.head?_drop, h, List.head?_cons]
  refine ⟨hcurrent, (List.getElem?_eq_some_iff.1 hcurrent).1, ?_⟩
  rw [← List.tail_drop, h, List.tail_cons]

/-- Behind the first part of what a text has from an index on, there is the other part. -/
theorem drop_behind {text first rest : List Char} {index : Nat}
    (h : text.drop index = first ++ rest) : text.drop (index + first.length) = rest := by
  rw [← List.drop_drop, h, List.drop_left]

namespace Place

/-- The place of the character with this index, or of the end of the text. -/
def ofIndex (source : Source) (index : Nat) : Place where
  offset := some index
  byte := byteCount (source.text.toList.take index)
  line := (source.text.toList.take index).count '\n'
  column := some (columnBehind (source.text.toList.take index))
  source := source

@[simp] theorem of_index_source (source : Source) (index : Nat) :
    (ofIndex source index).source = source := rfl

/-- The first step leads to the first character. -/
theorem advance_before_start (source : Source) :
    (beforeStart source).advance none = ofIndex source 0 := rfl

/-- A step past a character of the text leads from its place to that of the next one. -/
theorem advance_of_index {source : Source} {index : Nat} {c : Char}
    (h : source.text.toList[index]? = some c) :
    (ofIndex source index).advance (some c) = ofIndex source (index + 1) := by
  have htake : source.text.toList.take (index + 1) = source.text.toList.take index ++ [c] := by
    rw [List.take_add_one, h, Option.toList_some]
  simp only [ofIndex, advance, htake, byte_count_append, column_behind_append, List.count_append,
    next]
  by_cases hnewline : c = '\n'
  · simp [hnewline]
  · simp [hnewline]

/-- The place that is reached by the first step and then by steps past the characters before this
index. -/
def walked (source : Source) (index : Nat) : Place :=
  ((beforeStart source).advance none).advanceAll (source.text.toList.take index)

/-- As long as there are characters, the walk leads from place to place. -/
theorem walked_eq {source : Source} {index : Nat} (h : index ≤ source.text.toList.length) :
    walked source index = ofIndex source index := by
  induction index with
  | zero => exact advance_before_start source
  | succ index ih =>
    have hcurrent : source.text.toList[index]? = some source.text.toList[index] :=
      List.getElem?_eq_getElem h
    rw [walked, List.take_add_one, hcurrent, Option.toList_some, advance_all_append, ← walked,
      ih (Nat.le_of_succ_le h)]
    exact advance_of_index hcurrent

/-- The bytes before a character of the text lead to the text from that character on. -/
theorem text_from_of_index (source : Source) (index : Nat) :
    ∃ rest, source.textFrom? (ofIndex source index).byte = some rest ∧
      rest.copy.toList = source.text.toList.drop index := by
  have hsplit : source.text =
      String.ofList (source.text.toList.take index) ++
        String.ofList (source.text.toList.drop index) := by
    rw [← String.ofList_append, List.take_append_drop, String.ofList_toList]
  obtain ⟨rest, hrest, hcopy⟩ := Source.text_from_append hsplit
  refine ⟨rest, hrest, ?_⟩
  rw [hcopy, String.toList_ofList]

/-- The text in front of the place of a character starts with that character. -/
theorem rest_of_index (source : Source) (index : Nat) :
    (ofIndex source index).rest.copy.toList = source.text.toList.drop index := by
  obtain ⟨rest, hrest, htext⟩ := text_from_of_index source index
  rw [Place.rest, of_index_source, hrest, Option.getD_some, htext]

end Place

namespace Scanner

/-- The scanner on the character with this index, or at the end of the text. -/
def ofIndex (source : Source) (index : Nat) : Scanner where
  place := Place.ofIndex source index
  current? := source.text.toList[index]?

@[simp] theorem of_index_place (source : Source) (index : Nat) :
    (ofIndex source index).place = Place.ofIndex source index := rfl

/-- A scanner at the place of a character finds that character. -/
theorem front_of_index (source : Source) (index : Nat) :
    (Place.ofIndex source index).rest.front? = source.text.toList[index]? := by
  rw [String.Slice.front?_eq, Place.rest_of_index, List.head?_drop]

/-- A scan starts on the first character. -/
theorem start_eq (source : Source) : start source = ofIndex source 0 := by
  have hplace := Place.advance_before_start source
  rw [start, advance, ofIndex, hplace, front_of_index]

/-- One step leads from a character of the text to the next one. -/
theorem advance_of_index {source : Source} {index : Nat}
    (h : index < source.text.toList.length) :
    (ofIndex source index).advance = ofIndex source (index + 1) := by
  have hcurrent : source.text.toList[index]? = some source.text.toList[index] :=
    List.getElem?_eq_getElem h
  have hplace := Place.advance_of_index hcurrent
  rw [← hcurrent] at hplace
  rw [advance, ofIndex, ofIndex, hplace, front_of_index]

/-- Steps that stay in the text lead past as many characters. -/
theorem advance_by_of_index {source : Source} {index count : Nat}
    (h : index + count ≤ source.text.toList.length) :
    (ofIndex source index).advanceBy count = ofIndex source (index + count) := by
  induction count generalizing index with
  | zero => rfl
  | succ count ih =>
    rw [advanceBy, advance_of_index (by omega), ih (by omega), Nat.add_right_comm, Nat.add_assoc]

end Scanner

end ArithTokens
