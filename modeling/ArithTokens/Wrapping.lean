import ArithTokens.Wrapping.BreakClass

/-!
# Wrapped lines

A line that is too long for its place is written on several rows. It is cut into words where a line
may end, words are divided behind hyphens and, if a single one is wider than a row, wherever the row
is full. A word goes on the row that is being filled if it fits there and starts the next row
otherwise. The spaces between two words are written only if both are on one row.

All cuts are made by one function, `cut`, which loses nothing (`cut_flatten`). So nothing of a line
is lost on its rows but spaces at their ends (`exists_rows_eq`).
-/

namespace ArithTokens

namespace Wrapping

/-- Cuts a list in front of some of its elements. `next` keeps account of the elements that have
gone by, and `starts` says by this account whether an element starts a new piece. -/
def cut {σ α : Type} (next : σ → α → σ) (starts : σ → α → Bool) (account : σ) :
    List α → List (List α)
  | [] => [[]]
  | a :: rest =>
    let pieces := (cut next starts (next account a) rest).modifyHead (a :: ·)
    if starts account a then [] :: pieces else pieces

/-- There is always a piece, if only an empty one. -/
theorem cut_ne_nil {σ α : Type} (next : σ → α → σ) (starts : σ → α → Bool) (account : σ)
    (list : List α) : cut next starts account list ≠ [] := by
  induction list generalizing account with
  | nil => simp [cut]
  | cons a rest ih =>
    simp only [cut]
    split
    · simp
    · simpa using ih (next account a)

/-- The pieces make up the list. -/
@[simp] theorem cut_flatten {σ α : Type} (next : σ → α → σ) (starts : σ → α → Bool) (account : σ)
    (list : List α) : (cut next starts account list).flatten = list := by
  induction list generalizing account with
  | nil => simp [cut]
  | cons a rest ih =>
    have hrest := ih (next account a)
    obtain ⟨piece, pieces, hpieces⟩ :=
      List.exists_cons_of_ne_nil (cut_ne_nil next starts (next account a) rest)
    simp only [hpieces, List.flatten_cons] at hrest
    simp only [cut, hpieces, List.modifyHead_cons]
    split <;> simp [hrest]

/-- Control characters take no column. -/
def isControl (c : Char) : Bool := c.toNat < 32 || c.toNat = 127

/-- The columns that a text takes: one for each character that is not a control character. -/
def columns (text : List Char) : Nat := text.countP (!isControl ·)

/-- A word and the number of spaces behind it. -/
structure Word where
  text : List Char
  spaces : Nat
deriving DecidableEq, Repr

namespace Word

/-- What a word takes of a line: its text and the spaces behind it. -/
def whole (word : Word) : List Char := word.text ++ List.replicate word.spaces ' '

/-- A text as a word, the spaces at its end being those behind the word. -/
def ofText (text : List Char) : Word where
  text := (text.reverse.dropWhile (· = ' ')).reverse
  spaces := (text.reverse.takeWhile (· = ' ')).length

/-- A word takes the text of which it is made. -/
theorem of_text_whole (text : List Char) : (ofText text).whole = text := by
  have hspaces : List.replicate (text.reverse.takeWhile (· = ' ')).length ' ' =
      text.reverse.takeWhile (· = ' ') := by
    refine (List.eq_replicate_iff.2 ⟨rfl, fun c hc => ?_⟩).symm
    exact of_decide_eq_true (List.all_eq_true.1 List.all_takeWhile c hc)
  have hend := congrArg List.reverse hspaces
  rw [List.reverse_replicate] at hend
  rw [whole, ofText, hend, ← List.reverse_append, List.takeWhile_append_dropWhile,
    List.reverse_reverse]

/-- The parts of a word as words of their own; the last one keeps the spaces. -/
def ofParts (spaces : Nat) : List (List Char) → List Word
  | [] => []
  | [text] => [⟨text, spaces⟩]
  | text :: rest => ⟨text, 0⟩ :: ofParts spaces rest

/-- The parts of a word take its text and its spaces. -/
theorem of_parts_whole (spaces : Nat) {parts : List (List Char)} (h : parts ≠ []) :
    (ofParts spaces parts).flatMap whole = parts.flatten ++ List.replicate spaces ' ' := by
  induction parts with
  | nil => exact absurd rfl h
  | cons text rest ih =>
    cases rest with
    | nil => simp [ofParts, whole]
    | cons next rest =>
      show (⟨text, 0⟩ :: ofParts spaces (next :: rest)).flatMap whole = _
      rw [List.flatMap_cons, ih (List.cons_ne_nil next rest), List.flatten_cons,
        List.append_assoc]
      simp [whole]

/-- However a word is cut into parts, they take what the word takes. -/
theorem of_parts_cut {σ : Type} (next : σ → Char → σ) (starts : σ → Char → Bool) (account : σ)
    (word : Word) :
    (ofParts word.spaces (cut next starts account word.text)).flatMap whole = word.whole := by
  rw [of_parts_whole word.spaces (cut_ne_nil next starts account word.text), cut_flatten, whole]

/-- The parts of a word between its hyphens, each with the hyphen behind it. Only a hyphen between
letters and digits divides a word. -/
def hyphenated (word : Word) : List Word :=
  ofParts word.spaces (cut (fun (_, last) c => (last, c))
    (fun (before, last) c => before.isAlphanum && last = '-' && c.isAlphanum) (' ', ' ') word.text)

/-- Says that a character does not fit behind `used` columns of a row. -/
def overflows (limit used : Nat) (c : Char) : Bool := 0 < used && limit < used + columns [c]

/-- The parts of a word that fill a row each, the last one excepted. -/
def fitted (limit : Nat) (word : Word) : List Word :=
  ofParts word.spaces
    (cut (fun used c => (if overflows limit used c then 0 else used) + columns [c])
      (overflows limit) 0 word.text)

end Word

/-- The last two pieces as one. -/
def joinLast : List (List Char) → List (List Char)
  | [] => []
  | [piece] => [piece]
  | [first, second] => [first ++ second]
  | first :: second :: third :: rest => first :: joinLast (second :: third :: rest)

/-- Joining the last two pieces loses nothing. -/
@[simp] theorem join_last_flatten (list : List (List Char)) :
    (joinLast list).flatten = list.flatten := by
  induction list using joinLast.induct <;> simp_all [joinLast]

/-- A line cut where it may end. Behind a hyphen it may not, even if the hyphen is its last
character: then the line has no end of its own, and its last piece stays with the one before. -/
def pieces (line : List Char) : List (List Char) :=
  let all := cut LeftSide.next LeftSide.mayEnd .start line
  if line.getLast? = some '-' then joinLast all else all

/-- The pieces make up the line. -/
theorem pieces_flatten (line : List Char) : (pieces line).flatten = line := by
  simp only [pieces]
  split <;> simp

/-- The words of a line, none of them wider than a row. -/
def words (limit : Nat) (line : List Char) : List Word :=
  (((pieces line).map Word.ofText).flatMap Word.hyphenated).flatMap (Word.fitted limit)

/-- The words of a line make it up, with the spaces behind them. -/
theorem words_whole (limit : Nat) (line : List Char) :
    (words limit line).flatMap Word.whole = line := by
  have hfitted : ∀ word : Word, (word.fitted limit).flatMap Word.whole = word.whole :=
    Word.of_parts_cut _ _ _
  have hhyphenated : ∀ word : Word, word.hyphenated.flatMap Word.whole = word.whole :=
    Word.of_parts_cut _ _ _
  rw [words, List.flatMap_assoc]
  simp only [hfitted]
  rw [List.flatMap_assoc]
  simp only [hhyphenated]
  rw [List.flatMap_map]
  simp only [Word.of_text_whole]
  rw [List.flatMap_id', pieces_flatten]

/-- A row of words, with the spaces between them. -/
def rowText : List Word → List Char
  | [] => []
  | [word] => word.text
  | word :: rest => word.text ++ List.replicate word.spaces ' ' ++ rowText rest

/-- The spaces behind the last word of a row. -/
def rowSpaces : List Word → Nat
  | [] => 0
  | [word] => word.spaces
  | _ :: rest => rowSpaces rest

/-- The words of a row take its text and the spaces behind it. -/
theorem row_whole (row : List Word) :
    row.flatMap Word.whole = rowText row ++ List.replicate (rowSpaces row) ' ' := by
  induction row using rowText.induct with
  | case1 => rfl
  | case2 word => simp [rowText, rowSpaces, Word.whole]
  | case3 word rest hrest ih =>
    rw [List.flatMap_cons, ih, Word.whole]
    simp [rowText, rowSpaces]

/-- The words on the rows: a word starts a new row if it does not fit on the one before. -/
def fill (limit : Nat) (words : List Word) : List (List Word) :=
  cut (fun used (word : Word) =>
      (if limit < used + columns word.text then 0 else used) + columns word.text + word.spaces)
    (fun used word => limit < used + columns word.text) 0 words

/-- The rows on which a line is written, each at most `limit` columns wide. -/
def wrap (limit : Nat) (line : List Char) : List (List Char) :=
  (fill limit (words limit line)).map rowText

/-- The rows on which a line is written make it up when each has some spaces put behind it: nothing
else of the line is lost. -/
theorem exists_rows_eq (limit : Nat) (line : List Char) :
    ∃ rows : List (List Char × Nat), rows.map Prod.fst = wrap limit line ∧
      rows.flatMap (fun row => row.1 ++ List.replicate row.2 ' ') = line := by
  let filled := fill limit (words limit line)
  refine ⟨filled.map fun row => (rowText row, rowSpaces row), ?_, ?_⟩
  · rw [List.map_map]
    rfl
  · calc
      _ = filled.flatMap fun row => row.flatMap Word.whole := by
        rw [List.flatMap_map]
        simp only [row_whole]
      _ = filled.flatten.flatMap Word.whole := by
        rw [← List.flatMap_id, List.flatMap_assoc]
        rfl
      _ = (words limit line).flatMap Word.whole :=
        congrArg (·.flatMap Word.whole) (cut_flatten _ _ _ _)
      _ = line := words_whole limit line

end Wrapping

end ArithTokens
