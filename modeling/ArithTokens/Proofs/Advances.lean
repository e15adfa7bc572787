import ArithTokens.Place
import Mathlib.Algebra.Ring.Nat
import Mathlib.Data.List.ReduceOption

/-!
# Places along any steps

A place does not look at its text, so it may be driven by any sequence of steps, each past some
character or past none. What it has counted is a function of these steps: `Place.Counts` says which
one, a step keeps it (`Place.Counts.advance`), and so it holds after every sequence
(`advance_past_counts`).
-/

namespace ArithTokens

namespace Place

/-- Steps past each of these in turn; `none` is a step past no character. -/
def advancePast (place : Place) (steps : List (Option Char)) : Place := steps.foldl advance place

/-- Says that a place has counted the characters and lines of these steps. The first step leads to
zero, so offset and column are stated for one more step: it would be the one after as many. -/
structure Counts (place : Place) (source : Source) (steps : List (Option Char)) : Prop where
  next_offset : next place.offset = steps.length
  byte_eq : place.byte = (steps.reduceOption.map Char.utf8Size).sum
  line_eq : place.line = steps.count (some '\n')
  /-- Until there is a newline, offset and column are the same. -/
  next_column : some '\n' ∉ steps → next place.column = steps.length
  /-- Behind a newline the column counts the steps since then. -/
  column_behind : ∀ before after, steps = before ++ some '\n' :: after → some '\n' ∉ after →
    place.column = some after.length
  source_eq : place.source = source

variable {place : Place} {source : Source} {steps : List (Option Char)}

/-- Before the start nothing has been counted. -/
theorem before_start_counts (source : Source) : (beforeStart source).Counts source [] where
  next_offset := rfl
  byte_eq := rfl
  line_eq := rfl
  next_column _ := rfl
  column_behind before after h _ := by simp at h
  source_eq := rfl

/-- One more step is counted. -/
theorem Counts.advance (h : place.Counts source steps) (consumed : Option Char) :
    (place.advance consumed).Counts source (steps ++ [consumed]) where
  next_offset := by
    show next place.offset + 1 = _
    rw [h.next_offset, List.length_append, List.length_singleton]
  byte_eq := by
    show place.byte + (consumed.map Char.utf8Size).getD 0 = _
    rw [h.byte_eq, List.reduceOption_append, List.map_append, List.sum_append]
    cases consumed with
    | none => rfl
    | some c => rfl
  line_eq := by
    show (if consumed = some '\n' then place.line + 1 else place.line) = _
    rw [h.line_eq, List.count_append, List.count_singleton]
    by_cases hnewline : consumed = some '\n'
    · simp [hnewline]
    · simp [hnewline]
  next_column hnone := by
    rw [List.mem_append, List.mem_singleton, not_or] at hnone
    have hcolumn : (place.advance consumed).column = some (next place.column) :=
      if_neg (Ne.symm hnone.2)
    rw [hcolumn, h.next_column hnone.1, List.length_append, List.length_singleton]
    rfl
  column_behind before after hsteps hnone := by
    rcases List.eq_nil_or_concat after with rfl | ⟨since, last, rfl⟩
    · -- The newline is the last step.
      obtain ⟨-, hlast⟩ := List.append_inj' hsteps rfl
      obtain rfl : consumed = some '\n' := (List.cons.inj hlast).1
      rfl
    · -- The newline is one of the steps before, and the last step takes a column more.
      rw [List.concat_eq_append, ← List.cons_append, ← List.append_assoc] at hsteps
      obtain ⟨hbefore, hlast⟩ := List.append_inj' hsteps rfl
      obtain rfl : consumed = last := (List.cons.inj hlast).1
      rw [List.concat_eq_append, List.mem_append, List.mem_singleton, not_or] at hnone
      have hcolumn : (place.advance consumed).column = some (next place.column) :=
        if_neg (Ne.symm hnone.2)
      rw [hcolumn, h.column_behind before since hbefore hnone.1, List.concat_eq_append,
        List.length_append, List.length_singleton]
      rfl
  source_eq := h.source_eq

/-- Any more steps are counted. -/
theorem Counts.advance_past (h : place.Counts source steps) (more : List (Option Char)) :
    (place.advancePast more).Counts source (steps ++ more) := by
  induction more generalizing place steps with
  | nil =>
    rw [List.append_nil]
    exact h
  | cons consumed more ih =>
    have hmore := ih (h.advance consumed)
    rw [List.append_assoc] at hmore
    exact hmore

/-- The count that a step would take to a successor is there already. -/
theorem eq_some_of_next {count : Option Nat} {n : Nat} (h : next count = n) (hpos : 0 < n) :
    count = some (n - 1) := by
  cases count with
  | none =>
    obtain rfl : 0 = n := h
    exact absurd hpos (Nat.lt_irrefl 0)
  | some m =>
    obtain rfl : m + 1 = n := h
    rfl

end Place

/-- After one or more steps from before the start, the offset is one less than their number. The
byte is the number of bytes of all characters given, and the line is the number of newlines among
them. As long as there is no newline, the column is the offset; otherwise it is the number of steps
behind the last newline. The source stays. -/
theorem advance_past_counts (source : Source) {steps : List (Option Char)} (h : steps ≠ []) :
    let place := (Place.beforeStart source).advancePast steps
    place.offset = some (steps.length - 1) ∧
    place.byte = (steps.reduceOption.map Char.utf8Size).sum ∧
    place.line = steps.count (some '\n') ∧
    (some '\n' ∉ steps → place.column = some (steps.length - 1)) ∧
    (∀ before after, steps = before ++ some '\n' :: after → some '\n' ∉ after →
      place.column = some after.length) ∧
    place.source = source := by
  intro place
  have hcounts : place.Counts source steps := (Place.before_start_counts source).advance_past steps
  have hpos : 0 < steps.length := List.length_pos_iff.2 h
  exact ⟨Place.eq_some_of_next hcounts.next_offset hpos, hcounts.byte_eq, hcounts.line_eq,
    fun hnone => Place.eq_some_of_next (hcounts.next_column hnone) hpos, hcounts.column_behind,
    hcounts.source_eq⟩

/-- A newline on the very first step starts a line without a character before it, and characters
that the text does not have are counted like any others. -/
theorem advance_past_newline_first :
    let source : Source := ⟨"sum", "1"⟩
    let first := (Place.beforeStart source).advancePast [some '\n']
    let behind := (Place.beforeStart source).advancePast [some '\n', some 'é', none, some '😀']
    (first.offset = some 0 ∧ first.line = 1 ∧ first.column = some 0) ∧
      behind.offset = some 3 ∧ behind.byte = 7 ∧ behind.line = 1 ∧ behind.column = some 3 ∧
      ((Place.beforeStart source).advancePast [none, none]).column = some 1 := by
  intro source first behind
  have hfirst : [some '\n'] ≠ [] := List.cons_ne_nil _ _
  have hbehind : [some '\n', some 'é', none, some '😀'] ≠ [] := List.cons_ne_nil _ _
  have hplain : [(none : Option Char), none] ≠ [] := List.cons_ne_nil _ _
  obtain ⟨hoffset, -, hline, -, hcolumn, -⟩ := advance_past_counts source hfirst
  obtain ⟨hlater, hbyte, hlines, -, hsince, -⟩ := advance_past_counts source hbehind
  obtain ⟨-, -, -, hlone, -, -⟩ := advance_past_counts source hplain
  exact ⟨⟨hoffset, hline, hcolumn [] [] rfl List.not_mem_nil⟩, hlater, hbyte, hlines,
    hsince [] _ rfl (by decide), hlone (by decide)⟩

end ArithTokens
