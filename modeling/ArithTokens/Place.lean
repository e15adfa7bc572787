import ArithTokens.Source

/-!
# Places in a source

A place counts the characters, UTF-8 bytes, lines and columns before it. It starts one step before
the text; the first advance, past no character, puts it on the first one. `advance` does not look
at the text, so a place may be driven past characters that the text does not have.

A span is a range of bytes. The span between two places is empty when the second is not behind the
first.
-/

namespace ArithTokens

/-- A place in a source. `offset` counts characters and `byte` UTF-8 bytes; `line` and `column`
count from zero. Before the first advance there is no offset and no column. -/
structure Place where
  offset : Option Nat
  byte : Nat
  line : Nat
  column : Option Nat
  source : Source
deriving DecidableEq, Repr

namespace Place

/-- One step before the start of a source. -/
def beforeStart (source : Source) : Place where
  offset := none
  byte := 0
  line := 0
  column := none
  source := source

/-- The count after one more step; the first step leads to zero. -/
def next : Option Nat → Nat
  | none => 0
  | some n => n + 1

/-- One step further, past the given character if there is one. Only `'\n'` ends a line. -/
def advance (place : Place) (consumed : Option Char) : Place where
  offset := some (next place.offset)
  byte := place.byte + (consumed.map Char.utf8Size).getD 0
  line := if consumed = some '\n' then place.line + 1 else place.line
  column := if consumed = some '\n' then some 0 else some (next place.column)
  source := place.source

/-- The text from a place on. It is empty if the place's byte is not where a character of the text
starts. -/
def rest (place : Place) : String.Slice :=
  (place.source.textFrom? place.byte).getD "".toSlice

/-- Past each of the characters in turn. -/
def advanceAll (place : Place) (consumed : List Char) : Place :=
  consumed.foldl (fun reached c => reached.advance (some c)) place

/-- The place for a reader: the source's name, line and column, both counted from one; before the
first advance the column is zero. -/
def text (place : Place) : String :=
  place.source.name ++ ":" ++ (place.line + 1).repr ++ ":" ++ (next place.column).repr

/-- Advancing past two lists is advancing past the first and then past the second. -/
theorem advance_all_append (place : Place) (first second : List Char) :
    place.advanceAll (first ++ second) = (place.advanceAll first).advanceAll second :=
  List.foldl_append

/-- A place with a character in front of it is not behind the text. -/
theorem byte_lt_of_rest {place : Place} {c : Char} (h : place.rest.front? = some c) :
    place.byte < place.source.text.utf8ByteSize := by
  unfold rest at h
  cases hrest : place.source.textFrom? place.byte with
  | none => simp [hrest, String.Slice.front?_eq] at h
  | some rest =>
    obtain ⟨before, htext, hbyte⟩ := Source.text_from_sound hrest
    rw [hrest, Option.getD_some, String.Slice.front?_eq] at h
    have hpos : 0 < rest.copy.utf8ByteSize := by
      rw [Nat.pos_iff_ne_zero, Ne, String.utf8ByteSize_eq_zero_iff]
      intro hempty
      simp [hempty] at h
    rw [htext, String.utf8ByteSize_append]
    omega

end Place

/-- A range of bytes. -/
structure Span where
  start : Nat
  length : Nat
deriving DecidableEq, Repr

/-- The bytes from one place to another, none if the second is not behind the first. -/
def Span.between (start stop : Place) : Span := ⟨start.byte, stop.byte - start.byte⟩

end ArithTokens
