import ArithTokens.Bytes

/-!
# Named source texts and their lines
-/

namespace ArithTokens

/-- A text together with the name under which reports mention it. -/
structure Source where
  name : String
  text : String
deriving DecidableEq, Repr, Inhabited

namespace Source

/-- The text from a byte on. There is none from inside a character or from behind the end. -/
def textFrom? (source : Source) (byte : Nat) : Option String.Slice :=
  (source.text.pos? ⟨byte⟩).map source.text.sliceFrom

/-- The lines of a text: the pieces between its newlines, so that there is always at least one. -/
def lines (source : Source) : List (List Char) := source.text.toList.splitOn '\n'

/-- Line endings at the end of a text frame it and are no part of it. -/
def isLineEnding (c : Char) : Bool := c = '\n' || c = '\r'

/-- A text without the line endings at its end. -/
def withoutFinalLineEndings (text : String) : String :=
  String.ofList (text.toList.reverse.dropWhile isLineEnding).reverse

/-- What is found from a byte on is what is left of the text behind that many bytes. -/
theorem text_from_sound {source : Source} {byte : Nat} {rest : String.Slice}
    (h : source.textFrom? byte = some rest) :
    ∃ before, source.text = before ++ rest.copy ∧ before.utf8ByteSize = byte := by
  unfold textFrom? String.pos? String.Slice.pos? at h
  split at h
  · cases h
    exact ⟨_, (String.Pos.splits _).eq_append, by simp⟩
  · simp at h

/-- Behind the bytes of a first part of the text, the other part is found. -/
theorem text_from_append {source : Source} {before after : String}
    (h : source.text = before ++ after) :
    ∃ rest, source.textFrom? before.utf8ByteSize = some rest ∧ rest.copy = after := by
  have hvalid : String.Pos.Raw.IsValid source.text ⟨before.utf8ByteSize⟩ :=
    String.Pos.Raw.isValid_iff_exists_append.2 ⟨before, after, h, rfl⟩
  refine ⟨source.text.sliceFrom (source.text.pos _ hvalid), ?_, ?_⟩
  · simp [textFrom?, String.pos?, String.Slice.pos?, String.pos, hvalid]
  · have hsplits : (source.text.pos _ hvalid).Splits before after := ⟨h, rfl⟩
    exact (String.Pos.splits _).eq_right hsplits

end Source

end ArithTokens
