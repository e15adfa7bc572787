import ArithTokens.Proofs.Command
import ArithTokens.Proofs.Index

/-!
# Spans of errors

The span of an error is made of the bytes that its two places have counted. Between places of one
text these are the bytes of the characters between them (`extract_between`), so that a span neither
starts nor ends within a character, and between places in the opposite order there are none
(`error_span_covers_text`).
-/

namespace ArithTokens

/-! ## Bytes of a part of a text -/

/-- The bytes of a text in the middle of another one are found behind the bytes before it. -/
theorem extract_append_append (before between behind : String) :
    (before ++ (between ++ behind)).toUTF8.extract before.utf8ByteSize
        (before.utf8ByteSize + between.utf8ByteSize) = between.toUTF8 := by
  have hbefore : before.toByteArray.extract before.utf8ByteSize
      (before.utf8ByteSize + between.utf8ByteSize) = ByteArray.empty := by
    rw [ByteArray.extract_eq_empty_iff, String.size_toByteArray]
    exact Nat.min_le_right _ _
  show (before ++ (between ++ behind)).toByteArray.extract _ _ = between.toByteArray
  rw [String.toByteArray_append, ByteArray.extract_append, hbefore, ByteArray.empty_append,
    String.size_toByteArray, Nat.sub_self, Nat.add_sub_cancel_left, String.toByteArray_append]
  exact ByteArray.extract_append_eq_left String.size_toByteArray.symm

/-- The bytes from one character of a text to a later one are those of the characters between
them. -/
theorem extract_between {first second : Nat} (h : first ≤ second) (text : String) :
    text.toUTF8.extract (byteCount (text.toList.take first)) (byteCount (text.toList.take second)) =
      (String.ofList ((text.toList.take second).drop first)).toUTF8 := by
  have hsecond := take_append_between h text.toList
  have htext : text = String.ofList (text.toList.take first) ++
      (String.ofList ((text.toList.take second).drop first) ++
        String.ofList (text.toList.drop second)) := by
    rw [← String.ofList_append, ← String.ofList_append, ← List.append_assoc, hsecond,
      List.take_append_drop, String.ofList_toList]
  have hbytes : byteCount (text.toList.take second) =
      byteCount (text.toList.take first) + byteCount ((text.toList.take second).drop first) := by
    rw [← byte_count_append, hsecond]
  have hextract := extract_append_append (.ofList (text.toList.take first))
    (.ofList ((text.toList.take second).drop first)) (.ofList (text.toList.drop second))
  rw [← htext] at hextract
  rw [hbytes]
  exact hextract

/-- A later place has not counted fewer bytes. -/
theorem byte_count_take_mono {first second : Nat} (h : first ≤ second) (text : List Char) :
    byteCount (text.take first) ≤ byteCount (text.take second) := by
  rw [← take_append_between h text, byte_count_append]
  exact Nat.le_add_right _ _

/-! ## Spans between places -/

/-- An error between two places of a text starts with the bytes before the first one, and its bytes
are the characters from there to the second one, or none if the second one comes first. Whatever the
places of an error are, the bytes of the second one beyond those of the first one are its span and
its one marked span, and its message and the source shown with it are those of the first one. -/
theorem error_span_covers_text (fault : Fault) (detail : String) :
    (∀ (source : Source) (first second : Nat), first ≤ source.text.toList.length →
      second ≤ source.text.toList.length →
      let error : ScanError :=
        ⟨fault, detail, Place.walked source first, Place.walked source second⟩
      error.span.start = byteCount (source.text.toList.take first) ∧
      (first ≤ second →
        error.span.start + error.span.length ≤ source.text.utf8ByteSize ∧
        String.fromUTF8? (source.text.toUTF8.extract error.span.start
            (error.span.start + error.span.length)) =
          some (String.ofList ((source.text.toList.take second).drop first))) ∧
      (second < first → error.span.length = 0)) ∧
    ∀ start stop : Place,
      let error : ScanError := ⟨fault, detail, start, stop⟩
      error.span.start = start.byte ∧
      (error.span.length : Int) = max 0 ((stop.byte : Int) - start.byte) ∧
      error.labels = [("here", error.span)] ∧
      error.source = start.source ∧
      error.message = fault.title ++ ": " ++ detail ++ "\nFile " ++ start.source.name ++
        ", line " ++ (start.line + 1).repr := by
  constructor
  · intro source first second hfirst hsecond error
    have hspan : error.span = ⟨byteCount (source.text.toList.take first),
        byteCount (source.text.toList.take second) -
          byteCount (source.text.toList.take first)⟩ := by
      simp only [error, ScanError.span, Place.walked_eq hfirst, Place.walked_eq hsecond]
      rfl
    rw [hspan]
    refine ⟨rfl, fun hle => ?_, fun hlt => ?_⟩
    · have hmono := byte_count_take_mono hle source.text.toList
      rw [Nat.add_sub_cancel' hmono, extract_between hle]
      refine ⟨?_, from_utf8_eq_some_iff.2 rfl⟩
      have hwhole := byte_count_take_mono hsecond source.text.toList
      rwa [List.take_length, byteCount, byteCount, String.ofList_toList] at hwhole
    · exact Nat.sub_eq_zero_of_le (byte_count_take_mono (Nat.le_of_lt hlt) source.text.toList)
  · intro start stop error
    refine ⟨rfl, ?_, rfl, rfl, rfl⟩
    show ((stop.byte - start.byte : Nat) : Int) = _
    omega

/-- An error over a letter of two bytes and a newline has the three bytes of these, and the other
way round it has none. -/
theorem error_span_over_newline :
    let source : Source := ⟨"sum", "1é\n2"⟩
    let error : Nat → Nat → ScanError := fun first second =>
      ⟨.illegalCharacter, "", Place.walked source first, Place.walked source second⟩
    (error 1 3).span = ⟨1, 3⟩ ∧
      String.fromUTF8? (source.text.toUTF8.extract 1 4) = some "é\n" ∧
      (error 3 1).span.length = 0 := by
  intro source error
  have hlength : source.text.toList.length = 4 := by decide +kernel
  have hcovers := (error_span_covers_text .illegalCharacter "").1 source
  obtain ⟨-, hforward, -⟩ := hcovers 1 3 (by omega) (by omega)
  obtain ⟨-, -, hbackward⟩ := hcovers 3 1 (by omega) (by omega)
  have hspan : (error 1 3).span = ⟨1, 3⟩ := by decide +kernel
  have htext : String.ofList ((source.text.toList.take 3).drop 1) = "é\n" := by decide +kernel
  have hbytes := (hforward (by decide)).2
  rw [htext] at hbytes
  change String.fromUTF8? (source.text.toUTF8.extract (error 1 3).span.start
    ((error 1 3).span.start + (error 1 3).span.length)) = _ at hbytes
  rw [hspan] at hbytes
  exact ⟨hspan, hbytes, hbackward (by decide)⟩

end ArithTokens
