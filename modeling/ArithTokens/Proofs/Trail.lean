import ArithTokens.Proofs.Scanning

/-!
# The trail of a scan

The trail of a scan is every scanner on its way, one for each advance: the one on the first
character, those in the middle of a number, and the one behind an illegal character. The trail is
the scanners of the indices from zero on (`Source.exists_trail_eq`), so that every one of them is in
step with the text and none is past its end (`scan_stays_in_step`).
-/

namespace ArithTokens

namespace Scanner

/-- The scanners that a number of advances lead through. -/
def path (s : Scanner) (count : Nat) : List Scanner :=
  (List.range count).map fun made => s.advanceBy (made + 1)

/-- The scanners behind this one that a scan leads through, up to the one at the end of the text or
behind the rejected character. -/
def trail (s : Scanner) : List Scanner :=
  match _h : s.step with
  | .finish => []
  | .reject _ => [s.advance]
  | .pass _ count => s.path count ++ (s.advanceBy count).trail
termination_by s.remaining
decreasing_by exact pass_remaining_lt _h

/-- The trail ends where a scan is finished. -/
theorem trail_of_finish {s : Scanner} (h : s.step = .finish) : s.trail = [] := by
  rw [trail]
  split <;> simp_all

/-- The trail ends behind a rejected character. -/
theorem trail_of_reject {s : Scanner} {c : Char} (h : s.step = .reject c) :
    s.trail = [s.advance] := by
  rw [trail]
  split <;> simp_all

/-- The trail leads through the characters that are passed. -/
theorem trail_of_pass {s : Scanner} {token? : Option Token} {count : Nat}
    (h : s.step = .pass token? count) :
    s.trail = s.path count ++ (s.advanceBy count).trail := by
  rw [trail]
  split <;> simp_all

/-- Says that a scanner has counted everything before the character with this index, and sees the
text from there on. -/
structure InStep (s : Scanner) (source : Source) (index : Nat) : Prop where
  /-- The scanner is not past the end. -/
  index_le : index ≤ source.text.toList.length
  source_eq : s.place.source = source
  offset_eq : s.place.offset = some index
  byte_eq : s.place.byte = byteCount (source.text.toList.take index)
  byte_le : s.place.byte ≤ source.text.utf8ByteSize
  /-- The byte is where a character starts, and there is a text from there on. -/
  text_from : ∃ rest, source.textFrom? s.place.byte = some rest ∧
    rest.copy.toList = source.text.toList.drop index
  rest_eq : s.place.rest.copy.toList = source.text.toList.drop index
  line_eq : s.place.line = (source.text.toList.take index).count '\n'
  column_eq : s.place.column = some (columnBehind (source.text.toList.take index))
  current_eq : s.current? = source.text.toList[index]?
  current_eq_none_iff : s.current? = none ↔ index = source.text.toList.length

variable {source : Source} {index : Nat}

/-! ## One step -/

/-- The scanner of an index is in step with the text. -/
theorem in_step_of_index (h : index ≤ source.text.toList.length) :
    (ofIndex source index).InStep source index where
  index_le := h
  source_eq := rfl
  offset_eq := rfl
  byte_eq := rfl
  byte_le := by
    obtain ⟨rest, hrest, -⟩ := Place.text_from_of_index source index
    obtain ⟨before, htext, hbyte⟩ := Source.text_from_sound hrest
    rw [of_index_place, ← hbyte, htext, String.utf8ByteSize_append]
    exact Nat.le_add_right _ _
  text_from := Place.text_from_of_index source index
  rest_eq := Place.rest_of_index source index
  line_eq := rfl
  column_eq := rfl
  current_eq := rfl
  current_eq_none_iff := by
    rw [ofIndex, List.getElem?_eq_none_iff]
    omega

/-- No step leads past the end of the text: the bytes of a number are as many as its characters. -/
theorem pass_of_index {token? : Option Token} {count : Nat}
    (h : (ofIndex source index).step = .pass token? count) :
    index + count ≤ source.text.toList.length := by
  obtain ⟨⟨c, hcurrent⟩, -⟩ := step_eq_pass h
  change source.text.toList[index]? = some c at hcurrent
  have hindex : index < source.text.toList.length := (List.getElem?_eq_some_iff.1 hcurrent).1
  by_cases hlegal : isLegal c = true
  · by_cases hblank : isBlank c = true
    · rw [step_of_blank hcurrent hblank] at h
      cases h
      exact hindex
    · have hdrop : source.text.toList.drop index =
          c :: source.text.toList.drop (index + 1) := by
        rw [List.drop_eq_getElem_cons hindex, (List.getElem?_eq_some_iff.1 hcurrent).2]
      obtain ⟨lexeme, hfirst⟩ := Lexeme.exists_first (source.text.toList.drop (index + 1)) hlegal
        (by simpa using hblank)
      rw [← hdrop] at hfirst
      obtain ⟨hwritten, rest, hsplit, hends⟩ := Lexeme.first_spec hfirst
      rw [step_of_lexeme hsplit hwritten hends] at h
      cases h
      exact lexeme_inside hsplit hwritten
  · rw [step_of_illegal hcurrent (by simpa using hlegal)] at h
    cases h

/-- Steps that stay in the text lead through the scanners of the next indices. -/
theorem path_of_index {count : Nat} (h : index + count ≤ source.text.toList.length) :
    (ofIndex source index).path count = (List.range' (index + 1) count).map (ofIndex source) := by
  rw [path, List.range'_eq_map_range, List.map_map]
  refine List.map_congr_left fun made hmade => ?_
  have hcount := List.mem_range.1 hmade
  rw [advance_by_of_index (by omega), Function.comp_apply, Nat.add_right_comm, Nat.add_assoc]

/-! ## A whole scan -/

/-- The trail from an index on is the scanners of the indices behind it: up to the end of the text,
or up to the one behind the character that is the error. -/
theorem trail_of_index (h : index ≤ source.text.toList.length) :
    ∃ last, index ≤ last ∧
      (ofIndex source index).trail =
        (List.range' (index + 1) (last - index)).map (ofIndex source) ∧
      match (ofIndex source index).scan.error? with
      | none => last = source.text.toList.length
      | some error => ∃ stop c, last = stop + 1 ∧ source.text.toList[stop]? = some c ∧
          error = (ofIndex source stop).illegal c := by
  -- The induction is on the number of characters ahead, of which every step passes at least one.
  induction hahead : source.text.toList.length - index using Nat.strongRecOn generalizing index with
  | ind ahead ih =>
    subst hahead
    cases hstep : (ofIndex source index).step with
    | finish =>
      have hlength := List.getElem?_eq_none_iff.1 (step_eq_finish hstep)
      refine ⟨index, Nat.le_refl _, ?_, ?_⟩
      · rw [trail_of_finish hstep, Nat.sub_self]
        rfl
      · rw [scan_of_finish hstep]
        exact Nat.le_antisymm h hlength
    | reject c =>
      have hcurrent : source.text.toList[index]? = some c := step_eq_reject hstep
      refine ⟨index + 1, Nat.le_succ _, ?_, ?_⟩
      · rw [trail_of_reject hstep, Nat.add_sub_cancel_left,
          advance_of_index (List.getElem?_eq_some_iff.1 hcurrent).1]
        rfl
      · rw [scan_of_reject hstep]
        exact ⟨index, c, rfl, hcurrent, rfl⟩
    | pass token? count =>
      have hinside := pass_of_index hstep
      have hpos := (step_eq_pass hstep).2
      obtain ⟨last, hlast, htrail, herror⟩ := ih (source.text.toList.length - (index + count))
        (by omega) hinside rfl
      refine ⟨last, by omega, ?_, ?_⟩
      · have hsplit : last - index = count + (last - (index + count)) := by omega
        have hbehind : index + 1 + count = index + count + 1 := Nat.add_right_comm ..
        rw [trail_of_pass hstep, path_of_index hinside, advance_by_of_index hinside, htrail,
          hsplit, ← List.range'_append_1, List.map_append, hbehind]
      · rw [scan_of_pass hstep, advance_by_of_index hinside]
        exact herror

end Scanner

/-- The scanners that the scan of a source leads through. -/
def Source.trail (source : Source) : List Scanner :=
  Scanner.start source :: (Scanner.start source).trail

/-- The trail of a source is the scanners of its indices from zero on, up to the end of the text or
up to the one behind the character that is the error. -/
theorem Source.exists_trail_eq (source : Source) :
    ∃ last, last ≤ source.text.toList.length ∧
      source.trail = (List.range (last + 1)).map (Scanner.ofIndex source) ∧
      match source.scan.error? with
      | none => last = source.text.toList.length
      | some error => ∃ stop c, last = stop + 1 ∧ source.text.toList[stop]? = some c ∧
          error = (Scanner.ofIndex source stop).illegal c := by
  obtain ⟨last, -, htrail, herror⟩ := Scanner.trail_of_index (Nat.zero_le source.text.toList.length)
  rw [← Scanner.start_eq] at herror
  refine ⟨last, ?_, ?_, herror⟩
  · split at herror
    · exact Nat.le_of_eq herror
    · obtain ⟨stop, c, rfl, hcurrent, -⟩ := herror
      exact (List.getElem?_eq_some_iff.1 hcurrent).1
  · rw [trail, Scanner.start_eq, htrail, List.range_eq_range', List.range'_succ, List.map_cons,
      Nat.sub_zero]

/-- The scanners on such a trail are those of the indices up to the last one. -/
theorem Source.trail_get_iff {source : Source} {last index : Nat} {s : Scanner}
    (htrail : source.trail = (List.range (last + 1)).map (Scanner.ofIndex source)) :
    source.trail[index]? = some s ↔ index ≤ last ∧ s = Scanner.ofIndex source index := by
  rw [htrail, List.getElem?_map]
  by_cases hindex : index ≤ last
  · rw [List.getElem?_range (Nat.lt_succ_of_le hindex), Option.map_some, Option.some.injEq]
    exact ⟨fun hs => ⟨hindex, hs.symm⟩, fun hs => hs.2.symm⟩
  · have hnone : (List.range (last + 1))[index]? = none := by
      rw [List.getElem?_eq_none_iff, List.length_range]
      omega
    rw [hnone]
    simp [hindex]

/-- Every scanner on the trail of a scan is in step with the text, each after the first is one
advance behind the one before it, and the last one is at the end of the text or behind the illegal
character. -/
theorem scan_stays_in_step (name text : String) :
    let source : Source := ⟨name, text⟩
    (∀ index (s : Scanner), source.trail[index]? = some s → s.InStep source index) ∧
    (∀ index (s next : Scanner), source.trail[index]? = some s →
      source.trail[index + 1]? = some next → next = s.advance) ∧
    (∀ tokens, tokenize name text = .ok tokens →
      source.trail.length = text.toList.length + 1) ∧
    ∀ error, tokenize name text = .error error →
      ∃ index, index < text.toList.length ∧ error.start.offset = some index ∧
        source.trail.length = index + 2 ∧
        source.trail[index]?.map Scanner.place = some error.start ∧
        source.trail[index + 1]?.map Scanner.place = some error.stop := by
  intro source
  obtain ⟨last, hlast, htrail, herror⟩ := source.exists_trail_eq
  have hlength : source.trail.length = last + 1 := by
    rw [htrail, List.length_map, List.length_range]
  refine ⟨?_, ?_, ?_, ?_⟩
  · intro index s hs
    obtain ⟨hindex, rfl⟩ := (Source.trail_get_iff htrail).1 hs
    exact Scanner.in_step_of_index (Nat.le_trans hindex hlast)
  · intro index s next hs hnext
    obtain ⟨-, rfl⟩ := (Source.trail_get_iff htrail).1 hs
    obtain ⟨hindex, rfl⟩ := (Source.trail_get_iff htrail).1 hnext
    exact (Scanner.advance_of_index (Nat.lt_of_lt_of_le hindex hlast)).symm
  · intro tokens htokens
    rw [tokenize, Scan.result] at htokens
    split at htokens
    · next hscan =>
      rw [hscan] at herror
      rw [hlength, herror]
    · cases htokens
  · intro error hresult
    rw [tokenize, Scan.result] at hresult
    split at hresult
    · cases hresult
    · next found hscan =>
      obtain rfl := Except.error.inj hresult
      rw [hscan] at herror
      obtain ⟨stop, c, rfl, hcurrent, rfl⟩ := herror
      have hstop : stop < source.text.toList.length := (List.getElem?_eq_some_iff.1 hcurrent).1
      -- The error is made of the place of its character and of the one behind it.
      refine ⟨stop, hstop, rfl, hlength, ?_, ?_⟩
      · rw [(Source.trail_get_iff htrail).2 ⟨Nat.le_succ stop, rfl⟩]
        rfl
      · rw [(Source.trail_get_iff htrail).2 ⟨Nat.le_refl _, rfl⟩,
          ← Scanner.advance_of_index hstop]
        rfl

/-- A scan walks over `1.` and then onto and behind the newline. -/
theorem trail_over_newline :
    let source : Source := ⟨"sum", "1.\n"⟩
    let s : Scanner := ⟨⟨some 2, 2, 0, some 2, source⟩, some '\n'⟩
    let behind : Scanner := ⟨⟨some 3, 3, 1, some 0, source⟩, none⟩
    s.InStep source 2 ∧ behind = s.advance ∧ source.trail.length = 4 := by
  intro source s behind
  have hs : source.trail[2]? = some s := by decide +kernel
  have hbehind : source.trail[3]? = some behind := by decide +kernel
  have herror : tokenize "sum" "1.\n" = .error (s.illegal '\n') := by decide +kernel
  obtain ⟨hstep, hnext, -, hlast⟩ := scan_stays_in_step "sum" "1.\n"
  obtain ⟨index, -, hoffset, hlength, -⟩ := hlast _ herror
  obtain rfl : 2 = index := Option.some.inj hoffset
  exact ⟨hstep 2 s hs, hnext 2 s behind hs hbehind, hlength⟩

end ArithTokens
