import ArithTokens.Proofs.Numerals

/-!
# Documents and their texts

A document whose numbers are numbers of JSON is read back from its compact text
(`Json.read_compact`), whatever characters its strings have. A document without spaces in its
strings has one text up to spaces and newlines: without these the indented text is the compact one
(`Json.indented_filter`).
-/

namespace ArithTokens.Json

/-- Says that the texts of all numbers of a document have one property, and those of all strings and
keys another one. -/
inductive Forall (onNumber onString : List Char → Prop) : Json → Prop where
  | null : Forall onNumber onString .null
  | number (text) : onNumber text → Forall onNumber onString (.number text)
  | string (text) : onString text → Forall onNumber onString (.string text)
  | array (items) :
      (∀ item ∈ items, Forall onNumber onString item) → Forall onNumber onString (.array items)
  | object (members) :
      (∀ member ∈ members, onString member.1) →
      (∀ member ∈ members, Forall onNumber onString member.2) →
      Forall onNumber onString (.object members)

/-! ## Reading the compact text -/

/-- Nothing is skipped in front of a character that is not a blank. -/
theorem skip_blanks_cons {c : Char} (h : isBlank c = false) (rest : List Char) :
    skipBlanks (c :: rest) = c :: rest := by
  simp [skipBlanks, h]

/-- The two digits of an escape stand for the control character that is escaped. -/
theorem char_of_escape {c : Char} (h : c.toNat < 32) :
    Hexadecimal.char? ['0', '0', hexDigit (c.toNat / 16), hexDigit (c.toNat % 16)] = some c := by
  have hall : ∀ n < 32, Hexadecimal.char? ['0', '0', hexDigit (n / 16), hexDigit (n % 16)] =
      some (Char.ofNat n) := by
    decide
  rw [hall c.toNat h, Char.ofNat_toNat]

/-- An escaped character is read as the character. -/
theorem read_string_escape (c : Char) (rest : List Char) :
    readString? (escape c ++ rest) = withChar? (some c) (readString? rest) := by
  unfold escape
  split
  · next hquote =>
    subst hquote
    simp [readString?, escaped?]
  · next hquote =>
    split
    · next hbackslash =>
      subst hbackslash
      simp [readString?, escaped?]
    · next hbackslash =>
      split
      · next hcontrol =>
        simp only [List.cons_append, List.nil_append, readString?, char_of_escape hcontrol]
      · next hcontrol => simp [readString?, hbackslash, hcontrol]

/-- Any text between quotes is read as the text. -/
theorem read_string_quote (text rest : List Char) :
    readString? (text.flatMap escape ++ '"' :: rest) = some (text, rest) := by
  induction text with
  | nil => rfl
  | cons c text ih =>
    rw [List.flatMap_cons, List.append_assoc, read_string_escape, ih]
    rfl

/-- A number of JSON is read up to where no more of it can follow. -/
theorem read_number_append {text rest : List Char} (h : IsNumber text)
    (hrest : ∀ c ∈ rest.head?, isNumberChar c = false) :
    readNumber? (text ++ rest) = some (.number text, rest) := by
  obtain ⟨hchars, hread, hstart⟩ := h
  simp only [readNumber?, take_while_append hchars hrest, drop_while_append hchars hrest, hread,
    hstart, Bool.and_self, ↓reduceIte]

/-- A number of JSON starts with a character of numbers. -/
theorem number_head {text : List Char} (h : IsNumber text) :
    ∃ c rest, text = c :: rest ∧ isNumberChar c = true := by
  obtain ⟨hchars, hread, -⟩ := h
  cases text with
  | nil => cases hread
  | cons c rest => exact ⟨c, rest, rfl, hchars c List.mem_cons_self⟩

/-- Blanks are no part of numbers. -/
theorem is_blank_of_number_char {c : Char} (h : isNumberChar c = true) : isBlank c = false := by
  have hspace : c ≠ ' ' := ne_of_class h rfl
  have htab : c ≠ '\t' := ne_of_class h rfl
  have hnewline : c ≠ '\n' := ne_of_class h rfl
  have hreturn : c ≠ '\r' := ne_of_class h rfl
  simp [isBlank, hspace, htab, hnewline, hreturn]

/-- Says that a document is read from its compact text with enough fuel, and what follows is left,
where no character of a number follows. -/
def ReadsBack (json : Json) : Prop :=
  ∀ fuel rest, json.compact.length ≤ fuel → (∀ c ∈ rest.head?, isNumberChar c = false) →
    readValue? fuel (json.compact ++ rest) = some (json, rest)

/-- The compact text of a document starts with a character that is neither a blank nor the end of an
array. -/
theorem compact_head {onString : List Char → Prop} {json : Json}
    (h : json.Forall IsNumber onString) :
    ∃ c rest, json.compact = c :: rest ∧ isBlank c = false ∧ c ≠ ']' := by
  cases h with
  | null => exact ⟨'n', _, rfl, rfl, by decide⟩
  | string text => exact ⟨'"', _, rfl, rfl, by decide⟩
  | array items => exact ⟨'[', _, rfl, rfl, by decide⟩
  | object members => exact ⟨'\x7b', _, rfl, rfl, by decide⟩
  | number text hnumber =>
    obtain ⟨c, rest, rfl, hc⟩ := number_head hnumber
    exact ⟨c, rest, rfl, is_blank_of_number_char hc, ne_of_class hc rfl⟩

/-- A number is read back. -/
theorem number_reads_back {text : List Char} (h : IsNumber text) : (number text).ReadsBack := by
  intro fuel rest hfuel hrest
  obtain ⟨c, more, htext, hc⟩ := number_head h
  have hnumber := read_number_append h hrest
  have hne : ∀ d, isNumberChar d = false → c ≠ d := fun _ => ne_of_class hc
  have hblank := is_blank_of_number_char hc
  rw [compact] at hfuel ⊢
  rw [htext, List.cons_append] at hnumber ⊢
  cases fuel with
  | zero => simp [htext] at hfuel
  | succ fuel =>
    -- None of the characters with which other values start is one of numbers.
    simp only [readValue?, skip_blanks_cons hblank]
    split
    · next heq => exact absurd (List.cons.inj heq).1 (hne 'n' rfl)
    · next heq => exact absurd (List.cons.inj heq).1 (hne '"' rfl)
    · next heq => exact absurd (List.cons.inj heq).1 (hne '[' rfl)
    · next heq => exact absurd (List.cons.inj heq).1 (hne '\x7b' rfl)
    · exact hnumber

/-- Elements that are read back are read one by one up to the closing bracket. -/
theorem read_items_compact {items : List Json} (hne : items ≠ [])
    (h : ∀ item ∈ items, item.ReadsBack) (fuel : Nat) (rest : List Char)
    (hfuel : ([','].intercalate (items.map compact)).length < fuel) :
    readItems? fuel ([','].intercalate (items.map compact) ++ ']' :: rest) =
      some (items, rest) := by
  induction items generalizing fuel with
  | nil => exact absurd rfl hne
  | cons item more ih =>
    have hitem := h item List.mem_cons_self
    obtain ⟨fuel, rfl⟩ : ∃ n, fuel = n + 1 := ⟨fuel - 1, by omega⟩
    cases more with
    | nil =>
      rw [List.map_cons, List.map_nil, List.intercalate_singleton] at hfuel ⊢
      have hread := hitem fuel (']' :: rest) (by omega) (of_head_cons rfl)
      simp only [readItems?, hread, Option.bind_eq_bind, Option.bind_some]
      rfl
    | cons next more =>
      have hrest := fun item hitem => h item (List.mem_cons_of_mem _ hitem)
      rw [List.map_cons, List.map_cons, List.intercalate_cons_cons, ← List.map_cons] at hfuel ⊢
      simp only [List.length_append, List.length_singleton] at hfuel
      rw [List.append_assoc, List.append_assoc, List.singleton_append]
      have hread := hitem fuel
        (',' :: ([','].intercalate ((next :: more).map compact) ++ ']' :: rest)) (by omega)
        (of_head_cons rfl)
      have hmore := ih (List.cons_ne_nil _ _) hrest fuel (by omega)
      simp only [readItems?, hread, Option.bind_eq_bind, Option.bind_some]
      rw [skip_blanks_cons rfl]
      simp only [hmore, Option.bind_some]

/-- Members whose values are read back are read one by one up to the closing brace. -/
theorem read_members_compact {members : List (List Char × Json)} (hne : members ≠ [])
    (h : ∀ member ∈ members, member.2.ReadsBack) (fuel : Nat) (rest : List Char)
    (hfuel : ([','].intercalate (members.map memberText)).length < fuel) :
    readMembers? fuel ([','].intercalate (members.map memberText) ++ '\x7d' :: rest) =
      some (members, rest) := by
  induction members generalizing fuel with
  | nil => exact absurd rfl hne
  | cons member more ih =>
    obtain ⟨key, value⟩ := member
    have hvalue : value.ReadsBack := h _ List.mem_cons_self
    obtain ⟨fuel, rfl⟩ : ∃ n, fuel = n + 1 := ⟨fuel - 1, by omega⟩
    have htext : ∀ after, memberText (key, value) ++ after =
        '"' :: (key.flatMap escape ++ '"' :: (':' :: (value.compact ++ after))) := by
      intro after
      simp [memberText, quote]
    have hlength : value.compact.length < (memberText (key, value)).length := by
      simp only [memberText, List.length_append, List.length_cons]
      omega
    cases more with
    | nil =>
      rw [List.map_cons, List.map_nil, List.intercalate_singleton] at hfuel ⊢
      have hread := hvalue fuel ('\x7d' :: rest) (by omega) (of_head_cons rfl)
      rw [htext, readMembers?, skip_blanks_cons rfl]
      simp only [read_string_quote, Option.bind_eq_bind, Option.bind_some]
      rw [skip_blanks_cons rfl]
      simp only [hread, Option.bind_some]
      rfl
    | cons next more =>
      have hrest := fun member hmember => h member (List.mem_cons_of_mem _ hmember)
      rw [List.map_cons, List.map_cons, List.intercalate_cons_cons, ← List.map_cons] at hfuel ⊢
      simp only [List.length_append, List.length_singleton] at hfuel
      rw [List.append_assoc, List.append_assoc, List.singleton_append]
      have hread := hvalue fuel
        (',' :: ([','].intercalate ((next :: more).map memberText) ++ '\x7d' :: rest)) (by omega)
        (of_head_cons rfl)
      have hmore := ih (List.cons_ne_nil _ _) hrest fuel (by omega)
      rw [htext, readMembers?, skip_blanks_cons rfl]
      simp only [read_string_quote, Option.bind_eq_bind, Option.bind_some]
      rw [skip_blanks_cons rfl]
      simp only [hread, Option.bind_some]
      rw [skip_blanks_cons rfl]
      simp only [hmore, Option.bind_some]

/-- A document whose numbers are numbers of JSON is read back. -/
theorem reads_back {onString : List Char → Prop} {json : Json}
    (h : json.Forall IsNumber onString) : json.ReadsBack := by
  induction h with
  | null =>
    intro fuel rest hfuel _
    obtain ⟨fuel, rfl⟩ : ∃ n, fuel = n + 1 := ⟨fuel - 1, by simp [compact] at hfuel; omega⟩
    rfl
  | number text hnumber => exact number_reads_back hnumber
  | string text _ =>
    intro fuel rest hfuel _
    obtain ⟨fuel, rfl⟩ : ∃ n, fuel = n + 1 := ⟨fuel - 1, by simp [compact, quote] at hfuel; omega⟩
    rw [compact, quote, List.cons_append, List.append_assoc, List.singleton_append, readValue?,
      skip_blanks_cons rfl]
    simp only [read_string_quote, Option.map_some]
  | array items hitems ih =>
    intro fuel rest hfuel _
    rw [compact, compact_items_eq_map] at hfuel ⊢
    simp only [List.length_cons, List.length_append, List.length_nil] at hfuel
    obtain ⟨fuel, rfl⟩ : ∃ n, fuel = n + 1 := ⟨fuel - 1, by omega⟩
    rw [List.cons_append, List.append_assoc, List.singleton_append, readValue?,
      skip_blanks_cons rfl]
    cases items with
    | nil => rfl
    | cons item more =>
      have hread := read_items_compact (List.cons_ne_nil item more) ih fuel rest (by omega)
      obtain ⟨c, tail, hhead, hblank, hbracket⟩ := compact_head (hitems item List.mem_cons_self)
      rw [List.map_cons, hhead, List.intercalate_cons_cons_left, List.cons_append] at hread ⊢
      simp only [skip_blanks_cons hblank]
      split
      · next heq => exact absurd (List.cons.inj heq).1 hbracket
      · rw [hread, Option.map_some]
  | object members hkeys hvalues ih =>
    intro fuel rest hfuel _
    rw [compact, compact_members_eq_map] at hfuel ⊢
    simp only [List.length_cons, List.length_append, List.length_nil] at hfuel
    obtain ⟨fuel, rfl⟩ : ∃ n, fuel = n + 1 := ⟨fuel - 1, by omega⟩
    rw [List.cons_append, List.append_assoc, List.singleton_append, readValue?,
      skip_blanks_cons rfl]
    cases members with
    | nil => rfl
    | cons member more =>
      have hread := read_members_compact (List.cons_ne_nil member more) ih fuel rest
        (Nat.lt_of_succ_le (Nat.le_of_succ_le_succ hfuel))
      obtain ⟨tail, hhead⟩ : ∃ tail, memberText member = '"' :: tail := ⟨_, rfl⟩
      rw [List.map_cons, hhead, List.intercalate_cons_cons_left, List.cons_append] at hread ⊢
      have hquote : isBlank '"' = false := rfl
      simp only [skip_blanks_cons hquote]
      split
      · next heq => exact absurd (List.cons.inj heq).1 (by decide)
      · rw [hread, Option.map_some]

/-- A document whose numbers are numbers of JSON is read from its compact text. -/
theorem read_compact {onString : List Char → Prop} {json : Json}
    (h : json.Forall IsNumber onString) : read? json.compact = some json := by
  have hread := reads_back h (json.compact.length + 1) [] (Nat.le_succ _) (by simp)
  rw [List.append_nil] at hread
  rw [read?, hread]
  rfl

/-! ## The two layouts -/

/-- Spaces and newlines are what indentation adds to a text; everything else is ink. -/
def isInk (c : Char) : Bool := c ≠ ' ' && c ≠ '\n'

/-- Says that a text has no spaces and no newlines. -/
def IsSolid (text : List Char) : Prop := ∀ c ∈ text, isInk c = true

/-- Numbers of JSON have no spaces and no newlines. -/
theorem number_is_solid {text : List Char} (h : IsNumber text) : IsSolid text := by
  intro c hc
  have hnumber := h.1 c hc
  rw [isInk, Bool.and_eq_true, decide_eq_true_eq, decide_eq_true_eq]
  exact ⟨ne_of_class hnumber rfl, ne_of_class hnumber rfl⟩

/-- Escapes have no spaces and no newlines. -/
theorem escape_is_solid {c : Char} (h : isInk c = true) : IsSolid (escape c) := by
  intro d hd
  have hdigit : ∀ n < 16, isInk (hexDigit n) = true := by decide
  unfold escape at hd
  split at hd
  · simp only [List.mem_cons, List.not_mem_nil, or_false] at hd
    rcases hd with rfl | rfl <;> rfl
  · split at hd
    · simp only [List.mem_cons, List.not_mem_nil, or_false] at hd
      rcases hd with rfl | rfl <;> rfl
    · split at hd
      · next hcontrol =>
        simp only [List.mem_cons, List.not_mem_nil, or_false] at hd
        rcases hd with rfl | rfl | rfl | rfl | rfl | rfl
        · rfl
        · rfl
        · rfl
        · rfl
        · exact hdigit _ (by omega)
        · exact hdigit _ (by omega)
      · obtain rfl := List.mem_singleton.1 hd
        exact h

/-- A text without spaces has none between quotes. -/
theorem quote_is_solid {text : List Char} (h : IsSolid text) : IsSolid (quote text) := by
  intro c hc
  rw [quote, List.mem_cons, List.mem_append, List.mem_flatMap] at hc
  rcases hc with rfl | ⟨d, hd, hc⟩ | hc
  · rfl
  · exact escape_is_solid (h d hd) c hc
  · obtain rfl := List.mem_singleton.1 hc
    rfl

/-- Between commas the spaces and newlines are those of the parts. -/
theorem filter_intercalate (parts : List (List Char)) :
    ([','].intercalate parts).filter isInk = [','].intercalate (parts.map (List.filter isInk)) := by
  induction parts with
  | nil => rfl
  | cons part more ih =>
    cases more with
    | nil => simp
    | cons next more =>
      have hcomma : [','].filter isInk = [','] := by decide
      rw [List.intercalate_cons_cons, List.filter_append, List.filter_append, ih, hcomma]
      simp only [List.map_cons, List.intercalate_cons_cons]

/-- A new line is nothing but a newline and spaces. -/
theorem filter_new_line (depth : Nat) : (newLine depth).filter isInk = [] := by
  rw [newLine, List.filter_eq_nil_iff]
  intro c hc
  rcases List.mem_cons.1 hc with rfl | hc
  · decide
  · rw [List.eq_of_mem_replicate hc]
    decide

/-- Parts on lines of their own are parts between commas without the new lines. -/
theorem filter_bracketed (depth : Nat) {left right : Char} (hleft : isInk left = true)
    (hright : isInk right = true) (parts : List (List Char)) :
    (bracketed depth left right parts).filter isInk =
      left :: ([','].intercalate (parts.map (List.filter isInk)) ++ [right]) := by
  cases parts with
  | nil => simp [bracketed, hleft, hright]
  | cons part more =>
    have hlines : ∀ part : List Char,
        (newLine (depth + 1) ++ part).filter isInk = part.filter isInk := by
      intro part
      rw [List.filter_append, filter_new_line, List.nil_append]
    simp only [bracketed, List.filter_cons, hleft, hright, List.filter_append, filter_intercalate,
      filter_new_line, List.map_map, Function.comp_def, hlines, List.append_nil, ↓reduceIte,
      List.filter_nil]

/-- Without its spaces and newlines the indented text of a document is its compact text, if there
are none in its strings. -/
theorem indented_filter {json : Json} (h : json.Forall IsNumber IsSolid) (depth : Nat) :
    (json.indented depth).filter isInk = json.compact := by
  induction h generalizing depth with
  | null => rfl
  | number text hnumber =>
    rw [indented, compact, List.filter_eq_self]
    exact number_is_solid hnumber
  | string text hsolid =>
    rw [indented, compact, List.filter_eq_self]
    exact quote_is_solid hsolid
  | array items _ ih =>
    have hitems : (items.map (indented (depth + 1))).map (List.filter isInk) =
        items.map compact := by
      rw [List.map_map]
      exact List.map_congr_left fun item hitem => ih item hitem (depth + 1)
    rw [indented, compact, indented_items_eq_map, compact_items_eq_map,
      filter_bracketed depth rfl rfl, hitems]
  | object members hkeys _ ih =>
    have hmembers : (indentedMembers (depth + 1) members).map (List.filter isInk) =
        compactMembers members := by
      rw [indented_members_eq_map, compact_members_eq_map, List.map_map]
      refine List.map_congr_left fun member hmember => ?_
      have hkey := List.filter_eq_self.2 (quote_is_solid (hkeys member hmember))
      have hcolon : [':', ' '].filter isInk = [':'] := by decide
      rw [Function.comp_apply, List.filter_append, List.filter_append, hkey, hcolon,
        ih member hmember (depth + 1), List.append_assoc, List.singleton_append, memberText]
    rw [indented, compact, filter_bracketed depth rfl rfl, hmembers]

end ArithTokens.Json
