import ArithTokens.Proofs.Trail

/-!
# Accumulating a number

A number can be read by a loop that looks at one character after the other: it takes digits and the
first point, counts the points, and stops at anything else. The scanner reads the number in one
piece and then advances by its bytes. Both are the same wherever a number starts
(`number_follows_loop`): the scanner stops where the loop does, so it always gets on, and a scan has
no more rounds than its text has characters.
-/

namespace ArithTokens

/-! ## Characters of numbers -/

/-- Legal characters are those of ASCII with one byte. -/
theorem to_nat_lt_of_legal {c : Char} (h : isLegal c = true) : c.toNat < 128 :=
  Nat.lt_succ_of_le (UInt32.le_iff_toNat_le.1 (Char.utf8Size_eq_one_iff.1 (utf8_size_of_legal h)))

namespace NumberLexeme

variable {number : NumberLexeme}

/-- A number has a point exactly if it has a fraction. -/
theorem point_mem_text_iff (hwritten : number.isWritten = true) :
    '.' ∈ number.text ↔ number.fraction? ≠ none := by
  obtain ⟨whole, fraction?⟩ := number
  obtain ⟨hwhole, -, -⟩ := NumberLexeme.isWritten_iff.1 hwritten
  cases fraction? with
  | none =>
    refine iff_of_false ?_ fun h => h rfl
    rw [text, List.append_nil]
    exact fun hmem => absurd (hwhole '.' hmem) (by decide)
  | some fraction =>
    exact iff_of_true (List.mem_append_right _ List.mem_cons_self) (Option.some_ne_none fraction)

/-- Only a number with a point is a double. -/
theorem token_kind (hwritten : number.isWritten = true) :
    number.token.kind = if '.' ∈ number.text then .float else .int := by
  simp only [point_mem_text_iff hwritten, token]
  cases number.fraction? with
  | none => rfl
  | some fraction => rfl

end NumberLexeme

/-! ## The loop -/

/-- What a loop has accumulated: where it stands, the characters it took and how many of them were
points. -/
structure Accumulation where
  scanner : Scanner
  buffer : List Char
  points : Nat
deriving DecidableEq, Repr

namespace Scanner

/-- Takes characters as long as they are digits or the first point, one advance for each of them. -/
def accumulateFrom (s : Scanner) (buffer : List Char) (points : Nat) : Accumulation :=
  match _h : s.current? with
  | none => ⟨s, buffer, points⟩
  | some c =>
    if c.isDigit then s.advance.accumulateFrom (buffer ++ [c]) points
    else if c = '.' ∧ points = 0 then s.advance.accumulateFrom (buffer ++ [c]) (points + 1)
    else ⟨s, buffer, points⟩
termination_by s.remaining
decreasing_by all_goals exact advance_remaining_lt _h

/-- The loop from here, with nothing taken yet. -/
def accumulate (s : Scanner) : Accumulation := s.accumulateFrom [] 0

/-- The scanners that there are: those at the start of a source and those an advance leads to. -/
inductive Reachable : Scanner → Prop where
  | start (source : Source) : Reachable (start source)
  | advance {s : Scanner} : Reachable s → Reachable s.advance

/-- Says that the number here is the token of what a loop has accumulated, and that the scanner
passes the characters that the loop took. -/
structure FollowsLoop (s : Scanner) (loop : Accumulation) (token : Token) : Prop where
  number_eq : s.number? = some (token, loop.buffer.length)
  /-- The first character of a number is never rejected. -/
  step_eq : s.step = .pass (some token) loop.buffer.length
  advance_eq : s.advanceBy loop.buffer.length = loop.scanner
  /-- The loop took the first characters of the text and stands in front of all others. -/
  rest_eq : s.place.rest.copy.toList = loop.buffer ++ loop.scanner.place.rest.copy.toList
  current_eq : loop.scanner.current? = loop.scanner.place.rest.copy.toList.head?
  /-- The character behind the number is no digit, and no point unless it is the second one. -/
  stops : ∀ c, loop.scanner.current? = some c → c.isDigit = false ∧ (c = '.' → '.' ∈ loop.buffer)
  buffer_ne_nil : loop.buffer ≠ []
  is_ascii : ∀ c ∈ loop.buffer, c.toNat < 128
  byte_count_eq : byteCount loop.buffer = loop.buffer.length
  kind_eq : token.kind = if '.' ∈ loop.buffer then .float else .int
  /-- The token is the one of the characters taken. -/
  token_eq : ∃ number : NumberLexeme, number.isWritten = true ∧ number.text = loop.buffer ∧
    token = number.token

/-! ## The rounds of a scan -/

/-- How many rounds a scan takes from here; at the end of the text there is none. -/
def rounds (s : Scanner) : Nat :=
  match _h : s.step with
  | .finish => 0
  | .reject _ => 1
  | .pass _ count => (s.advanceBy count).rounds + 1
termination_by s.remaining
decreasing_by exact pass_remaining_lt _h

/-- Every round advances at least once. -/
theorem rounds_le_trail (s : Scanner) : s.rounds ≤ s.trail.length := by
  induction hremaining : s.remaining using Nat.strongRecOn generalizing s with
  | ind remaining ih =>
    subst hremaining
    rw [rounds]
    split
    · exact Nat.zero_le _
    · next c hstep =>
      rw [trail_of_reject hstep]
      exact Nat.le_refl 1
    · next token? count hstep =>
      have hrest := ih _ (pass_remaining_lt hstep) _ rfl
      have hpos := (step_eq_pass hstep).2
      rw [trail_of_pass hstep, List.length_append, path, List.length_map, List.length_range]
      omega

/-! ## One turn of the loop -/

variable {s : Scanner} {c : Char}

/-- A digit is taken. -/
theorem accumulate_of_digit (h : s.current? = some c) (hdigit : c.isDigit = true)
    (buffer : List Char) (points : Nat) :
    s.accumulateFrom buffer points = s.advance.accumulateFrom (buffer ++ [c]) points := by
  rw [accumulateFrom]
  split
  · next hnone =>
    rw [h] at hnone
    cases hnone
  · next d hd =>
    obtain rfl : c = d := Option.some.inj (h.symm.trans hd)
    rw [if_pos hdigit]

/-- The first point is taken and counted. -/
theorem accumulate_of_point (h : s.current? = some '.') (buffer : List Char) :
    s.accumulateFrom buffer 0 = s.advance.accumulateFrom (buffer ++ ['.']) 1 := by
  rw [accumulateFrom]
  split
  · next hnone =>
    rw [h] at hnone
    cases hnone
  · next d hd =>
    obtain rfl : '.' = d := Option.some.inj (h.symm.trans hd)
    rw [if_neg (by decide), if_pos ⟨rfl, rfl⟩]

/-- The loop stops at the end of the text and at every other character. -/
theorem accumulate_of_stop {points : Nat}
    (h : ∀ c ∈ s.current?, c.isDigit = false ∧ (points = 0 → c ≠ '.')) (buffer : List Char) :
    s.accumulateFrom buffer points = ⟨s, buffer, points⟩ := by
  rw [accumulateFrom]
  split
  · rfl
  · next d hd =>
    obtain ⟨hdigit, hpoint⟩ := h d hd
    have hother : ¬ (d = '.' ∧ points = 0) := fun hfirst => hpoint hfirst.2 hfirst.1
    rw [hdigit, if_neg Bool.false_ne_true, if_neg hother]

/-! ## The loop on a text -/

variable {source : Source} {index : Nat}

/-- A scanner that is not at the end of its text stands on one of the characters. -/
theorem Reachable.exists_index {s : Scanner} (h : s.Reachable) :
    (s.current? = none ∧ s.place.rest.front? = none) ∨
      ∃ source index, index < source.text.toList.length ∧ s = ofIndex source index := by
  have hend : ∀ source index, (ofIndex source index).current? = none ∧
      (ofIndex source index).place.rest.front? = none ∨
      ∃ source' index', index' < source'.text.toList.length ∧
        ofIndex source index = ofIndex source' index' := by
    intro source index
    rcases Nat.lt_or_ge index source.text.toList.length with hindex | hindex
    · exact .inr ⟨source, index, hindex, rfl⟩
    · have hnone : source.text.toList[index]? = none := List.getElem?_eq_none hindex
      exact .inl ⟨hnone, by rw [of_index_place, front_of_index, hnone]⟩
  induction h with
  | start source =>
    rw [start_eq]
    exact hend source 0
  | @advance s _ ih =>
    rcases ih with ⟨hcurrent, hrest⟩ | ⟨source, index, hindex, rfl⟩
    · -- Past no character the place does not leave the end of the text.
      have hstuck : s.advance.place.rest = s.place.rest := by
        simp [Scanner.advance, hcurrent, Place.rest, Place.advance]
      refine .inl ⟨?_, ?_⟩
      · show s.advance.place.rest.front? = none
        rw [hstuck, hrest]
      · rw [hstuck, hrest]
    · rw [advance_of_index hindex]
      exact hend source (index + 1)

/-- Digits are taken one by one. -/
theorem accumulate_digits {digits rest : List Char}
    (hdrop : source.text.toList.drop index = digits ++ rest)
    (hdigits : ∀ c ∈ digits, c.isDigit = true) (buffer : List Char) (points : Nat) :
    (ofIndex source index).accumulateFrom buffer points =
      (ofIndex source (index + digits.length)).accumulateFrom (buffer ++ digits) points := by
  induction digits generalizing index buffer with
  | nil => rw [List.append_nil, List.length_nil, Nat.add_zero]
  | cons c digits ih =>
    obtain ⟨hcurrent, hindex, hnext⟩ := of_drop_eq_cons hdrop
    have hmore : ∀ d ∈ digits, d.isDigit = true :=
      fun d hd => hdigits d (List.mem_cons_of_mem c hd)
    rw [accumulate_of_digit hcurrent (hdigits c List.mem_cons_self), advance_of_index hindex,
      ih hnext hmore, List.append_assoc, List.length_cons, Nat.add_right_comm, Nat.add_assoc]
    rfl

/-- The loop takes the number that cannot go on into the text behind it. -/
theorem accumulate_number {number : NumberLexeme} {rest : List Char}
    (hdrop : source.text.toList.drop index = number.text ++ rest)
    (hwritten : number.isWritten = true) (hends : number.EndsBefore rest) :
    (ofIndex source index).accumulate =
      ⟨ofIndex source (index + number.text.length), number.text,
        if number.fraction? = none then 0 else 1⟩ := by
  have hbehind : source.text.toList.drop (index + number.text.length) = rest :=
    drop_behind hdrop
  have hnext : ∀ c ∈ (ofIndex source (index + number.text.length)).current?,
      c.isDigit = false ∧ (number.fraction? = none → c ≠ '.') := by
    rw [ofIndex, ← List.head?_drop, hbehind]
    exact hends
  obtain ⟨whole, fraction?⟩ := number
  obtain ⟨hwhole, hfraction, -⟩ := NumberLexeme.isWritten_iff.1 hwritten
  cases fraction? with
  | none =>
    have htext : NumberLexeme.text ⟨whole, none⟩ = whole := List.append_nil whole
    rw [htext] at hdrop hnext ⊢
    rw [accumulate, accumulate_digits hdrop hwhole,
      accumulate_of_stop fun c hc => ⟨(hnext c hc).1, fun _ => (hnext c hc).2 rfl⟩]
    rfl
  | some fraction =>
    -- The loop takes the digits up to the point, then the point, then those behind it.
    have htext : NumberLexeme.text ⟨whole, some fraction⟩ = whole ++ '.' :: fraction := rfl
    rw [htext, List.append_assoc, List.cons_append] at hdrop
    obtain ⟨hcurrent, hindex, hafter⟩ := of_drop_eq_cons (drop_behind hdrop)
    have hlength : index + (whole ++ '.' :: fraction).length =
        index + whole.length + 1 + fraction.length := by
      rw [List.length_append, List.length_cons]
      omega
    rw [htext, hlength] at hnext ⊢
    rw [accumulate, accumulate_digits hdrop hwhole, accumulate_of_point hcurrent,
      advance_of_index hindex, accumulate_digits hafter hfraction,
      accumulate_of_stop fun c hc => ⟨(hnext c hc).1, fun h => absurd h Nat.one_ne_zero⟩]
    simp

/-- Where a number starts, it is read as the loop accumulates it. -/
theorem follows_loop_of_index {number : NumberLexeme} {rest : List Char}
    (hdrop : source.text.toList.drop index = number.text ++ rest)
    (hwritten : number.isWritten = true) (hends : number.EndsBefore rest) :
    (ofIndex source index).FollowsLoop (ofIndex source index).accumulate number.token := by
  have hlexeme : (Lexeme.number number).isWritten = true := hwritten
  have hsplit : source.text.toList.drop index = (Lexeme.number number).text ++ rest := hdrop
  have hlegal : ∀ c ∈ number.text, isLegal c = true := Lexeme.text_legal hlexeme
  have hbehind : source.text.toList.drop (index + number.text.length) = rest :=
    drop_behind hdrop
  have hcurrent : (ofIndex source (index + number.text.length)).current? = rest.head? := by
    rw [ofIndex, ← List.head?_drop, hbehind]
  rw [accumulate_number hdrop hwritten hends]
  exact {
    number_eq := number_of_index hdrop hwritten hends
    step_eq := step_of_lexeme hsplit hlexeme hends
    advance_eq := advance_by_of_index (lexeme_inside hsplit hlexeme)
    rest_eq := by
      rw [of_index_place, of_index_place, Place.rest_of_index, Place.rest_of_index, hbehind, hdrop]
    current_eq := by rw [hcurrent, of_index_place, Place.rest_of_index, hbehind]
    stops := by
      intro c hc
      obtain ⟨hdigit, hpoint⟩ := hends c (hcurrent.symm.trans hc)
      refine ⟨hdigit, fun heq => ?_⟩
      rw [NumberLexeme.point_mem_text_iff hwritten]
      exact fun hnone => hpoint hnone heq
    buffer_ne_nil := Lexeme.text_ne_nil hlexeme
    is_ascii := fun c hc => to_nat_lt_of_legal (hlegal c hc)
    byte_count_eq := byte_count_of_legal hlegal
    kind_eq := NumberLexeme.token_kind hwritten
    token_eq := ⟨number, hwritten, rfl, rfl⟩ }

end Scanner

/-- The rounds of the scan of a source. -/
def Source.rounds (source : Source) : Nat := (Scanner.start source).rounds

/-- A scan has no more rounds than the text has characters. -/
theorem Source.rounds_le (source : Source) : source.rounds ≤ source.text.toList.length := by
  obtain ⟨last, hlast, htrail, -⟩ := source.exists_trail_eq
  have hlength := congrArg List.length htrail
  rw [trail, List.length_cons, List.length_map, List.length_range] at hlength
  have hrounds := (Scanner.start source).rounds_le_trail
  rw [rounds]
  omega

/-- Wherever a scanner stands on a digit or a point, the number there is read, and it is the token
of the characters that a loop takes from there one by one: digits and the first point. The scanner
passes these characters, of which there is at least one and each is of one byte, and the token is a
double exactly if one of them is the point. Hence a scan has no more rounds than its text has
characters. -/
theorem number_follows_loop :
    (∀ (s : Scanner) (c : Char), s.Reachable → s.current? = some c → startsNumber c = true →
      ∃ token, s.FollowsLoop s.accumulate token) ∧
    ∀ source : Source, source.rounds ≤ source.text.toList.length := by
  refine ⟨?_, Source.rounds_le⟩
  intro s c hreachable hcurrent hstarts
  rcases hreachable.exists_index with ⟨hnone, -⟩ | ⟨source, index, hindex, rfl⟩
  · rw [hcurrent] at hnone
    cases hnone
  · have hhead : source.text.toList.drop index = c :: source.text.toList.drop (index + 1) := by
      rw [List.drop_eq_getElem_cons hindex, (List.getElem?_eq_some_iff.1 hcurrent).2]
    -- The number is the longest one at the start of the text that is left.
    obtain ⟨rest, hsplit, hends⟩ := NumberLexeme.read_ends (source.text.toList.drop index)
    have hwritten : (NumberLexeme.read (source.text.toList.drop index)).isWritten = true := by
      rw [hhead]
      exact NumberLexeme.read_is_written hstarts
    exact ⟨_, Scanner.follows_loop_of_index hsplit hwritten hends⟩

/-- The second point of a text is a number of its own, also in front of a character that is not
ASCII. -/
theorem number_at_second_point :
    let source : Source := ⟨"sum", "1.2.×"⟩
    let s := (Scanner.start source).advanceBy 3
    (∃ token, s.number? = some (token, 1) ∧ token.kind = .float) ∧
      (s.advanceBy 1).current? = some '×' ∧ source.rounds ≤ 5 := by
  intro source s
  have hreachable : s.Reachable := .advance (.advance (.advance (.start source)))
  have hcurrent : s.current? = some '.' := by decide +kernel
  obtain ⟨hnumber, hrounds⟩ := number_follows_loop
  obtain ⟨token, hloop⟩ := hnumber s '.' hreachable hcurrent rfl
  have hbuffer : s.accumulate.buffer = ['.'] := by decide +kernel
  have hread := hloop.number_eq
  have hkind := hloop.kind_eq
  have hadvance := hloop.advance_eq
  rw [hbuffer] at hread hkind hadvance
  have hlength : source.text.toList.length = 5 := by decide +kernel
  refine ⟨⟨token, hread, hkind⟩, ?_, hlength ▸ hrounds source⟩
  show (s.advanceBy ['.'].length).current? = some '×'
  rw [hadvance]
  decide +kernel

end ArithTokens
