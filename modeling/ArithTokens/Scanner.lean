import ArithTokens.Lexeme
import ArithTokens.ScanError

/-!
# Scanning

A scanner stands at a place in a source and knows the character there. The text from there on is the
one from the place's byte on, so the scanner reads the right text as long as its place has counted
every byte before it. `step` says what a scanner does where it stands, and `scan` goes on from step
to step until the text ends or a character cannot be passed, and collects the tokens.

A scan is all or nothing for its caller: `Scan.result` gives the tokens only if there was no error.
The tokens found before an error remain visible in the `Scan` itself, from which the log is
written.
-/

namespace ArithTokens

/-- What a scan found: the tokens in order, and the error that ended it, if one did. -/
structure Scan where
  source : Source
  tokens : List Token
  error? : Option ScanError
deriving DecidableEq, Repr

/-- The tokens, or the error that ended the scan. -/
def Scan.result (scan : Scan) : Except ScanError (List Token) :=
  match scan.error? with
  | none => .ok scan.tokens
  | some error => .error error

/-- A place and the character there; none at the end of the text. -/
structure Scanner where
  place : Place
  current? : Option Char
deriving DecidableEq, Repr

/-- What a scanner does where it stands: the text is finished, some characters are passed, which may
make a token, or a character is rejected. -/
inductive Step where
  | finish
  | pass (token? : Option Token) (count : Nat)
  | reject (c : Char)
deriving DecidableEq, Repr

namespace Scanner

/-- One step further, past the current character and onto the next one. -/
def advance (s : Scanner) : Scanner where
  place := s.place.advance s.current?
  current? := (s.place.advance s.current?).rest.front?

/-- The scanner on the first character of a source. -/
def start (source : Source) : Scanner := advance ⟨Place.beforeStart source, none⟩

/-- Any number of steps further. -/
def advanceBy (s : Scanner) : Nat → Scanner
  | 0 => s
  | n + 1 => s.advance.advanceBy n

/-- The token of the number here and how many bytes the number has, if it can be read. -/
def number? (s : Scanner) : Option (Token × Nat) :=
  let number := NumberLexeme.read s.place.rest.copy.toList
  number.token?.map fun token => (token, byteCount number.text)

/-- What to do here. As many characters are passed as a number has bytes. -/
def step (s : Scanner) : Step :=
  match s.current? with
  | none => .finish
  | some c =>
    if isBlank c then .pass none 1
    else if startsNumber c then
      match s.number? with
      | some (token, bytes) => .pass (some token) bytes
      | none => .reject c
    else
      match Token.ofChar? c with
      | some token => .pass (some token) 1
      | none => .reject c

/-- The error for the current character: from its place to the place one step further. -/
def illegal (s : Scanner) (c : Char) : ScanError := .illegal s.place s.advance.place c

/-- A bound for the number of steps up to the end of the text. -/
def remaining (s : Scanner) : Nat :=
  if s.current?.isSome then s.place.source.text.utf8ByteSize - s.place.byte + 1 else 0

/-- A step past a character brings the end nearer. -/
theorem advance_remaining_lt {s : Scanner} {c : Char} (h : s.current? = some c) :
    s.advance.remaining < s.remaining := by
  have hpos := c.utf8Size_pos
  cases hnext : s.advance.current? with
  | none => simp [remaining, hnext, h]
  | some d =>
    have hlt := Place.byte_lt_of_rest hnext
    simp only [remaining, hnext, h, Option.isSome_some, ↓reduceIte]
    simp only [advance, Place.advance, h, Option.map_some, Option.getD_some] at hlt ⊢
    omega

/-- From where the current character is the one in front of the place, no steps lead away from the
end. -/
theorem advance_by_remaining_le {s : Scanner} (h : s.current? = s.place.rest.front?) (n : Nat) :
    (s.advanceBy n).remaining ≤ s.remaining := by
  induction n generalizing s with
  | zero => exact Nat.le_refl _
  | succ n ih =>
    refine Nat.le_trans (ih rfl) ?_
    cases hcurrent : s.current? with
    | some c => exact Nat.le_of_lt (advance_remaining_lt hcurrent)
    | none =>
      -- Past no character the byte stays the same, and so does the text in front of the place.
      have hstuck : s.advance.current? = none := by
        rw [← hcurrent, h]
        simp [advance, hcurrent, Place.rest, Place.advance]
      simp [remaining, hstuck]

/-- A number that can be read has at least one byte. -/
theorem number_pos {s : Scanner} {token : Token} {bytes : Nat}
    (h : s.number? = some (token, bytes)) : 0 < bytes := by
  simp only [number?, Option.map_eq_some_iff, Prod.mk.injEq] at h
  obtain ⟨_, htoken, -, rfl⟩ := h
  exact Nat.lt_of_lt_of_le (List.length_pos_iff.2 (NumberLexeme.text_ne_nil htoken))
    (length_le_byte_count _)

/-- A scan is finished only where there is no character. -/
theorem step_eq_finish {s : Scanner} (h : s.step = .finish) : s.current? = none := by
  unfold step at h
  split at h
  · next hcurrent => exact hcurrent
  · split at h
    · cases h
    · split at h <;> split at h <;> cases h

/-- Only the current character is rejected. -/
theorem step_eq_reject {s : Scanner} {c : Char} (h : s.step = .reject c) :
    s.current? = some c := by
  unfold step at h
  split at h
  · cases h
  · next d hcurrent =>
    have hsame : d = c := by
      split at h
      · cases h
      · split at h <;> split at h <;> cases h <;> rfl
    rw [hcurrent, hsame]

/-- Characters are passed only from a character on, and never none of them. -/
theorem step_eq_pass {s : Scanner} {token? : Option Token} {count : Nat}
    (h : s.step = .pass token? count) : (∃ c, s.current? = some c) ∧ 0 < count := by
  unfold step at h
  split at h
  · cases h
  · next c hcurrent =>
    refine ⟨⟨c, hcurrent⟩, ?_⟩
    split at h
    · cases h
      exact Nat.one_pos
    · split at h
      · split at h
        · next token bytes hnumber =>
          cases h
          exact number_pos hnumber
        · cases h
      · split at h <;> cases h
        exact Nat.one_pos

/-- Passing characters brings the end nearer. -/
theorem pass_remaining_lt {s : Scanner} {token? : Option Token} {count : Nat}
    (h : s.step = .pass token? count) : (s.advanceBy count).remaining < s.remaining := by
  obtain ⟨⟨c, hcurrent⟩, hpos⟩ := step_eq_pass h
  obtain ⟨n, rfl⟩ : ∃ n, count = n + 1 := ⟨count - 1, by omega⟩
  exact Nat.lt_of_le_of_lt (advance_by_remaining_le rfl n) (advance_remaining_lt hcurrent)

/-- Scans on from here; `found` holds the tokens found so far, the last one first. -/
def scanFrom (s : Scanner) (found : List Token) : Scan :=
  match _h : s.step with
  | .finish => ⟨s.place.source, found.reverse, none⟩
  | .reject c => ⟨s.place.source, found.reverse, some (s.illegal c)⟩
  | .pass token? count => (s.advanceBy count).scanFrom (token?.toList ++ found)
termination_by s.remaining
decreasing_by exact pass_remaining_lt _h

/-- Scans from here to the end of the text or to the first illegal character. -/
def scan (s : Scanner) : Scan := s.scanFrom []

/-- The tokens found so far come before those that a scan still finds, and change nothing else. -/
theorem scan_from_eq (s : Scanner) (found : List Token) :
    s.scanFrom found = { s.scan with tokens := found.reverse ++ s.scan.tokens } := by
  unfold scan
  induction hremaining : s.remaining using Nat.strongRecOn generalizing s found with
  | ind remaining ih =>
    subst hremaining
    rw [scanFrom, scanFrom]
    split
    · simp
    · simp
    · next token? count hstep =>
      have hlt := pass_remaining_lt hstep
      rw [ih _ hlt _ (token?.toList ++ found) rfl, ih _ hlt _ (token?.toList ++ []) rfl]
      cases token? <;> simp

/-- A scan that is at the end of its text finds nothing. -/
theorem scan_of_finish {s : Scanner} (h : s.step = .finish) :
    s.scan = ⟨s.place.source, [], none⟩ := by
  rw [scan, scanFrom]
  split <;> simp_all

/-- A rejected character ends a scan. -/
theorem scan_of_reject {s : Scanner} {c : Char} (h : s.step = .reject c) :
    s.scan = ⟨s.place.source, [], some (s.illegal c)⟩ := by
  rw [scan, scanFrom]
  split <;> simp_all

/-- The token of the characters that are passed, if they make one, comes before those that are found
behind them. -/
theorem scan_of_pass {s : Scanner} {token? : Option Token} {count : Nat}
    (h : s.step = .pass token? count) :
    s.scan = { (s.advanceBy count).scan with
      tokens := token?.toList ++ (s.advanceBy count).scan.tokens } := by
  rw [scan, scanFrom]
  split
  · simp_all
  · simp_all
  · next other n hother =>
    obtain ⟨rfl, rfl⟩ : token? = other ∧ count = n := by simpa [h] using hother
    rw [scan_from_eq]
    cases token? <;> simp

end Scanner

/-- Scans a source from its start. -/
def Source.scan (source : Source) : Scan := (Scanner.start source).scan

/-- The tokens of a text, or the error at its first illegal character. The name is used to speak of
the text. -/
def tokenize (name text : String) : Except ScanError (List Token) :=
  (Source.mk name text).scan.result

end ArithTokens
