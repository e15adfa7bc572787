import ArithTokens.Numeral
import ArithTokens.Token

/-!
# Lexemes

What a character at the start of a text says about the piece of text it belongs to: it is a blank,
it starts a number, or it is a symbol by itself. A number is turned into a token by reading its
characters.
-/

namespace ArithTokens

/-- Blanks separate lexemes and mean nothing; a newline is not a blank. -/
def isBlank (c : Char) : Bool := c = ' ' || c = '\t'

/-- A number starts with an ASCII digit or a point. -/
def startsNumber (c : Char) : Bool := c.isDigit || c = '.'

namespace NumberLexeme

/-- Without a point a number is read as an integer, and with one as the nearest double after both
sides of the point have got digits. There is nothing to read without any character. -/
def token? (number : NumberLexeme) : Option Token :=
  match number.fraction? with
  | none => (Numeral.readNatural? number.text).map fun n => .int n
  | some _ => (Numeral.read? number.padded.text).map fun numeral => .float numeral.toBinary64

/-- A number that can be read has a character. -/
theorem text_ne_nil {number : NumberLexeme} {token : Token} (h : number.token? = some token) :
    number.text ≠ [] := by
  unfold token? at h
  split at h
  · obtain ⟨n, hn, -⟩ := Option.map_eq_some_iff.1 h
    rintro hempty
    simp [Numeral.readNatural?, hempty] at hn
  · next hfraction => simp [text, hfraction]

end NumberLexeme

end ArithTokens
