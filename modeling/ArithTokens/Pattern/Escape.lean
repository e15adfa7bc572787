import ArithTokens.Hexadecimal
import ArithTokens.Pattern.Flags

/-!
# Escapes in patterns

Behind a backslash a sign stands for itself, and a letter for a character, a class or a place in the
text. Digits stand for nothing, nor do the classes of characters with a given property.
-/

namespace ArithTokens.Pattern

/-- What an escape stands for: a character, which may be given as a byte, a class or what is outside
it, the start or the end of the text, or a place where words start or end. -/
inductive Escape where
  | literal (c : Char) (asByte : Bool)
  | charClass (negated : Bool)
  | textEdge
  | wordEdge
deriving DecidableEq, Repr

namespace Escape

/-- Reads hexadecimal digits, between which blanks are skipped. -/
def readDigits? (flags : Flags) : (count : Nat) → List Char → Option (List Char × List Char)
  | 0, text => some ([], text)
  | count + 1, text =>
    match flags.skip text with
    | [] => none
    | c :: rest => (readDigits? flags count rest).map fun (digits, rest) => (c :: digits, rest)

/-- Reads a character that is given by the digits of its number. -/
def readNumber? (flags : Flags) (count : Nat) (asByte : Bool) (text : List Char) :
    Option (Escape × List Char) := do
  let (digits, rest) ← readDigits? flags count text
  some (.literal (← Hexadecimal.char? digits) asByte, rest)

/-- What a letter stands for. -/
def ofLetter? : Char → Option Escape
  | 'a' => some (.literal '\x07' false)
  | 'f' => some (.literal '\x0c' false)
  | 'n' => some (.literal '\n' false)
  | 'r' => some (.literal '\r' false)
  | 't' => some (.literal '\t' false)
  | 'v' => some (.literal '\x0b' false)
  | 'd' | 's' | 'w' => some (.charClass false)
  | 'D' | 'S' | 'W' => some (.charClass true)
  | 'A' | 'z' => some .textEdge
  | 'b' | 'B' | '<' | '>' => some .wordEdge
  | _ => none

/-- Says that a character stands for itself behind a backslash: a sign of ASCII that is not an angle
bracket. -/
def isSign (c : Char) : Bool := c.toNat < 128 && !c.isAlphanum && c ≠ '<' && c ≠ '>'

/-- Reads what is behind a backslash. -/
def read? (flags : Flags) : List Char → Option (Escape × List Char)
  | [] => none
  | 'x' :: rest => readNumber? flags 2 true rest
  | 'u' :: rest => readNumber? flags 4 false rest
  | 'U' :: rest => readNumber? flags 8 false rest
  | c :: rest =>
    if isSign c then some (.literal c false, rest)
    else (ofLetter? c).map fun escape => (escape, rest)

/-- Says that an escape can stand in a pattern. -/
def isAccepted (flags : Flags) : Escape → Bool
  | .literal c asByte => flags.acceptsLiteral c asByte
  | .charClass negated => flags.acceptsEscapedClass negated
  | .textEdge => true
  | .wordEdge => !flags.unicode

/-- Says that an escape can be a member of a set. -/
def isMember (flags : Flags) : Escape → Bool
  | .literal c _ => flags.acceptsMember c
  | .charClass negated => flags.acceptsEscapedClass negated
  | .textEdge | .wordEdge => false

end Escape

end ArithTokens.Pattern
