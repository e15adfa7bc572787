import ArithTokens.NumberLexeme

/-!
# Reading written numbers

A written number has a sign, digits, and possibly a fraction and an exponent. Reading gives the sign
and the decimal, so that a zero keeps its sign and no digit is lost.
-/

namespace ArithTokens

/-- A written number: its sign and its absolute value. -/
structure Numeral where
  negative : Bool
  decimal : Decimal
deriving DecidableEq, Repr

namespace Numeral

/-- The number that a run of digits stands for; there is at least one. -/
def readNatural? (text : List Char) : Option Nat :=
  if text ≠ [] ∧ text.all Char.isDigit then some (Nat.ofDigitChars 10 text 0) else none

/-- The integer that digits behind at most one sign stand for. -/
def readInteger? : List Char → Option Int
  | [] => none
  | c :: rest =>
    if c = '-' then (readNatural? rest).map fun n => -n
    else if c = '+' then (readNatural? rest).map Int.ofNat
    else (readNatural? (c :: rest)).map Int.ofNat

/-- The exponent behind its mark; zero if nothing is written. -/
def readExponent? : List Char → Option Int
  | [] => some 0
  | mark :: rest => if mark = 'e' || mark = 'E' then readInteger? rest else none

/-- Reads digits with at least one digit on every side of a point, and an exponent. -/
def readUnsigned? (text : List Char) : Option Decimal :=
  let number := NumberLexeme.read text
  if number.whole = [] || number.fraction? = some [] then none
  else
    (readExponent? (text.drop number.text.length)).map fun exponent =>
      ⟨number.decimal.coefficient, number.decimal.exponent + exponent⟩

/-- Reads a number, behind a minus sign or without a sign. -/
def read? : List Char → Option Numeral
  | [] => none
  | c :: rest =>
    if c = '-' then (readUnsigned? rest).map (⟨true, ·⟩)
    else (readUnsigned? (c :: rest)).map (⟨false, ·⟩)

/-- The double nearest to a written number. -/
def toBinary64 (numeral : Numeral) : Binary64 := numeral.decimal.toBinary64 numeral.negative

end Numeral

end ArithTokens
