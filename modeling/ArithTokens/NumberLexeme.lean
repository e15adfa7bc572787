import ArithTokens.Decimal

/-!
# Numbers in a text

A number in a text is a run of digits with at most one point in it. `read` takes the longest one at
the start of a text: all digits that follow, and if a point comes next, the point and all digits
behind it. A second point is not part of the number. Either side of the point may be empty, so a
point alone is a number.
-/

namespace ArithTokens

/-- The characters of a number: the digits before the point and, if there is a point, those behind
it. -/
structure NumberLexeme where
  whole : List Char
  fraction? : Option (List Char)
deriving DecidableEq, Repr

namespace NumberLexeme

/-- The characters of the lexeme. -/
def text (number : NumberLexeme) : List Char :=
  number.whole ++
    match number.fraction? with
    | none => []
    | some fraction => '.' :: fraction

/-- The longest number at the start of a text. -/
def read (text : List Char) : NumberLexeme where
  whole := text.takeWhile Char.isDigit
  fraction? :=
    match text.dropWhile Char.isDigit with
    | '.' :: rest => some (rest.takeWhile Char.isDigit)
    | _ => none

/-- The number with a zero on each side of its point that has no digits. -/
def padded (number : NumberLexeme) : NumberLexeme where
  whole := if number.whole = [] then ['0'] else number.whole
  fraction? := number.fraction?.map fun fraction => if fraction = [] then ['0'] else fraction

/-- The decimal that a number stands for; a side of the point without digits counts zero. -/
def decimal (number : NumberLexeme) : Decimal where
  coefficient := Nat.ofDigitChars 10 (number.whole ++ number.fraction?.getD []) 0
  exponent := -(number.fraction?.getD []).length

end NumberLexeme

end ArithTokens
