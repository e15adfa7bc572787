import ArithTokens.Decimal.Shortest

/-!
# Writing a double

A double is written by its shortest decimal, either plainly, always with digits on both sides of
the point, or with an exponent. A `Style` holds what one format decides: how a tie between two
shortest decimals goes, which exponents are written plainly, and the sign of a positive exponent.
-/

namespace ArithTokens.Decimal

/-- The decisions of a format about the doubles it writes. Plain writing is used for decimals whose
first digit stands for `10 ^ e` with `least ≤ e < limit`. -/
structure Style where
  tie : Tie
  least : Int
  limit : Int
  plus : List Char

/-- The digits with the point in its place. Zeros fill a gap between the digits and the point, and a
side of the point without a digit gets a zero. -/
def plain (d : Decimal) : List Char :=
  let places := (-d.exponent).toNat
  if 0 ≤ d.exponent then
    d.digits ++ List.replicate d.exponent.toNat '0' ++ ['.', '0']
  else if places < d.digits.length then
    d.digits.take (d.digits.length - places) ++ '.' :: d.digits.drop (d.digits.length - places)
  else
    '0' :: '.' :: (List.replicate (places - d.digits.length) '0' ++ d.digits)

/-- The first digit, the others after a point if there are any, and the exponent. -/
def scientific (plus : List Char) (d : Decimal) : List Char :=
  let point := if d.digits.length = 1 then [] else ['.']
  let sign := if d.leading < 0 then ['-'] else plus
  d.digits.take 1 ++ point ++ d.digits.drop 1 ++ 'e' :: (sign ++ Nat.toDigits 10 d.leading.natAbs)

/-- Says that a decimal is written without an exponent. -/
def Style.isPlain (style : Style) (d : Decimal) : Bool :=
  style.least ≤ d.leading ∧ d.leading < style.limit

/-- The text of a decimal. -/
def Style.decimal (style : Style) (d : Decimal) : List Char :=
  if style.isPlain d then d.plain else d.scientific style.plus

/-- The text of a finite double; a minus sign is kept on zero. -/
def Style.write (style : Style) (x : Binary64) : List Char :=
  (if x.negative then ['-'] else []) ++ style.decimal (shortest style.tie x.magnitude)

/-- In lines of text, exponents from -4 to 15 are written plainly, and of two equally near
shortest decimals the larger one is taken. -/
def Style.text : Style := ⟨.up, -4, 16, []⟩

/-- In JSON, exponents from -5 to 15 are written plainly, a positive exponent has a plus sign, and
of two equally near shortest decimals the one with the even last digit is taken. -/
def Style.json : Style := ⟨.even, -5, 16, ['+']⟩

end ArithTokens.Decimal
