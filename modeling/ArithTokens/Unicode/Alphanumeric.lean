import ArithTokens.Unicode.Alphabetic
import ArithTokens.Unicode.Numeric

/-!
# Alphanumeric characters

The characters that are alphabetic or numeric. Among the ASCII characters these are the letters and
digits.
-/

namespace ArithTokens.Unicode

/-- Says that a character is alphabetic or numeric. -/
def isAlphanumeric (c : Char) : Bool := isAlphabetic c || isNumeric c

end ArithTokens.Unicode
