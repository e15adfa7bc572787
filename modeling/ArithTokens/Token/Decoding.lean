import ArithTokens.Json.Reading
import ArithTokens.Token.Encoding

/-!
# Tokens from JSON

Turns the objects that stand for tokens back into tokens. An integer may be given as a number or as
a string of its digits; a double is the one nearest to the number that is written.
-/

namespace ArithTokens

/-- All symbols. -/
def Symbol.all : List Symbol := [.plus, .minus, .mul, .div, .lparen, .rparen]

/-- The kind with this name. -/
def Kind.ofName? (name : List Char) : Option Kind :=
  (.int :: .float :: Symbol.all.map .symbol).find? fun kind => kind.name.toList = name

namespace Token

/-- The integer that a value stands for. -/
def decodeInt? : Json → Option Int
  | .number text => Numeral.readInteger? text
  | .string text => Numeral.readInteger? text
  | _ => none

/-- The double that a value stands for. -/
def decodeFloat? : Json → Option Binary64
  | .number text => (Numeral.read? text).map Numeral.toBinary64
  | _ => none

/-- The token of a kind that has this value, if it should have one. -/
def decode? : Kind → Option Json → Option Token
  | .int, some value => (decodeInt? value).map .int
  | .float, some value => (decodeFloat? value).map .float
  | .symbol s, none => some (.symbol s)
  | _, _ => none

/-- The token that an object stands for. -/
def ofJson? : Json → Option Token
  | .object members => do
    match ← members.lookup "kind".toList with
    | .string name => decode? (← Kind.ofName? name) (members.lookup "value".toList)
    | _ => none
  | _ => none

/-- The tokens that an array of objects stands for. -/
def listOfJson? : Json → Option (List Token)
  | .array items => items.mapM ofJson?
  | _ => none

end Token

end ArithTokens
