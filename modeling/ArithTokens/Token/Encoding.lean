import ArithTokens.Token
import ArithTokens.Json

/-!
# Tokens as JSON

A token is an object with the name of its class and, for a number, its value. An integer that fits
into 64 bits with a sign is a JSON number and any other integer a string of its digits, so that no
reader loses digits. A finite double is a JSON number and any other double is `null`.
-/

namespace ArithTokens

/-- The name of a class as a string. -/
def Kind.json (kind : Kind) : Json := .string kind.name.toList

/-- Says that an integer fits into 64 bits with a sign. -/
def Literal.fitsWord (n : Int) : Bool := -9223372036854775808 ≤ n ∧ n ≤ 9223372036854775807

/-- The value of a number. -/
def Literal.json : Literal → Json
  | .int n => if fitsWord n then .number n.repr.toList else .string n.repr.toList
  | .float x => if x.isFinite then .number (Decimal.Style.json.write x) else .null

/-- A token as an object. -/
def Token.json (token : Token) : Json :=
  .object
    (("kind".toList, token.kind.json) ::
      match token.value? with
      | some value => [("value".toList, value.json)]
      | none => [])

/-- A list of tokens as an array. -/
def Token.jsonList (tokens : List Token) : Json := .array (tokens.map Token.json)

end ArithTokens
