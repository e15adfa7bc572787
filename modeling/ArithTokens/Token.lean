import ArithTokens.Decimal.Style

/-!
# Tokens

A token is an integer of any size, a double, or one of six symbols. `==` on literals and tokens
compares values as `==` on doubles does, so the two zeros are equal and a NaN is not equal to
itself; `=` compares encodings.
-/

namespace ArithTokens

/-- The operators and parentheses, one character each. -/
inductive Symbol where
  | plus | minus | mul | div | lparen | rparen
deriving DecidableEq, Repr

namespace Symbol

/-- The character of a symbol. -/
def char : Symbol → Char
  | .plus => '+'
  | .minus => '-'
  | .mul => '*'
  | .div => '/'
  | .lparen => '('
  | .rparen => ')'

/-- The symbol with this character, if there is one. -/
def ofChar? : Char → Option Symbol
  | '+' => some .plus
  | '-' => some .minus
  | '*' => some .mul
  | '/' => some .div
  | '(' => some .lparen
  | ')' => some .rparen
  | _ => none

/-- The name of a symbol. -/
def name : Symbol → String
  | .plus => "PLUS"
  | .minus => "MINUS"
  | .mul => "MUL"
  | .div => "DIV"
  | .lparen => "LPAREN"
  | .rparen => "RPAREN"

/-- A character denotes a symbol exactly when it is that symbol's character. -/
theorem of_char_eq_some_iff {c : Char} {symbol : Symbol} :
    ofChar? c = some symbol ↔ c = symbol.char := by
  constructor
  · intro h
    unfold ofChar? at h
    split at h <;> cases h <;> rfl
  · rintro rfl
    cases symbol <;> rfl

end Symbol

/-- The class of a token. -/
inductive Kind where
  | int
  | float
  | symbol (symbol : Symbol)
deriving DecidableEq, Repr

/-- The name of a class; a symbol is a class of its own. -/
def Kind.name : Kind → String
  | .int => "INT"
  | .float => "FLOAT"
  | .symbol s => s.name

/-- The value of a number token. -/
inductive Literal where
  | int (value : Int)
  | float (value : Binary64)
deriving DecidableEq, Repr

namespace Literal

/-- Integers are equal to equal integers and doubles to doubles of equal value. -/
instance : BEq Literal where
  beq
    | .int m, .int n => m == n
    | .float x, .float y => x == y
    | _, _ => false

/-- The text of a double: its shortest digits, `inf` or `-inf`, or `NaN` without a sign. -/
def floatText (x : Binary64) : String :=
  if x.isFinite then String.ofList (Decimal.Style.text.write x)
  else if x.isInfinite then if x.negative then "-inf" else "inf"
  else "NaN"

/-- The text of a literal. -/
def text : Literal → String
  | .int n => n.repr
  | .float x => floatText x

end Literal

/-- A token. -/
inductive Token where
  | int (value : Int)
  | float (value : Binary64)
  | symbol (symbol : Symbol)
deriving DecidableEq, Repr

namespace Token

/-- The class of a token. -/
def kind : Token → Kind
  | .int _ => .int
  | .float _ => .float
  | .symbol s => .symbol s

/-- The value of a number token; symbols have none. -/
def value? : Token → Option Literal
  | .int n => some (.int n)
  | .float x => some (.float x)
  | .symbol _ => none

/-- Tokens are equal when they are of one class and their values, if any, are equal. -/
instance : BEq Token where
  beq
    | .int m, .int n => m == n
    | .float x, .float y => x == y
    | .symbol s, .symbol t => s == t
    | _, _ => false

/-- The text of a token: the name of its class, followed by a colon and its value if it has one. -/
def text (token : Token) : String :=
  match token.value? with
  | some value => token.kind.name ++ ":" ++ value.text
  | none => token.kind.name

/-- The token of a single character, if it is a symbol's. -/
def ofChar? (c : Char) : Option Token := (Symbol.ofChar? c).map .symbol

end Token

end ArithTokens
