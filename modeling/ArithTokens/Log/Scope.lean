import ArithTokens.Log.Level
import ArithTokens.Numeral
import ArithTokens.Pattern

/-!
# Scopes of log filters

A scope says which of the entries under a target are meant. It can ask for a span, for a field, and
for a value of the field, which is a number or else a pattern.
-/

namespace ArithTokens

/-- Which entries under a target are meant: all of them, those that have a field, or only those
within a span of the log. -/
inductive Scope where
  | everything
  | withField (name : List Char)
  | withinSpan
deriving DecidableEq, Repr

namespace Scope

/-- Says that an entry with these fields is meant. Entries are taken to stand outside all spans. -/
def concerns (fields : List (List Char)) : Scope → Bool
  | .everything => true
  | .withField name => fields.contains name
  | .withinSpan => false

/-- Says that a scope is more specific than another about the same entry. Of two fields the one with
the later name is taken to be. -/
def isNarrower : Scope → Scope → Bool
  | .withField name, .withField other =>
    List.lex (other.map Char.toNat) (name.map Char.toNat) fun a b => a < b
  | .withField _, .everything => true
  | _, _ => false

/-- The words for numbers that have no digits. -/
def numberWords : List String := ["inf", "infinity", "nan"]

/-- Says that a text is a number: behind a sign or none, a word in any mix of upper and lower case,
or digits with a point or none and an exponent or none. -/
def isNumber (text : List Char) : Bool :=
  let unsigned := if [some '+', some '-'].contains text.head? then text.tail else text
  let number := NumberLexeme.read unsigned
  numberWords.contains (String.ofList (unsigned.map Char.toLower)) ||
    (number.text.any Char.isDigit &&
      (Numeral.readExponent? (unsigned.drop number.text.length)).isSome)

/-- Says that a text can be the value of a field. -/
def isFieldValue (text : List Char) : Bool := isNumber text || isPattern text

/-- The scope that a field asks for, which is given by its name, or by its name and a value behind
an equals sign. Only within a span can the value of a field be asked for. -/
def ofField? (field : List Char) : Option Scope :=
  match field.splitOn '=' with
  | [] | [[]] => none
  | [name] => some (.withField name)
  | _ :: value :: _ => if isFieldValue value then some .withinSpan else none

/-- The scope that a span and a field ask for. The span may be left empty in front of a field. -/
def ofSpan? (span : List Char) (field? : Option (List Char)) : Option Scope :=
  match field? with
  | none => some .withinSpan
  | some field => (ofField? field).map fun scope => if span = [] then scope else .withinSpan

end Scope

end ArithTokens
