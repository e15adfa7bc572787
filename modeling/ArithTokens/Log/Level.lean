/-!
# Levels and headings of log entries

Every entry of a log has a heading: a target, a level and the names of its fields.
-/

namespace ArithTokens

/-- How much is shown. An entry has one of the levels above `off`; a limit lets through the entries
whose level does not come after its own. -/
inductive Level where
  | off | error | warn | info | debug | trace
deriving DecidableEq, Repr

namespace Level

/-- All levels, from the one that shows nothing to the one that shows everything. -/
def all : List Level := [.off, .error, .warn, .info, .debug, .trace]

/-- The name of a level in a log line. -/
def name : Level → String
  | .off => "OFF"
  | .error => "ERROR"
  | .warn => "WARN"
  | .info => "INFO"
  | .debug => "DEBUG"
  | .trace => "TRACE"

/-- The place of a level in the order. -/
def rank : Level → Nat
  | .off => 0
  | .error => 1
  | .warn => 2
  | .info => 3
  | .debug => 4
  | .trace => 5

/-- Says that a limit shows the entries of a level. -/
def shows (limit level : Level) : Bool := level.rank ≤ limit.rank

/-- The level with this name in any mix of upper and lower case. -/
def ofName? (text : List Char) : Option Level :=
  all.find? fun level => level.name.toList = text.map Char.toUpper

/-- The level with this rank, written in decimal digits, which a plus sign may precede. -/
def ofRank? (text : List Char) : Option Level :=
  let digits := if text.head? = some '+' then text.tail else text
  if digits ≠ [] && digits.all Char.isDigit then
    all.find? fun level => level.rank = Nat.ofDigitChars 10 digits 0
  else none

/-- A level is written as its name or as its rank. -/
def ofText? (text : List Char) : Option Level := (ofName? text).or (ofRank? text)

end Level

/-- What a filter looks at in an entry of a log. -/
structure Heading where
  target : List Char
  level : Level
  fields : List (List Char)
deriving DecidableEq, Repr

end ArithTokens
