import ArithTokens.Place

/-!
# Scan errors

An error says what is wrong and where: between the place before the offending text and the place
behind it. Its message, span and label follow from these.
-/

namespace ArithTokens

/-- What can be wrong with a text: a character that no token starts with. -/
inductive Fault where
  | illegalCharacter
deriving DecidableEq, Repr

/-- The words for a fault. -/
def Fault.title : Fault → String
  | .illegalCharacter => "Illegal Character"

/-- A fault with its details, found between two places. -/
structure ScanError where
  fault : Fault
  detail : String
  start : Place
  stop : Place
deriving DecidableEq, Repr

namespace ScanError

/-- A character that no token starts with, shown between single quotes. -/
def illegal (start stop : Place) (c : Char) : ScanError where
  fault := .illegalCharacter
  detail := "'" ++ c.toString ++ "'"
  start := start
  stop := stop

/-- The bytes that the error is about. -/
def span (error : ScanError) : Span := Span.between error.start error.stop

/-- Identifies the kind of report to tools. -/
def code : String := "arith::lex"

/-- The words that mark the span. -/
def label : String := "here"

/-- The marked spans with their words. There is one, and it is what the error is about. -/
def labels (error : ScanError) : List (String × Span) := [(label, error.span)]

/-- The source that is shown with the error, the one in which it starts. -/
def source (error : ScanError) : Source := error.start.source

/-- The message: fault and detail, then on a line of its own the source's name and the line on
which the error starts, counted from one. -/
def message (error : ScanError) : String :=
  error.fault.title ++ ": " ++ error.detail ++ "\nFile " ++ error.start.source.name ++ ", line " ++
    (error.start.line + 1).repr

end ScanError

end ArithTokens
