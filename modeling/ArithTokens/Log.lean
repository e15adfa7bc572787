import ArithTokens.Log.Filter
import ArithTokens.Scanner

/-!
# The log of a scan

What a scan does is told by events: that it has started, each token it has found, and how it has
ended. Every event is one entry of the log, and all of them have one target. A filter decides by
the level of an event and the names of its details whether it is shown.
-/

namespace ArithTokens

/-- Something that a scan does. -/
inductive Event where
  | started (source : Source)
  | token (token : Token)
  | finished (source : Source) (count : Nat)
  | aborted (error : ScanError)
deriving DecidableEq, Repr

namespace Event

/-- What all events of a scan are filed under. -/
def target : String := "arith_lex::scanner::lexer"

/-- Tokens are a matter of tracing; the start and the end of a scan are of wider interest. -/
def level : Event → Level
  | .token _ => .trace
  | _ => .debug

/-- The names of the details of an event. What it says is one of them. -/
def fields : Event → List String
  | .started _ => ["message", "source"]
  | .token _ => ["message", "token"]
  | .finished _ _ => ["message", "source", "tokens"]
  | .aborted _ => ["message", "position", "error"]

/-- What a filter looks at in an event. -/
def heading (event : Event) : Heading where
  target := target.toList
  level := event.level
  fields := event.fields.map String.toList

/-- What an event says, with its details. The name of a source stands between quotes as it is, since
names are taken to need no escaping there. -/
def message : Event → String
  | .started source => "scan started source=\"" ++ source.name ++ "\""
  | .token t => "token token=" ++ t.text
  | .finished source count =>
    "scan finished source=\"" ++ source.name ++ "\" tokens=" ++ count.repr
  | .aborted error => "scan aborted position=" ++ error.start.text ++ " error=" ++ error.detail

/-- An entry of the log. -/
def entry (event : Event) : String :=
  event.level.name ++ " " ++ target ++ ": " ++ event.message

end Event

/-- The events of a scan: its start, every token it found, and how it ended. -/
def Scan.events (scan : Scan) : List Event :=
  .started scan.source :: scan.tokens.map .token ++
    [match scan.error? with
      | none => .finished scan.source scan.tokens.length
      | some error => .aborted error]

/-- The entries of the log of a scan that a filter shows. -/
def Scan.log (scan : Scan) (filter : Filter) : List String :=
  (scan.events.filter fun event => filter.shows event.heading).map Event.entry

end ArithTokens
