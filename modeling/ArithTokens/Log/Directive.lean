import ArithTokens.Bytes
import ArithTokens.Log.Scope

/-!
# Directives of log filters

A directive limits what is shown of a scope under the targets that start with a given text. It is
written as a level, as `target`, as `target=level`, or with a scope in brackets behind the target,
as in `target[span]`, `target[\x7bfield\x7d]` and `target[span\x7bfield=value\x7d]=level`.

The places where the parts of a directive start and end are found in its words, which are what is
left of it without the white space around it. They are then counted in bytes from the start of the
directive, so white space in front of it moves its parts.
-/

namespace ArithTokens

/-- The numbers of bytes of the span in brackets and of the field in braces, if there is one. -/
structure Brackets where
  span : Nat
  field? : Option Nat
deriving DecidableEq, Repr

namespace Brackets

/-- Reads a span and a field behind the opening bracket. -/
def read? (words : List Char) : Option (Brackets × List Char) :=
  let span := words.takeWhile fun c => c ≠ ']' && c ≠ '\x7b'
  match words.drop span.length with
  | ']' :: rest => some (⟨byteCount span, none⟩, rest)
  | '\x7b' :: fieldWords =>
    let field := fieldWords.takeWhile (· ≠ '\x7d')
    match fieldWords.drop field.length with
    | '\x7d' :: ']' :: rest => some (⟨byteCount span, some (byteCount field)⟩, rest)
    | _ => none
  | _ => none

/-- The number of bytes with the brackets and the braces. -/
def size (brackets : Brackets) : Nat :=
  brackets.span + 2 + (brackets.field?.map (· + 2)).getD 0

/-- The scope that is asked for by brackets in a text behind a number of bytes. -/
def scope? (brackets : Brackets) (start : Nat) (text : List Char) : Option Scope :=
  let inside := dropBytes (start + 1) text
  Scope.ofSpan? (takeBytes brackets.span inside)
    (brackets.field?.map fun field => takeBytes field (dropBytes (start + brackets.span + 2) text))

end Brackets

/-- Where the parts of a directive are: the number of bytes of its target, its brackets, and whether
a level follows. -/
structure Division where
  target : Nat
  brackets? : Option Brackets
  hasLevel : Bool
deriving DecidableEq, Repr

namespace Division

/-- The parts of words that start with a target or a bracket. -/
def ofWords? (words : List Char) : Option Division :=
  let target := words.takeWhile fun c => c ≠ '=' && c ≠ '['
  match words.drop target.length with
  | [] => some ⟨byteCount target, none, false⟩
  | '=' :: _ => some ⟨byteCount target, none, true⟩
  | _ :: rest =>
    match Brackets.read? rest with
    | some (brackets, []) => some ⟨byteCount target, some brackets, false⟩
    | some (brackets, '=' :: _) => some ⟨byteCount target, some brackets, true⟩
    | _ => none

/-- The number of bytes in front of the level, the equals sign included. -/
def levelStart (division : Division) : Nat :=
  division.target + (division.brackets?.map Brackets.size).getD 0 + 1

end Division

/-- Limits what is shown of a scope under the targets that start with a text. -/
structure Directive where
  target : List Char
  scope : Scope
  limit : Level
deriving DecidableEq, Repr

namespace Directive

/-- Says that a directive can start with a character: a letter, a digit, one of the signs that
stand in targets, or the bracket in front of a scope. -/
def mayStart (c : Char) : Bool := Unicode.isAlphanumeric c || ['-', ':', '_', '['].contains c

/-- The limit that is written behind an equals sign; nothing shows everything. -/
def limitOf? (level : List Char) : Option Level :=
  if level = [] then some .trace else Level.ofText? level

/-- A level alone holds for all targets, and a target alone has everything shown. -/
def ofWord (text : List Char) : Directive :=
  match Level.ofText? text with
  | some limit => ⟨[], .everything, limit⟩
  | none => ⟨text, .everything, .trace⟩

/-- A directive with these parts. Without a level everything is shown. -/
def ofParts? (text : List Char) (division : Division) : Option Directive := do
  let scope ← (division.brackets?.map (·.scope? division.target text)).getD (some .everything)
  let limit ← if division.hasLevel then limitOf? (dropBytes division.levelStart text)
    else some .trace
  some ⟨takeBytes division.target text, scope, limit⟩

/-- The directive that is written in a text. -/
def ofText? (text : List Char) : Option Directive :=
  let words := Unicode.trim text
  if words.head?.any mayStart then
    match Division.ofWords? words with
    | none => none
    | some ⟨_, none, false⟩ => some (ofWord text)
    | some division => ofParts? text division
  else none

/-- Says that a directive is about a heading. -/
def concerns (directive : Directive) (heading : Heading) : Bool :=
  directive.target.isPrefixOf heading.target && directive.scope.concerns heading.fields

/-- Says that a directive is more specific than another about the same heading: its target is
longer, or the same with a narrower scope. -/
def isNarrower (directive other : Directive) : Bool :=
  other.target.length < directive.target.length ||
    (directive.target.length = other.target.length && directive.scope.isNarrower other.scope)

end Directive

end ArithTokens
