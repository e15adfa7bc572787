import ArithTokens.Pattern.CharSet
import ArithTokens.Unicode.Alphanumeric

/-!
# Patterns

A pattern is a regular expression: characters, sets, places in the text, groups, alternatives and
repetitions. `isPattern` says whether a text is one. Repetitions by a number and characters by a
number in braces are not known here, so an opening brace stands only in sets and behind a backslash.
-/

namespace ArithTokens.Pattern

/-- A part of a pattern: how many levels stand above each other in it, and whether it can be
repeated. -/
structure Item where
  height : Nat
  repeatable : Bool
deriving DecidableEq, Repr

/-- A group that is being read, or the whole pattern: the flags that hold in it, the heights of its
alternatives that are complete, and the parts of the last one, the newest first. -/
structure OpenGroup where
  flags : Flags
  branches : List Nat
  items : List Item
deriving DecidableEq, Repr

namespace OpenGroup

/-- A group of which nothing has been read. -/
def empty (flags : Flags) : OpenGroup := ⟨flags, [], []⟩

/-- A group with one more part. -/
def add (group : OpenGroup) (height : Nat) : OpenGroup :=
  { group with items := ⟨height, true⟩ :: group.items }

/-- A group in which other flags hold from here on. Flags can not be repeated. -/
def change (group : OpenGroup) (flags : Flags) : OpenGroup :=
  { group with flags := flags, items := ⟨0, false⟩ :: group.items }

/-- The height of the alternative that is being read. -/
def branchHeight (group : OpenGroup) : Nat := heightOfAll (group.items.map Item.height)

/-- A group in which an alternative is complete. -/
def branch (group : OpenGroup) : OpenGroup :=
  { group with branches := group.branchHeight :: group.branches, items := [] }

/-- The height of what has been read. -/
def height (group : OpenGroup) : Nat := heightOfAll (group.branchHeight :: group.branches)

/-- A group in which the last part is repeated. -/
def repeat? (group : OpenGroup) : Option OpenGroup :=
  match group.items with
  | ⟨height, true⟩ :: items => some { group with items := ⟨height + 1, true⟩ :: items }
  | _ => none

end OpenGroup

/-- Says that a text can name a group. -/
def isGroupName : List Char → Bool
  | [] => false
  | c :: rest =>
    (c = '_' || Unicode.isAlphabetic c) &&
      rest.all fun c => ['_', '.', '[', ']'].contains c || Unicode.isAlphanumeric c

/-- What an opening parenthesis starts: a change of flags, or a group, which may have a name. -/
inductive Opening where
  | change (flags : Flags)
  | group (flags : Flags)
  | named (name : List Char)
deriving DecidableEq, Repr

namespace Opening

/-- Reads the name of a group, up to an angle bracket. -/
def readName? (text : List Char) : Option (Opening × List Char) :=
  let name := text.takeWhile (· ≠ '>')
  match text.drop name.length with
  | _ :: rest => if isGroupName name then some (.named name, rest) else none
  | [] => none

/-- Reads changes of flags, for a group behind a colon or for what follows. -/
def readFlags? (flags : Flags) (text : List Char) : Option (Opening × List Char) :=
  let change := text.takeWhile fun c => c ≠ ':' && c ≠ ')'
  match flags.change? change, text.drop change.length with
  | some flags, ':' :: rest => some (.group flags, rest)
  | some flags, ')' :: rest => if change = [] then none else some (.change flags, rest)
  | _, _ => none

/-- Reads what is behind an opening parenthesis. -/
def read? (flags : Flags) (text : List Char) : Option (Opening × List Char) :=
  match flags.skip text with
  | '?' :: 'P' :: '<' :: rest | '?' :: '<' :: rest => readName? rest
  | '?' :: rest => readFlags? flags rest
  | rest => some (.group flags, rest)

end Opening

/-- The number of levels that can stand above each other in a pattern. -/
def heightLimit : Nat := 250

/-- A text without the question mark at its start that makes a repetition match as little as
possible. -/
def withoutLaziness : List Char → List Char
  | '?' :: rest => rest
  | text => text

/-- Says that a text completes a group and those around it, when some names of groups have been
taken. -/
def completes : (fuel : Nat) → OpenGroup → List OpenGroup → List (List Char) → List Char → Bool
  | 0, _, _, _, _ => false
  | fuel + 1, group, outer, names, text =>
    match group.flags.skip text with
    | [] => outer = [] && group.height ≤ heightLimit
    | '(' :: rest =>
      match Opening.read? group.flags rest with
      | none => false
      | some (.change flags, rest) => completes fuel (group.change flags) outer names rest
      | some (.group flags, rest) => completes fuel (.empty flags) (group :: outer) names rest
      | some (.named name, rest) =>
        !names.contains name &&
          completes fuel (.empty group.flags) (group :: outer) (name :: names) rest
    | ')' :: rest =>
      match outer with
      | [] => false
      | next :: outer => completes fuel (next.add (group.height + 1)) outer names rest
    | '|' :: rest => completes fuel group.branch outer names rest
    | '[' :: rest =>
      match CharSet.read? group.flags rest with
      | some (height, rest) => completes fuel (group.add height) outer names rest
      | none => false
    | '?' :: rest | '*' :: rest | '+' :: rest =>
      match group.repeat? with
      | some group => completes fuel group outer names (withoutLaziness rest)
      | none => false
    | '\x7b' :: _ => false
    | '\\' :: rest =>
      match Escape.read? group.flags rest with
      | some (escape, rest) =>
        escape.isAccepted group.flags && completes fuel (group.add 0) outer names rest
      | none => false
    | c :: rest =>
      (match c with
        | '.' => group.flags.unicode
        | '^' | '$' => true
        | _ => group.flags.acceptsLiteral c false) &&
        completes fuel (group.add 0) outer names rest

end ArithTokens.Pattern

namespace ArithTokens

/-- Says that a text is a pattern. Every step of the reading takes a character, so the length of the
text is fuel enough. -/
def isPattern (text : List Char) : Bool :=
  Pattern.completes (text.length + 1) (.empty .standard) [] [] text

end ArithTokens
