import ArithTokens.Pattern.Escape

/-!
# Sets of characters in patterns

A set stands in brackets. Its members are characters, ranges of characters, classes with a name and
other sets; two sets can be combined by an operator, and a caret at the start takes the characters
outside. Reading a set gives its height: how many levels of sets, lists of members and operators
stand above each other in it.
-/

namespace ArithTokens.Pattern

/-- The height of a list of parts with these heights. A part alone makes no list. -/
def heightOfAll : List Nat → Nat
  | [] => 0
  | [height] => height
  | heights => heights.foldl Nat.max 0 + 1

/-- How far the reading of a set has come: nothing has been read behind the bracket, nothing but a
caret or hyphens, or more than that. -/
inductive Stage where
  | opened
  | edge
  | inside
deriving DecidableEq, Repr

/-- A set that is being read: the height of what stands in front of the last operator, if there is
one, and the heights of the members behind it. -/
structure OpenSet where
  stage : Stage
  operand? : Option Nat
  members : List Nat
deriving DecidableEq, Repr

namespace OpenSet

/-- A set of which nothing has been read. -/
def empty : OpenSet := ⟨.opened, none, []⟩

/-- A set with one more member. -/
def add (set : OpenSet) (height : Nat) : OpenSet :=
  { set with stage := .inside, members := height :: set.members }

/-- A set at whose start one more hyphen has been read, which is a member. -/
def addHyphen (set : OpenSet) : OpenSet := { set.add 0 with stage := .edge }

/-- The height of what has been read. -/
def height (set : OpenSet) : Nat :=
  match set.operand? with
  | none => heightOfAll set.members
  | some height => Nat.max height (heightOfAll set.members) + 1

/-- What has been read becomes the left side of an operator. -/
def operate (set : OpenSet) : OpenSet := ⟨.inside, some set.height, []⟩

end OpenSet

namespace CharSet

/-- The names of the classes that can be members of sets. -/
def classNames : List String :=
  ["alnum", "alpha", "ascii", "blank", "cntrl", "digit", "graph", "lower", "print", "punct",
    "space", "upper", "word", "xdigit"]

/-- Reads a class behind its bracket: a name between colons, in front of which a caret takes the
characters outside. -/
def readNamedClass? : List Char → Option (Bool × List Char)
  | ':' :: rest =>
    let negated := rest.head? = some '^'
    let rest := if negated then rest.tail else rest
    let name := rest.takeWhile (· ≠ ':')
    match rest.drop name.length with
    | ':' :: ']' :: rest =>
      if classNames.contains (String.ofList name) then some (negated, rest) else none
    | _ => none
  | _ => none

/-- Reads one character, class or place. -/
def readMember? (flags : Flags) : List Char → Option (Escape × List Char)
  | [] => none
  | '\\' :: rest => Escape.read? flags rest
  | c :: rest => some (.literal c false, rest)

/-- Says that all characters of a range can be members: both ends are characters, in their order. -/
def isRange (flags : Flags) : Escape → Escape → Bool
  | .literal first _, .literal last _ =>
    first.toNat ≤ last.toNat && flags.acceptsMember first && flags.acceptsMember last
  | _, _ => false

/-- Reads a member or a range. A hyphen in front of another one or of the closing bracket makes no
range. -/
def readRange? (flags : Flags) (text : List Char) : Option (List Char) := do
  let (first, rest) ← readMember? flags text
  match flags.skip rest with
  | '-' :: rest =>
    if [some ']', some '-'].contains (flags.ahead? rest) then
      if first.isMember flags then some ('-' :: rest) else none
    else
      let (last, rest) ← readMember? flags (flags.skip rest)
      if isRange flags first last then some rest else none
  | rest => if first.isMember flags then some rest else none

/-- Reads the rest of a set and of those around it, and gives the height of the outermost one. -/
def readRest? (flags : Flags) : (fuel : Nat) → OpenSet → List OpenSet → List Char →
    Option (Nat × List Char)
  | 0, _, _, _ => none
  | fuel + 1, set, outer, text =>
    match set.stage, flags.skip text with
    | _, [] => none
    | .opened, '^' :: rest =>
      if flags.unicode then readRest? flags fuel { set with stage := .edge } outer rest else none
    | .opened, '-' :: rest | .edge, '-' :: rest =>
      if flags.acceptsMember '-' then readRest? flags fuel set.addHyphen outer rest else none
    | stage, c :: rest =>
      if stage ≠ .inside && set.members = [] && c = ']' then
        if flags.acceptsMember ']' then readRest? flags fuel (set.add 0) outer rest else none
      else
        match c :: rest with
        | '[' :: rest =>
          match readNamedClass? rest with
          | some (negated, rest) =>
            if flags.acceptsNamedClass negated then readRest? flags fuel (set.add 0) outer rest
            else none
          | none => readRest? flags fuel .empty ({ set with stage := .inside } :: outer) rest
        | ']' :: rest =>
          match outer with
          | [] => some (set.height + 1, rest)
          | next :: outer => readRest? flags fuel (next.add (set.height + 1)) outer rest
        | '&' :: '&' :: rest | '-' :: '-' :: rest | '~' :: '~' :: rest =>
          readRest? flags fuel set.operate outer rest
        | text =>
          match readRange? flags text with
          | some rest => readRest? flags fuel (set.add 0) outer rest
          | none => none

/-- Reads a set behind its opening bracket. Every step takes a character, so the length of the text
is fuel enough. -/
def read? (flags : Flags) (text : List Char) : Option (Nat × List Char) :=
  readRest? flags (text.length + 1) .empty [] text

end CharSet

end ArithTokens.Pattern
