/-!
# Where a line may end

The classes of the characters around a place in a text decide whether a line may end there. The
classes and the rules are those of Unicode line breaking, for printable ASCII and the tab; a
character that has no class of its own here counts as a letter. Hyphens are the exception: no line
ends after one by these rules, since which words are divided at their hyphens is decided apart from
them.
-/

namespace ArithTokens

/-- How a character behaves at the end and at the start of a line. -/
inductive BreakClass where
  | space
  | breakAfter
  | hyphen
  | opening
  | closing
  | closingBracket
  | exclamation
  | insideNumber
  | slash
  | quotation
  | beforeNumber
  | afterNumber
  | digit
  | letter
deriving DecidableEq, Repr

namespace BreakClass

/-- The class of a character. -/
def ofChar (c : Char) : BreakClass :=
  if c.isDigit then .digit
  else if c = ' ' then .space
  else if ['\t', '|'].contains c then .breakAfter
  else if c = '-' then .hyphen
  else if ['(', '[', '\x7b'].contains c then .opening
  else if c = '\x7d' then .closing
  else if [')', ']'].contains c then .closingBracket
  else if ['!', '?'].contains c then .exclamation
  else if [',', '.', ':', ';'].contains c then .insideNumber
  else if c = '/' then .slash
  else if ['"', '\x27'].contains c then .quotation
  else if ['$', '+', '\\'].contains c then .beforeNumber
  else if c = '%' then .afterNumber
  else .letter

/-- Says that a line never starts with a character of this class, even if spaces stand before it. -/
def neverStarts : BreakClass → Bool
  | .space | .closing | .closingBracket | .exclamation | .insideNumber | .slash => true
  | _ => false

/-- Says that a line never ends with a character of this class, even if spaces stand behind it. -/
def neverEnds : BreakClass → Bool
  | .opening => true
  | _ => false

/-- Says that two classes stay together side by side: around a quotation mark, in front of a hyphen
or of a character behind which a line ends, within words and numbers, and between a number and the
signs and brackets around it. -/
def joins : BreakClass → BreakClass → Bool
  | .space, _ | .hyphen, _ | .quotation, _ => true
  | _, .quotation | _, .breakAfter | _, .hyphen => true
  | .letter, .letter | .letter, .digit | .digit, .letter | .digit, .digit => true
  | .letter, .beforeNumber | .letter, .afterNumber => true
  | .beforeNumber, .letter | .afterNumber, .letter => true
  | .digit, .beforeNumber | .digit, .afterNumber => true
  | .closing, .beforeNumber | .closing, .afterNumber => true
  | .closingBracket, .beforeNumber | .closingBracket, .afterNumber => true
  | .beforeNumber, .opening | .afterNumber, .opening => true
  | .beforeNumber, .digit | .afterNumber, .digit => true
  | .insideNumber, .digit | .insideNumber, .letter | .slash, .digit => true
  | .letter, .opening | .digit, .opening => true
  | .closingBracket, .letter | .closingBracket, .digit => true
  | _, _ => false

end BreakClass

/-- What stands in front of a place in a line: the class of the last character that is not a space,
and whether spaces follow it. In front of the first such character the class is that of a space. -/
structure LeftSide where
  last : BreakClass
  spaced : Bool
deriving DecidableEq, Repr

namespace LeftSide

/-- What stands in front of the first character. -/
def start : LeftSide := ⟨.space, false⟩

/-- What stands in front of the place behind one more character. -/
def next (left : LeftSide) (c : Char) : LeftSide :=
  if c = ' ' then { left with spaced := true } else ⟨.ofChar c, false⟩

/-- Says that a line may end here if this character comes next. -/
def mayEnd (left : LeftSide) (c : Char) : Bool :=
  !(BreakClass.ofChar c).neverStarts && !left.last.neverEnds &&
    (left.spaced || !left.last.joins (.ofChar c))

end LeftSide

end ArithTokens
