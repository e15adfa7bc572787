import ArithTokens.Unicode.Whitespace

/-!
# Flags of patterns

A pattern is read under flags, which can be switched on and off within it. Most flags only say what
a pattern matches; those that are kept here also say what can stand in it.

Under the flag for Unicode, what would need tables of characters cannot be used: classes that are
written as escapes, places where words start or end, and letters that stand for both of their cases.
Without the flag, nothing can be used that matches a part of a character outside ASCII.
-/

namespace ArithTokens.Pattern

/-- The flags that say what can stand in a pattern: whether letters stand for both of their cases,
whether characters are those of Unicode, and whether white space and comments are skipped. -/
structure Flags where
  ignoresCase : Bool
  unicode : Bool
  skipsBlanks : Bool
deriving DecidableEq, Repr

namespace Flags

/-- The flags at the start of a pattern. -/
def standard : Flags := ⟨false, true, false⟩

/-- The letters for flags. -/
def letters : List Char := ['i', 'm', 's', 'u', 'U', 'R', 'x']

/-- The state of a flag after a change: switched on in front of the minus sign, off behind it, and
otherwise as it was. -/
def setting (change : List Char) (letter : Char) (old : Bool) : Bool :=
  if (change.takeWhile (· ≠ '-')).contains letter then true
  else if change.contains letter then false
  else old

/-- The flags after a change. Every letter can be given once, and so can the minus sign, which is
not the last one. -/
def change? (flags : Flags) (change : List Char) : Option Flags :=
  if change.eraseDups.length = change.length && change.getLast? ≠ some '-' &&
      change.all ('-' :: letters).contains then
    some ⟨setting change 'i' flags.ignoresCase, setting change 'u' flags.unicode,
      setting change 'x' flags.skipsBlanks⟩
  else none

/-- A text without the white space and the comments at its start, or without the rest of a comment
if it starts within one. A comment goes from a number sign to the end of the line. -/
def withoutBlanks (inComment : Bool) : List Char → List Char
  | [] => []
  | c :: rest =>
    if inComment then withoutBlanks (c ≠ '\n') rest
    else if Unicode.isWhitespace c then withoutBlanks false rest
    else if c = '#' then withoutBlanks true rest
    else c :: rest

/-- What is left of a text when the blanks at its start are skipped. -/
def skip (flags : Flags) (text : List Char) : List Char :=
  if flags.skipsBlanks then withoutBlanks false text else text

/-- The character that is taken to follow when blanks are looked past. Of a comment only the sign
in front of it is. -/
def ahead? (flags : Flags) (text : List Char) : Option Char :=
  if flags.skipsBlanks then
    match text.dropWhile Unicode.isWhitespace with
    | [] => text.head?
    | '#' :: rest => (rest.dropWhile Unicode.isWhitespace).head?.or text.head?
    | c :: _ => some c
  else text.head?

/-- Says that a character can stand for itself. As a byte it has to be one of ASCII if characters
are not those of Unicode. -/
def acceptsLiteral (flags : Flags) (c : Char) (asByte : Bool) : Bool :=
  if flags.unicode then !flags.ignoresCase else !asByte || c.toNat < 128

/-- Says that a character can be a member of a set. -/
def acceptsMember (flags : Flags) (c : Char) : Bool := flags.acceptsLiteral c true

/-- Says that a class of ASCII characters with a name of its own, or the characters outside it, can
be members of a set. -/
def acceptsNamedClass (flags : Flags) (negated : Bool) : Bool :=
  if flags.unicode then !flags.ignoresCase else !negated

/-- Says that a class that is written as an escape can be used, or the characters outside it. -/
def acceptsEscapedClass (flags : Flags) (negated : Bool) : Bool := !flags.unicode && !negated

end Flags

end ArithTokens.Pattern
