import ArithTokens.Hexadecimal
import ArithTokens.Json
import ArithTokens.Numeral

/-!
# Reading JSON documents

`read?` reads a document in either layout: blanks may stand between any two of its parts. Nothing
but blanks may follow it. Numbers have the form that JSON gives them, and their text is kept. An
escape in a string stands for one character; halves of a surrogate pair are not accepted.
-/

namespace ArithTokens.Json

/-- The characters that may stand between the parts of a document. -/
def isBlank (c : Char) : Bool := c = ' ' || c = '\t' || c = '\n' || c = '\r'

/-- A text without the blanks at its start. -/
def skipBlanks (text : List Char) : List Char := text.dropWhile isBlank

/-- The character that a backslash and this letter stand for. -/
def escaped? : Char → Option Char
  | '"' => some '"'
  | '\\' => some '\\'
  | '/' => some '/'
  | 'b' => some '\x08'
  | 'f' => some '\x0c'
  | 'n' => some '\n'
  | 'r' => some '\r'
  | 't' => some '\t'
  | _ => none

/-- Puts a character in front of what has been read. -/
def withChar? (c? : Option Char) (read? : Option (List Char × List Char)) :
    Option (List Char × List Char) := do
  let c ← c?
  let (text, rest) ← read?
  some (c :: text, rest)

/-- Reads a string up to its closing quote. -/
def readString? : List Char → Option (List Char × List Char)
  | [] => none
  | '"' :: rest => some ([], rest)
  | '\\' :: 'u' :: a :: b :: c :: d :: rest =>
    withChar? (Hexadecimal.char? [a, b, c, d]) (readString? rest)
  | '\\' :: c :: rest => withChar? (escaped? c) (readString? rest)
  | c :: rest => withChar? (if c.toNat < 32 then none else some c) (readString? rest)

/-- The characters of which numbers consist. -/
def isNumberChar (c : Char) : Bool :=
  c.isDigit || c = '-' || c = '+' || c = '.' || c = 'e' || c = 'E'

/-- Says that a number does not start with a zero before another digit. -/
def hasPlainStart (text : List Char) : Bool :=
  let whole := (text.dropWhile (· = '-')).takeWhile Char.isDigit
  whole.head? ≠ some '0' || whole.length = 1

/-- Reads a number, which ends where no more of it can follow. -/
def readNumber? (text : List Char) : Option (Json × List Char) :=
  let number := text.takeWhile isNumberChar
  if (Numeral.read? number).isSome && hasPlainStart number then
    some (.number number, text.dropWhile isNumberChar)
  else none

mutual

/-- Reads a value that is nested no deeper than `fuel` allows. -/
def readValue? : (fuel : Nat) → List Char → Option (Json × List Char)
  | 0, _ => none
  | fuel + 1, text =>
    match skipBlanks text with
    | 'n' :: 'u' :: 'l' :: 'l' :: rest => some (.null, rest)
    | '"' :: rest => (readString? rest).map fun (text, rest) => (.string text, rest)
    | '[' :: rest =>
      match skipBlanks rest with
      | ']' :: rest => some (.array [], rest)
      | rest => (readItems? fuel rest).map fun (items, rest) => (.array items, rest)
    | '\x7b' :: rest =>
      match skipBlanks rest with
      | '\x7d' :: rest => some (.object [], rest)
      | rest => (readMembers? fuel rest).map fun (members, rest) => (.object members, rest)
    | rest => readNumber? rest

/-- Reads the elements of an array, at least one, up to the closing bracket. -/
def readItems? : (fuel : Nat) → List Char → Option (List Json × List Char)
  | 0, _ => none
  | fuel + 1, text => do
    let (item, rest) ← readValue? fuel text
    match skipBlanks rest with
    | ',' :: rest =>
      let (items, rest) ← readItems? fuel rest
      some (item :: items, rest)
    | ']' :: rest => some ([item], rest)
    | _ => none

/-- Reads the members of an object, at least one, up to the closing brace. -/
def readMembers? : (fuel : Nat) → List Char → Option (List (List Char × Json) × List Char)
  | 0, _ => none
  | fuel + 1, text =>
    match skipBlanks text with
    | '"' :: rest => do
      let (key, rest) ← readString? rest
      match skipBlanks rest with
      | ':' :: rest =>
        let (value, rest) ← readValue? fuel rest
        match skipBlanks rest with
        | ',' :: rest =>
          let (members, rest) ← readMembers? fuel rest
          some ((key, value) :: members, rest)
        | '\x7d' :: rest => some ([(key, value)], rest)
        | _ => none
      | _ => none
    | _ => none

end

/-- Reads a document. Every part of it has a character of its own, so its length is fuel enough. -/
def read? (text : List Char) : Option Json :=
  match readValue? (text.length + 1) text with
  | some (json, rest) => if skipBlanks rest = [] then some json else none
  | none => none

end ArithTokens.Json
