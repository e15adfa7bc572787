/-!
# JSON documents

A document and its two layouts. `compact` writes no blanks between the parts. `indented` puts every
element and member on a line of its own, two spaces further in than what holds it, and a space
behind every colon; what is empty stays on one line. Numbers are kept as they are written, so that
integers and doubles of any form have a place in one type.
-/

namespace ArithTokens

/-- A JSON document; a number is its own text, and the members of an object keep their order. -/
inductive Json where
  | null
  | number (text : List Char)
  | string (text : List Char)
  | array (items : List Json)
  | object (members : List (List Char × Json))
deriving Repr, Inhabited

namespace Json

/-- The hexadecimal digit of a number below 16. -/
def hexDigit (n : Nat) : Char := Nat.digitChar n

/-- A character inside a string: quotes, backslashes and control characters are escaped. -/
def escape (c : Char) : List Char :=
  if c = '"' then ['\\', '"']
  else if c = '\\' then ['\\', '\\']
  else if c.toNat < 32 then
    ['\\', 'u', '0', '0', hexDigit (c.toNat / 16), hexDigit (c.toNat % 16)]
  else [c]

/-- A string between quotes. -/
def quote (text : List Char) : List Char := '"' :: (text.flatMap escape ++ ['"'])

mutual

/-- The document without any blanks between its parts. -/
def compact : Json → List Char
  | .null => ['n', 'u', 'l', 'l']
  | .number text => text
  | .string text => quote text
  | .array items => '[' :: ([','].intercalate (compactItems items) ++ [']'])
  | .object members => '\x7b' :: ([','].intercalate (compactMembers members) ++ ['\x7d'])

/-- Each of the elements without blanks. -/
def compactItems : List Json → List (List Char)
  | [] => []
  | item :: rest => item.compact :: compactItems rest

/-- Each of the members without blanks. -/
def compactMembers : List (List Char × Json) → List (List Char)
  | [] => []
  | (key, value) :: rest => (quote key ++ ':' :: value.compact) :: compactMembers rest

end

/-- A new line at a depth of nesting, two spaces further in for every level. -/
def newLine (depth : Nat) : List Char := '\n' :: List.replicate (2 * depth) ' '

/-- Parts between brackets, each on a line of its own one level further in than the brackets. -/
def bracketed (depth : Nat) (left right : Char) (parts : List (List Char)) : List Char :=
  match parts with
  | [] => [left, right]
  | _ :: _ =>
    left :: ([','].intercalate (parts.map (newLine (depth + 1) ++ ·)) ++ newLine depth ++ [right])

mutual

/-- The document on several lines, as it stands at a depth of nesting. -/
def indented (depth : Nat) : Json → List Char
  | .null => ['n', 'u', 'l', 'l']
  | .number text => text
  | .string text => quote text
  | .array items => bracketed depth '[' ']' (indentedItems (depth + 1) items)
  | .object members => bracketed depth '\x7b' '\x7d' (indentedMembers (depth + 1) members)

/-- Each of the elements on several lines. -/
def indentedItems (depth : Nat) : List Json → List (List Char)
  | [] => []
  | item :: rest => item.indented depth :: indentedItems depth rest

/-- Each of the members on several lines. -/
def indentedMembers (depth : Nat) : List (List Char × Json) → List (List Char)
  | [] => []
  | (key, value) :: rest =>
    (quote key ++ [':', ' '] ++ value.indented depth) :: indentedMembers depth rest

end

/-- The document in one line. -/
def compactText (json : Json) : String := String.ofList json.compact

/-- The document on several lines, without a line ending at the end. -/
def indentedText (json : Json) : String := String.ofList (json.indented 0)

/-- Elements are written one by one. -/
theorem compact_items_eq_map (items : List Json) : compactItems items = items.map compact := by
  induction items with
  | nil => rfl
  | cons item rest ih => rw [compactItems, List.map_cons, ih]

/-- Indented elements are written one by one. -/
theorem indented_items_eq_map (depth : Nat) (items : List Json) :
    indentedItems depth items = items.map (indented depth) := by
  induction items with
  | nil => rfl
  | cons item rest ih => rw [indentedItems, List.map_cons, ih]

/-- The compact text of one member of an object. -/
def memberText (member : List Char × Json) : List Char := quote member.1 ++ ':' :: member.2.compact

/-- Members are written one by one. -/
theorem compact_members_eq_map (members : List (List Char × Json)) :
    compactMembers members = members.map memberText := by
  induction members with
  | nil => rfl
  | cons member rest ih => rw [compactMembers, List.map_cons, ih, memberText]

/-- Indented members are written one by one. -/
theorem indented_members_eq_map (depth : Nat) (members : List (List Char × Json)) :
    indentedMembers depth members =
      members.map fun member => quote member.1 ++ [':', ' '] ++ member.2.indented depth := by
  induction members with
  | nil => rfl
  | cons member rest ih => rw [indentedMembers, List.map_cons, ih]

end Json

end ArithTokens
