/-!
# Texts in bytes

Some counts go by the bytes of a text in UTF-8 and not by its characters.
-/

namespace ArithTokens

/-- The number of bytes of a text. -/
def byteCount (text : List Char) : Nat := (String.ofList text).utf8ByteSize

@[simp] theorem byte_count_nil : byteCount [] = 0 := rfl

/-- The bytes of two texts one after the other add up. -/
@[simp] theorem byte_count_append (first second : List Char) :
    byteCount (first ++ second) = byteCount first + byteCount second := by
  simp [byteCount]

@[simp] theorem byte_count_cons (c : Char) (rest : List Char) :
    byteCount (c :: rest) = c.utf8Size + byteCount rest := by
  rw [← List.singleton_append, byte_count_append]
  simp [byteCount]

/-- No character is without bytes, so a text has at least as many bytes as characters. -/
theorem length_le_byte_count (text : List Char) : text.length ≤ byteCount text := by
  induction text with
  | nil => exact Nat.le_refl 0
  | cons c rest ih =>
    have hpos := c.utf8Size_pos
    simp only [List.length_cons, byte_count_cons]
    omega

/-- The first characters of a text that fit into a number of bytes. -/
def takeBytes : Nat → List Char → List Char
  | _, [] => []
  | size, c :: rest => if size < c.utf8Size then [] else c :: takeBytes (size - c.utf8Size) rest

/-- What is left of a text without the first characters that fit into a number of bytes. -/
def dropBytes : Nat → List Char → List Char
  | _, [] => []
  | size, c :: rest =>
    if size < c.utf8Size then c :: rest else dropBytes (size - c.utf8Size) rest

end ArithTokens
