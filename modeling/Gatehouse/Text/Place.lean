/-!
# Places in a text

A place between the bytes of a text is told as a line and a column.  Lines are counted from one, and
the column is the number of bytes that the line has in front of the place, so that a newline ends
the line that it is part of.

A reader finds its place while it goes through the bytes (`Place.behind`).  From the place and the
text the number of bytes in front of it is found again: they are the lines before, with a newline
each, and the column (`Place.offset`).
-/

namespace Gatehouse.Text

set_option autoImplicit false

/-- The byte that ends a line. -/
def newline : UInt8 := 0x0a

/-- The number of bytes of lines, with a newline each. -/
def lengthOfLines : List (List UInt8) → Nat
  | [] => 0
  | line :: lines => line.length + 1 + lengthOfLines lines

/-- A place between the bytes of a text. -/
structure Place where
  line : Nat
  column : Nat
  deriving DecidableEq, Repr

namespace Place

/-- The place in front of a text. -/
def start : Place := ⟨1, 0⟩

/-- The place one byte further on. -/
def advance (place : Place) (byte : UInt8) : Place :=
  if byte == newline then ⟨place.line + 1, 0⟩ else ⟨place.line, place.column + 1⟩

/-- The place behind the bytes at the front of a text. -/
def behind (bytes : List UInt8) : Place :=
  bytes.foldl advance start

/-- The number of bytes of a text that are in front of a place. -/
def offset (place : Place) (body : List UInt8) : Nat :=
  lengthOfLines ((body.splitOn newline).take (place.line - 1)) + place.column

theorem behind_concat (bytes : List UInt8) (byte : UInt8) :
    behind (bytes ++ [byte]) = (behind bytes).advance byte := by
  rw [behind, List.foldl_append]
  rfl

end Place

end Gatehouse.Text
