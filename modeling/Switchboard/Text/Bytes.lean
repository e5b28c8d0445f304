/-!
# Sizes and parts of text in bytes
-/

namespace Switchboard.Text

def byteCount : List Char → Nat
  | [] => 0
  | letter :: rest => letter.utf8Size + byteCount rest

/-- The text behind so many bytes.  A character that they reach into is left
out. -/
def dropBytes : Nat → List Char → List Char
  | 0, text => text
  | _, [] => []
  | bytes + 1, letter :: rest =>
      dropBytes (bytes + 1 - letter.utf8Size) rest

/-- The first so many bytes of a text.  A character that they reach into is
taken whole. -/
def takeBytes : Nat → List Char → List Char
  | 0, _ => []
  | _, [] => []
  | bytes + 1, letter :: rest =>
      letter :: takeBytes (bytes + 1 - letter.utf8Size) rest

/-- The part of a text from one byte position to another. -/
def slice (first last : Nat) (text : List Char) : List Char :=
  takeBytes (last - first) (dropBytes first text)

/-- The line and the byte column reached after so many bytes of a text.  Lines
count from one, and the column counts the bytes behind the last line feed. -/
def placeAfter : Nat → List Char → Nat × Nat :=
  go 1 0
where
  go (line column : Nat) : Nat → List Char → Nat × Nat
    | _, [] => (line, column)
    | 0, _ => (line, column)
    | bytes, letter :: rest =>
        if letter = '\n' then
          go (line + 1) 0 (bytes - 1) rest
        else
          let size := min letter.utf8Size bytes
          go line (column + size) (bytes - size) rest

end Switchboard.Text
