/-!
# Blanks and integers written as text

Blanks are the characters with the White_Space property, 25 of them since
version 6.3 of the standard.  A numeral is an optional sign and one or more
ASCII digits, with any number of leading zeros.  A reader for a fixed width
gives nothing when the value does not fit.
-/

namespace Switchboard.Text

/-- Closed ranges of blank code points, ascending and apart. -/
def blankRanges : List (Nat × Nat) :=
  [(0x09, 0x0D), (0x20, 0x20), (0x85, 0x85), (0xA0, 0xA0),
    (0x1680, 0x1680), (0x2000, 0x200A), (0x2028, 0x2029),
    (0x202F, 0x202F), (0x205F, 0x205F), (0x3000, 0x3000)]

def isBlank (letter : Char) : Bool :=
  blankRanges.any fun range =>
    range.1 ≤ letter.toNat && letter.toNat ≤ range.2

def trim (text : List Char) : List Char :=
  ((text.dropWhile isBlank).reverse.dropWhile isBlank).reverse

/-! ## Numerals -/

/-- The value of a row of ASCII digits that is not empty. -/
def digitsValue? (text : List Char) : Option Nat :=
  if text.isEmpty || !text.all Char.isDigit then
    none
  else
    some (text.foldl
      (fun value digit => value * 10 + (digit.toNat - '0'.toNat)) 0)

/-- A signed numeral. -/
def integer? : List Char → Option Int
  | '-' :: digits =>
      (digitsValue? digits).map fun value : Nat => -(value : Int)
  | '+' :: digits => (digitsValue? digits).map fun value : Nat => (value : Int)
  | digits => (digitsValue? digits).map fun value : Nat => (value : Int)

/-- A numeral of the signed 64-bit range. -/
def signed64? (text : List Char) : Option Int64 :=
  (integer? text).bind fun value =>
    if Int64.minValue.toInt ≤ value ∧ value ≤ Int64.maxValue.toInt then
      some (Int64.ofInt value)
    else
      none

/-- A numeral without a minus sign of the unsigned 64-bit range. -/
def unsigned64? (text : List Char) : Option UInt64 :=
  let digits :=
    match text with
    | '+' :: digits => digits
    | digits => digits
  (digitsValue? digits).bind fun value =>
    if value < UInt64.size then some (UInt64.ofNat value) else none

end Switchboard.Text
