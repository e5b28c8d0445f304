import Switchboard.Decimal.Shortest

/-!
# Laying out a binary64 value as text

A `Layout` records the decisions of one text format: which exponents are
written positionally, what follows a whole number, and how ties between
equally short decimals are decided.
-/

namespace Switchboard.Decimal

/-- The decisions of one number format. -/
structure Layout where
  tie : Tie
  /-- Powers of ten of the leading digit that are written positionally. -/
  positional : Int → Bool
  /-- What follows the digits of a positionally written whole number. -/
  wholeMark : List Char

/-- Digits with a decimal point and no exponent. -/
def Digits.positional (decimal : Digits) (wholeMark : List Char) : List Char :=
  if decimal.exponent < 0 then
    '0' :: '.' :: (List.replicate (-decimal.exponent - 1).toNat '0' ++
      decimal.digits)
  else
    let places := decimal.exponent.toNat + 1
    let whole := decimal.digits.take places
    let zeros := List.replicate (places - whole.length) '0'
    match decimal.digits.drop places with
    | [] => whole ++ zeros ++ wholeMark
    | fraction => whole ++ zeros ++ '.' :: fraction

def Digits.scientific (decimal : Digits) : List Char :=
  let significand :=
    match decimal.digits with
    | first :: second :: more => first :: '.' :: second :: more
    | short => short
  let sign := if decimal.exponent < 0 then '-' else '+'
  significand ++ 'e' :: sign :: Nat.toDigits 10 decimal.exponent.natAbs

def Layout.render (layout : Layout) (value : Float) : List Char :=
  let bits := value.toBits
  let magnitude := bits &&& 0x7FFFFFFFFFFFFFFF
  let unsigned :=
    if magnitude = 0 then
      '0' :: layout.wholeMark
    else
      let decimal := (Interval.ofBits magnitude).shortest layout.tie
      if layout.positional decimal.exponent then
        decimal.positional layout.wholeMark
      else
        decimal.scientific
  if bits = magnitude then unsigned else '-' :: unsigned

/-- No exponent, and no point in whole numbers. -/
def plain : Layout where
  tie := .up
  positional := fun _ => true
  wholeMark := []

end Switchboard.Decimal
