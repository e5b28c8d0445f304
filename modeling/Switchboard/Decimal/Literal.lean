import Switchboard.Text.Numeral

/-!
# Decimal literals

A literal is an optional sign and a magnitude: digits with at most one decimal
point among or around them and an optional power of ten, or the name of
infinity or of the value that is no number, in any case.
-/

namespace Switchboard.Decimal

/-- The binary64 value nearest to `significand * 10 ^ exponent`.  Powers of ten
far out of range are not raised. -/
def nearest (significand : Nat) (exponent : Int) : Float :=
  let leading := exponent + (Nat.toDigits 10 significand).length
  if significand = 0 || leading < -330 then
    0
  else if 310 < leading then
    1 / 0
  else
    Float.ofScientific significand (exponent < 0) exponent.natAbs

/-- The power of ten behind the digits of a literal. -/
def literalExponent? : List Char → Option Int
  | [] => some 0
  | mark :: written =>
      if mark = 'e' || mark = 'E' then Text.integer? written else none

/-- The value of a literal without a sign. -/
def literalMagnitude? (text : List Char) : Option Float :=
  let word := text.map Char.toLower
  if ["inf", "infinity"].any (·.toList = word) then
    some (1 / 0)
  else if word = "nan".toList then
    some (0 / 0)
  else
    let whole := text.takeWhile Char.isDigit
    let (fraction, left) :=
      match text.dropWhile Char.isDigit with
      | '.' :: rest =>
          (rest.takeWhile Char.isDigit, rest.dropWhile Char.isDigit)
      | rest => ([], rest)
    do
      let significand ← Text.digitsValue? (whole ++ fraction)
      let exponent ← literalExponent? left
      pure (nearest significand (exponent - fraction.length))

def ofLiteral? : List Char → Option Float
  | '-' :: text => (literalMagnitude? text).map (-·)
  | '+' :: text => literalMagnitude? text
  | text => literalMagnitude? text

end Switchboard.Decimal
