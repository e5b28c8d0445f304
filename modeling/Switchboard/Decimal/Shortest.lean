import Switchboard.Decimal.Interval

/-!
# The shortest decimal that reads back

`shortest` searches the decimal grids from the coarsest on.  The first grid
with a point in the interval of the value wins; of two points the nearer is
taken, and a `Tie` says which one when both are equally near.
-/

namespace Switchboard.Decimal

/-- Which of two equally near neighbours is taken. -/
inductive Tie where
  | even
  | up
  deriving Repr, DecidableEq

/-- Significant digits, most significant first, and the power of ten of the
first of them. -/
structure Digits where
  digits : List Char
  exponent : Int
  deriving Repr, DecidableEq

/-- How many decimal digits a natural number has. -/
def decimalLength (number : Nat) : Nat :=
  (Nat.toDigits 10 number).length

/-- The power of ten of the leading digit of a positive value: shifted by 400
places, even the least positive value has a whole part. -/
def Interval.leadingExponent (interval : Interval) : Int :=
  (decimalLength (interval.floorAt (-400)) : Int) - 401

/-- The point of a grid that reads back to the value and is nearest to it. -/
def Interval.nearestOn (interval : Interval) (tie : Tie)
    (exponent : Int) : Option Nat :=
  let lower := interval.floorAt exponent
  let upper := lower + 1
  match interval.contains lower exponent, interval.contains upper exponent with
  | false, false => none
  | true, false => some lower
  | false, true => some upper
  | true, true =>
      match interval.compareMiddle lower exponent with
      | .lt => some lower
      | .gt => some upper
      | .eq =>
          match tie with
          | .up => some upper
          | .even => some (if lower % 2 = 0 then lower else upper)

/-- Digits without trailing zeros. -/
def Digits.ofNat (number : Nat) (exponent : Int) : Digits :=
  let all := Nat.toDigits 10 number
  { digits := (all.reverse.dropWhile (· == '0')).reverse
    exponent := exponent + (all.length : Int) - 1 }

/-- The fewest digits that read back to a positive value.  Seventeen always
suffice; past them the exact value itself is given. -/
def Interval.shortest (interval : Interval) (tie : Tie) : Digits :=
  let leading := interval.leadingExponent
  let onGrid := fun (places : Nat) =>
    let exponent := leading - (places : Int)
    (interval.nearestOn tie exponent).map (Digits.ofNat · exponent)
  match (List.range 17).findSome? onGrid with
  | some found => found
  | none =>
      Digits.ofNat (interval.value * Nat.pow 5 unitExponent)
        (-(unitExponent : Int))

end Switchboard.Decimal
