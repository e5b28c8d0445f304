/-!
# The decimals that read back to one binary64 value

A positive finite binary64 value stands for every real number that rounds to
it.  All ends of these intervals are whole multiples of `2 ^ -1076`, so an
interval is held as natural numbers counted in that unit and a decimal is
tested against it without division.
-/

namespace Switchboard.Decimal

/-- The binary exponent of the unit in which intervals are counted, negated. -/
def unitExponent : Nat := 1076

/-- The real numbers that round to one positive value, in units of
`2 ^ -unitExponent`. -/
structure Interval where
  value : Nat
  low : Nat
  high : Nat
  /-- Whether the two ends themselves round to the value. -/
  closed : Bool
  deriving Repr, DecidableEq

/-- The interval of a positive finite value, from its bits.  Below a power of
two the neighbour is half as far away as above it; ties go to the even
significand, so the ends belong to an even one. -/
def Interval.ofBits (bits : UInt64) : Interval :=
  let exponentField := ((bits >>> 52) &&& 0x7FF).toNat
  let fraction := (bits &&& 0xFFFFFFFFFFFFF).toNat
  let significand :=
    if exponentField = 0 then fraction else Nat.pow 2 52 + fraction
  let shift := exponentField - 1
  let gapBelow := if fraction = 0 ∧ exponentField > 1 then 1 else 2
  { value := 4 * significand * Nat.pow 2 shift
    low := (4 * significand - gapBelow) * Nat.pow 2 shift
    high := (4 * significand + 2) * Nat.pow 2 shift
    closed := significand % 2 = 0 }

/-- A decimal `digits * 10 ^ exponent` lies in the interval. -/
def Interval.contains (interval : Interval) (digits : Nat)
    (exponent : Int) : Bool :=
  let scaled :=
    digits * Nat.pow 10 exponent.toNat * Nat.pow 2 unitExponent
  let divisor := Nat.pow 10 (-exponent).toNat
  if interval.closed then
    interval.low * divisor ≤ scaled && scaled ≤ interval.high * divisor
  else
    interval.low * divisor < scaled && scaled < interval.high * divisor

/-- The value divided by `10 ^ exponent`, rounded down. -/
def Interval.floorAt (interval : Interval) (exponent : Int) : Nat :=
  interval.value * Nat.pow 10 (-exponent).toNat /
    (Nat.pow 2 unitExponent * Nat.pow 10 exponent.toNat)

/-- Twice the value compared with the sum of a grid point and its successor. -/
def Interval.compareMiddle (interval : Interval) (lower : Nat)
    (exponent : Int) : Ordering :=
  compare (2 * interval.value * Nat.pow 10 (-exponent).toNat)
    ((2 * lower + 1) * Nat.pow 10 exponent.toNat *
      Nat.pow 2 unitExponent)

end Switchboard.Decimal
