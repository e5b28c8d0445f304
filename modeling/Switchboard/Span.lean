/-!
# Lengths of time

A span counts nanoseconds and never runs backwards.
-/

namespace Switchboard

structure Span where
  nanoseconds : Nat
  deriving Repr, DecidableEq

namespace Span

def ofMillis (millis : Nat) : Span :=
  ⟨millis * 1000000⟩

def ofParts (seconds nanoseconds : Nat) : Span :=
  ⟨seconds * 1000000000 + nanoseconds⟩

def micros (span : Span) : Nat :=
  span.nanoseconds / 1000

def millis (span : Span) : Nat :=
  span.nanoseconds / 1000000

/-- The span in seconds: whole seconds and the rest are each rounded before
they are added. -/
def seconds (span : Span) : Float :=
  Float.ofScientific (span.nanoseconds / 1000000000) false 0 +
    Float.ofScientific (span.nanoseconds % 1000000000) false 0 / 1000000000

/-- A count with a fraction of so many places, without trailing zeros. -/
def fractional (whole fraction places : Nat) : List Char :=
  let digits := Nat.toDigits 10 fraction
  let padded := List.replicate (places - digits.length) '0' ++ digits
  match (padded.reverse.dropWhile (· == '0')).reverse with
  | [] => Nat.toDigits 10 whole
  | kept => Nat.toDigits 10 whole ++ '.' :: kept

/-- The span in the largest of the units `s`, `ms`, `µs` and `ns` that it
fills, with the rest as a fraction. -/
def render (span : Span) : String :=
  let count := span.nanoseconds
  if 1000000000 ≤ count then
    String.ofList (fractional (count / 1000000000) (count % 1000000000) 9) ++
      "s"
  else if 1000000 ≤ count then
    String.ofList (fractional (count / 1000000) (count % 1000000) 6) ++ "ms"
  else if 1000 ≤ count then
    String.ofList (fractional (count / 1000) (count % 1000) 3) ++ "µs"
  else
    String.ofList (Nat.toDigits 10 count) ++ "ns"

end Span

end Switchboard
