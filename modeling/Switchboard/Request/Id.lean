import Switchboard.Json.Value
import Switchboard.Text.Numeral

/-!
# Request ids

A request and its reply share a signed 64-bit id.  On the wire it is an
integer or a text that holds one.
-/

namespace Switchboard

/-- The id that ties a reply to its request. -/
abbrev RequestId := Int64

/-- The id that an integer names, if it is in range. -/
def RequestId.ofInt? (value : Int) : Option RequestId :=
  if Int64.minValue.toInt ≤ value ∧ value ≤ Int64.maxValue.toInt then
    some (Int64.ofInt value)
  else
    none

/-- The id that a JSON value stands for: an integer, or a text that is one
once the blanks at its ends are gone. -/
def RequestId.ofValue? : Json.Value → Option RequestId
  | .number (.integer value) => RequestId.ofInt? value
  | .text content => Text.signed64? (Text.trim content.toList)
  | _ => none

/-- The source of fresh ids. -/
structure Allocator where
  next : RequestId := 1001
  deriving Repr, DecidableEq

namespace Allocator

/-- The next id, and the source behind it.  The greatest id is followed by the
least. -/
def take (allocator : Allocator) : RequestId × Allocator :=
  (allocator.next, ⟨allocator.next + 1⟩)

/-- The first so many ids of a source. -/
def takeMany (allocator : Allocator) : Nat → List RequestId
  | 0 => []
  | count + 1 =>
      let (id, rest) := allocator.take
      id :: rest.takeMany count

end Allocator

end Switchboard
