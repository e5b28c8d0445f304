import Switchboard.Decimal.Layout
import Switchboard.Decimal.Literal

/-!
# Tests of a field

A test names a field and may ask for a value.  The text of a value is taken as
a truth value, a number or a pattern, whichever it can be read as first.
-/

namespace Switchboard.Log

/-- The value that a test asks for. -/
inductive Wanted where
  | flag (value : Bool)
  | float (value : Float)
  | notANumber
  | natural (value : UInt64)
  | integer (value : Int64)
  | pattern (text : List Char)
  deriving Repr

namespace Wanted

/-- The value that a text stands for. -/
def ofText (text : List Char) : Wanted :=
  if text = "true".toList then
    .flag true
  else if text = "false".toList then
    .flag false
  else
    match Text.unsigned64? text with
    | some value => .natural value
    | none =>
        match Text.signed64? text with
        | some value => .integer value
        | none =>
            match Decimal.ofLiteral? text with
            | some value => if value.isNaN then .notANumber else .float value
            | none => .pattern text

def render : Wanted → List Char
  | .flag true => "true".toList
  | .flag false => "false".toList
  | .float value =>
      if value.isInf then
        if value < 0 then "-inf".toList else "inf".toList
      else
        Decimal.plain.render value
  | .notANumber => "NaN".toList
  | .natural value => Nat.toDigits 10 value.toNat
  | .integer value => (toString value.toInt).toList
  | .pattern text => text

/-- The place of a kind of values among the kinds. -/
def kind : Wanted → Nat
  | .flag _ => 0
  | .float _ => 1
  | .notANumber => 2
  | .natural _ => 3
  | .integer _ => 4
  | .pattern _ => 5

/-- The order of values: by kind, then within the kind. -/
protected def compare (first second : Wanted) : Ordering :=
  match first, second with
  | .flag left, .flag right => Ord.compare left right
  | .float left, .float right =>
      if left < right then .lt else if left == right then .eq else .gt
  | .natural left, .natural right => Ord.compare left.toNat right.toNat
  | .integer left, .integer right => Ord.compare left.toInt right.toInt
  | .pattern left, .pattern right => Ord.compare left right
  | left, right => Ord.compare left.kind right.kind

instance : Ord Wanted where
  compare := Wanted.compare

end Wanted

structure FieldTest where
  field : List Char
  wanted : Option Wanted
  deriving Repr

namespace FieldTest

/-- Reads a name, and behind an equals sign a value that ends at the next
one. -/
def ofText (text : List Char) : FieldTest where
  field := text.takeWhile (· ≠ '=')
  wanted :=
    match text.dropWhile (· ≠ '=') with
    | [] => none
    | _ :: rest => some (.ofText (rest.takeWhile (· ≠ '=')))

def render (test : FieldTest) : List Char :=
  match test.wanted with
  | none => test.field
  | some wanted => test.field ++ '=' :: wanted.render

/-- The order of tests: those without a value come first. -/
protected def compare (first second : FieldTest) : Ordering :=
  (Ord.compare first.wanted.isSome second.wanted.isSome).then
    ((Ord.compare first.field second.field).then
      (Ord.compare first.wanted second.wanted))

instance : Ord FieldTest where
  compare := FieldTest.compare

end FieldTest

end Switchboard.Log
