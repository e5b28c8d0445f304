import Switchboard.Log.FieldTest
import Switchboard.Log.Threshold
import Switchboard.Text.Alphanumeric
import Switchboard.Text.Bytes
import Switchboard.Text.Numeral

/-!
# Directives

A directive is `target[span{field=value}]=level` with any of its parts left
out.  It is read character by character, and each character belongs to a part
of it.
-/

namespace Switchboard.Log

inductive FilterError where
  | invalidLevel
  | invalidDirective
  deriving Repr, DecidableEq

def FilterError.message : FilterError → String
  | .invalidLevel =>
      "error parsing level filter: expected one of \"off\", \"error\", " ++
        "\"warn\", \"info\", \"debug\", \"trace\", or a number 0-5"
  | .invalidDirective => "invalid filter directive"

/-- A threshold for what goes on under a target, within a span, or with a
field. -/
structure Directive where
  target : Option (List Char) := none
  span : Option (List Char) := none
  test : Option FieldTest := none
  threshold : Threshold := some .trace
  deriving Repr

/-- The part of a directive that its next character belongs to, with the byte
position at which the part began. -/
inductive Part where
  | start
  /-- A level or a target. -/
  | word
  | span (start : Nat)
  | test (start : Nat)
  | behindTest
  | behindSpan
  | level (start : Nat)
  deriving Repr, DecidableEq

/-- A directive as far as it has been read. -/
structure DirectiveReading where
  part : Part := .start
  directive : Directive := {}

namespace DirectiveReading

/-- Whether a target may begin with a character. -/
def mayBegin (letter : Char) : Bool :=
  letter = '-' || letter = ':' || letter = '_' ||
    Text.isAlphanumeric letter

/-- Takes the character at a byte position.  The parts that end there are cut
from the piece. -/
def step (piece : List Char) (reading : DirectiveReading) (position : Nat)
    (letter : Char) : Except FilterError DirectiveReading :=
  let directive := reading.directive
  let behind := position + 1
  match reading.part with
  | .start =>
      if letter = '[' then
        .ok { reading with part := .span behind }
      else if mayBegin letter then
        .ok { reading with part := .word }
      else
        .error .invalidDirective
  | .word =>
      let target := some (Text.slice 0 position piece)
      if letter = '=' then
        .ok ⟨.level behind, { directive with target := target }⟩
      else if letter = '[' then
        .ok ⟨.span behind, { directive with target := target }⟩
      else
        .ok reading
  | .span start =>
      let span := Text.slice start position piece
      if letter = ']' then
        .ok ⟨.behindSpan, { directive with span := some span }⟩
      else if letter = '\x7b' then
        let span := if span.isEmpty then none else some span
        .ok ⟨.test behind, { directive with span := span }⟩
      else
        .ok reading
  | .test start =>
      if letter ≠ '\x7d' then
        .ok reading
      else if start = position then
        .error .invalidDirective
      else
        let test := FieldTest.ofText (Text.slice start position piece)
        .ok ⟨.behindTest, { directive with test := some test }⟩
  | .behindTest =>
      if letter = ']' then
        .ok { reading with part := .behindSpan }
      else
        .error .invalidDirective
  | .behindSpan =>
      if letter = '=' then
        .ok { reading with part := .level behind }
      else
        .error .invalidDirective
  | .level _ => .ok reading

/-- Takes all characters from a byte position on. -/
def run (piece : List Char) (reading : DirectiveReading) (position : Nat) :
    List Char → Except FilterError DirectiveReading
  | [] => .ok reading
  | letter :: rest => do
      let next ← reading.step piece position letter
      next.run piece (position + letter.utf8Size) rest

/-- The directive at the end of the piece.  A word alone is a threshold if it
names one, and a target otherwise. -/
def finish (piece : List Char) (reading : DirectiveReading) :
    Except FilterError Directive :=
  let directive := reading.directive
  match reading.part with
  | .word =>
      match Threshold.ofText? piece with
      | some threshold => .ok { directive with threshold := threshold }
      | none => .ok { directive with target := some piece }
  | .behindSpan => .ok directive
  | .level start =>
      let level := Text.dropBytes start piece
      if level.isEmpty then
        .ok directive
      else
        match Threshold.ofText? level with
        | some threshold => .ok { directive with threshold := threshold }
        | none => .error .invalidLevel
  | _ => .error .invalidDirective

end DirectiveReading

namespace Directive

/-- Reads one directive.  Blanks at the ends take no part in the reading, but
the parts are cut from the whole piece at the positions that they have without
these blanks. -/
def parse (piece : List Char) : Except FilterError Directive := do
  let reading ← DirectiveReading.run piece {} 0 (Text.trim piece)
  reading.finish piece

/-- The text of a directive, given what stands between its brackets. -/
def layOut (target bracketed : Option (List Char))
    (threshold : Threshold) : List Char :=
  let subject :=
    target.getD [] ++
      match bracketed with
      | none => []
      | some text => '[' :: (text ++ [']'])
  let mark := if target.isSome || bracketed.isSome then ['='] else []
  subject ++ mark ++ (Threshold.name threshold).toList

def braced (text : List Char) : List Char :=
  '\x7b' :: (text ++ ['\x7d'])

/-- What stands between the brackets of a directive. -/
def bracketed (directive : Directive) : Option (List Char) :=
  let test := directive.test.map fun test => braced test.render
  match directive.span, test with
  | none, none => none
  | span, test => some (span.getD [] ++ test.getD [])

def render (directive : Directive) : List Char :=
  layOut directive.target directive.bracketed directive.threshold

/-- Whether a directive asks for more than a target. -/
def isDetailed (directive : Directive) : Bool :=
  directive.span.isSome || directive.test.isSome

/-- The order in which directives are tried: those that ask for more come
first. -/
protected def compare (first second : Directive) : Ordering :=
  let size := fun (directive : Directive) =>
    directive.target.map Text.byteCount
  ((Ord.compare (size first) (size second)).then
    ((Ord.compare first.span.isSome second.span.isSome).then
      ((Ord.compare first.test.isSome second.test.isSome).then
        ((Ord.compare first.target second.target).then
          ((Ord.compare first.span second.span).then
            (Ord.compare first.test second.test)))))).swap

end Directive

end Switchboard.Log
