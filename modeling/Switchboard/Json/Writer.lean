import Switchboard.Decimal.Layout
import Switchboard.Json.Value

/-!
# Writing JSON

The compact form of a value: no blanks, members in the order they stand in,
and only those characters escaped that JSON cannot hold raw.
-/

namespace Switchboard.Json

/-- Binary64 values take the fewest digits that read back, positionally from
`0.00001` up to sixteen whole digits and with at least one fraction digit;
otherwise with an exponent. -/
def floatLayout : Decimal.Layout where
  tie := .even
  positional := fun exponent => -5 ≤ exponent && exponent ≤ 15
  wholeMark := ['.', '0']

def renderInteger (value : Int) : List Char :=
  if value < 0 then
    '-' :: Nat.toDigits 10 value.natAbs
  else
    Nat.toDigits 10 value.natAbs

def Number.render : Number → List Char
  | .integer value => renderInteger value
  | .float value => floatLayout.render value

def hexDigit (value : Nat) : Char :=
  if value < 10 then Char.ofNat (48 + value) else Char.ofNat (87 + value)

/-- How one character stands inside a quoted text. -/
def escape (letter : Char) : List Char :=
  if letter = '"' then ['\\', '"']
  else if letter = '\\' then ['\\', '\\']
  else if letter = '\x08' then ['\\', 'b']
  else if letter = '\t' then ['\\', 't']
  else if letter = '\n' then ['\\', 'n']
  else if letter = '\x0c' then ['\\', 'f']
  else if letter = '\r' then ['\\', 'r']
  else if letter.toNat < 32 then
    ['\\', 'u', '0', '0', hexDigit (letter.toNat / 16),
      hexDigit (letter.toNat % 16)]
  else [letter]

def quote (text : List Char) : List Char :=
  '"' :: (text.flatMap escape ++ ['"'])

mutual

def Value.render : Value → List Char
  | .null => ['n', 'u', 'l', 'l']
  | .boolean true => ['t', 'r', 'u', 'e']
  | .boolean false => ['f', 'a', 'l', 's', 'e']
  | .number value => value.render
  | .text value => quote value.toList
  | .list items => '[' :: (renderItems items ++ [']'])
  | .object members => '{' :: (renderMembers members ++ ['}'])
termination_by structural value => value

def renderItems : List Value → List Char
  | [] => []
  | [item] => item.render
  | item :: rest => item.render ++ ',' :: renderItems rest
termination_by structural items => items

/-- Members parted by commas. -/
def renderMembers : List (String × Value) → List Char
  | [] => []
  | [(name, value)] => quote name.toList ++ ':' :: value.render
  | (name, value) :: rest =>
      quote name.toList ++ ':' :: (value.render ++ ',' :: renderMembers rest)
termination_by structural members => members

end

def Value.compact (value : Value) : String :=
  String.ofList value.render

end Switchboard.Json
