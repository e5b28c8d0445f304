import Switchboard.Json.Fault

/-!
# Reading numbers

The digits of a number are gathered into a 64-bit significand.  Digits past
its range only count towards the power of ten, so a number with many digits
may differ from the nearest binary64 value in its last bit.
-/

namespace Switchboard.Json

def digitValue (letter : Char) : Nat :=
  letter.toNat - '0'.toNat

/-- Significands stay below this bound. -/
def significandBound : Nat := UInt64.size

/-- Written exponents stay below this bound. -/
def exponentBound : Nat := Nat.pow 2 31

/-- Adds digits to a number as long as it stays below a bound.  Gives the
number, how many digits it took, and the text that is left. -/
def takeDigits (bound : Nat) (value taken : Nat) :
    List Char → Nat × Nat × List Char
  | [] => (value, taken, [])
  | letter :: rest =>
      if letter.isDigit then
        let next := value * 10 + digitValue letter
        if next < bound then
          takeDigits bound next (taken + 1) rest
        else
          (value, taken, letter :: rest)
      else
        (value, taken, letter :: rest)

def startsWithDigit : List Char → Bool
  | letter :: _ => letter.isDigit
  | [] => false

/-- The binary64 value of `significand * 10 ^ exponent`.  Each step rounds: a
power of ten within range takes one multiplication or division, a smaller one
is reached by dividing by `1e308` first. -/
def scaleFloat (significand : Nat) (exponent : Int) : Option Float :=
  let start := Float.ofScientific significand false 0
  let power := fun (places : Int) => Float.ofScientific 1 false places.toNat
  if exponent > 308 then
    if significand = 0 then some start else none
  else if 0 ≤ exponent then
    let scaled := start * power exponent
    if scaled.isInf then none else some scaled
  else if -308 ≤ exponent then
    some (start / power (-exponent))
  else if -616 ≤ exponent then
    some (start / power 308 / power (-exponent - 308))
  else
    some 0

/-- The number with this sign, significand and power of ten. -/
def floatNumber (negative : Bool) (significand : Nat) (exponent : Int)
    (rest : List Char) : Except Fault (Number × List Char) :=
  match scaleFloat significand exponent with
  | none => .error (.reading .numberOutOfRange rest)
  | some value => .ok (.float (if negative then -value else value), rest)

/-- Reads the digits of an exponent behind its sign.  A written exponent out of
range makes the number zero, or too large to hold. -/
def readPower (negative : Bool) (significand : Nat) (start : Int)
    (negativeExponent : Bool) :
    List Char → Except Fault (Number × List Char)
  | [] => .error (.reading .endInValue [])
  | letter :: rest =>
      if letter.isDigit then
        let (written, _, left) :=
          takeDigits exponentBound (digitValue letter) 1 rest
        if startsWithDigit left then
          if significand ≠ 0 ∧ !negativeExponent then
            .error (.reading .numberOutOfRange (left.drop 1))
          else
            .ok (.float (if negative then -0.0 else 0.0),
              left.dropWhile Char.isDigit)
        else
          let shifted :=
            if negativeExponent then start - written else start + written
          let held :=
            max Int32.minValue.toInt (min shifted Int32.maxValue.toInt)
          floatNumber negative significand held left
      else
        .error (.facing .invalidNumber (letter :: rest))

/-- Reads behind `e`: an optional sign and digits. -/
def readExponent (negative : Bool) (significand : Nat) (start : Int) :
    List Char → Except Fault (Number × List Char)
  | '+' :: rest => readPower negative significand start false rest
  | '-' :: rest => readPower negative significand start true rest
  | rest => readPower negative significand start false rest

/-- Reads what may follow the digits of a binary64 number. -/
def readFloatEnd (negative : Bool) (significand : Nat) (exponent : Int) :
    List Char → Except Fault (Number × List Char)
  | 'e' :: rest => readExponent negative significand exponent rest
  | 'E' :: rest => readExponent negative significand exponent rest
  | rest => floatNumber negative significand exponent rest

/-- Reads behind a decimal point. -/
def readFraction (negative : Bool) (significand : Nat) (exponent : Int)
    (text : List Char) : Except Fault (Number × List Char) :=
  let (value, taken, left) :=
    takeDigits significandBound significand 0 text
  if startsWithDigit left then
    readFloatEnd negative value (exponent - taken)
      (left.dropWhile Char.isDigit)
  else if taken = 0 then
    match left with
    | [] => .error (.facing .endInValue [])
    | _ => .error (.facing .invalidNumber left)
  else
    readFloatEnd negative value (exponent - taken) left

/-- The number of a significand with no fraction and no exponent: an integer
if it fits 64 bits with its sign, and negative zero a binary64 value. -/
def wholeNumber (negative : Bool) (significand : Nat) : Number :=
  if !negative then
    .integer significand
  else if 0 < significand ∧ significand ≤ Nat.pow 2 63 then
    .integer (-significand)
  else
    .float (-(Float.ofScientific significand false 0))

/-- Reads what follows the whole digits of a number. -/
def readNumberEnd (negative : Bool) (significand : Nat) :
    List Char → Except Fault (Number × List Char)
  | '.' :: rest => readFraction negative significand 0 rest
  | 'e' :: rest => readExponent negative significand 0 rest
  | 'E' :: rest => readExponent negative significand 0 rest
  | rest => .ok (wholeNumber negative significand, rest)

def readUnsigned (negative : Bool) :
    List Char → Except Fault (Number × List Char)
  | [] => .error (.reading .endInValue [])
  | '0' :: rest =>
      if startsWithDigit rest then
        .error (.facing .invalidNumber rest)
      else
        readNumberEnd negative 0 rest
  | letter :: rest =>
      if letter.isDigit then
        let (value, _, left) :=
          takeDigits significandBound (digitValue letter) 1 rest
        if startsWithDigit left then
          let skipped := (left.takeWhile Char.isDigit).length
          match left.dropWhile Char.isDigit with
          | '.' :: fraction => readFraction negative value skipped fraction
          | behind => readFloatEnd negative value skipped behind
        else
          readNumberEnd negative value left
      else
        .error (.facing .invalidNumber (letter :: rest))

def readNumber : List Char → Except Fault (Number × List Char)
  | '-' :: rest => readUnsigned true rest
  | text => readUnsigned false text

end Switchboard.Json
