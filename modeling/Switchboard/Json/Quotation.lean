import Switchboard.Json.Fault

/-!
# Reading quoted texts

A quoted text holds characters, two-letter escapes, and code units written
with four hexadecimal digits.  Units outside the basic plane come in pairs.
-/

namespace Switchboard.Json

def hexValue? (letter : Char) : Option Nat :=
  if letter.isDigit then
    some (letter.toNat - '0'.toNat)
  else if 'a' ≤ letter ∧ letter ≤ 'f' then
    some (letter.toNat - 'a'.toNat + 10)
  else if 'A' ≤ letter ∧ letter ≤ 'F' then
    some (letter.toNat - 'A'.toNat + 10)
  else
    none

/-- The code unit of four hexadecimal digits. -/
def unitValue? (first second third fourth : Char) : Option Nat := do
  let high ← hexValue? first
  let upper ← hexValue? second
  let lower ← hexValue? third
  let low ← hexValue? fourth
  pure (((high * 16 + upper) * 16 + lower) * 16 + low)

/-- The fault of a text in which four hexadecimal digits were expected. -/
def unitFault (text : List Char) : Fault :=
  if Text.byteCount text < 4 then
    .reading .endInText []
  else
    ⟨.invalidEscape, Text.byteCount text - 4⟩

/-- The character that an escape letter other than `u` stands for. -/
def escaped? (letter : Char) : Option Char :=
  match letter with
  | '"' => some '"'
  | '\\' => some '\\'
  | '/' => some '/'
  | 'b' => some '\x08'
  | 'f' => some '\x0c'
  | 'n' => some '\n'
  | 'r' => some '\r'
  | 't' => some '\t'
  | _ => none

/-- A code unit that opens a pair. -/
def isLeading (unit : Nat) : Bool :=
  0xD800 ≤ unit && unit ≤ 0xDBFF

/-- A code unit that closes a pair. -/
def isTrailing (unit : Nat) : Bool :=
  0xDC00 ≤ unit && unit ≤ 0xDFFF

/-- The code point of a pair of units. -/
def pairValue (leading trailing : Nat) : Nat :=
  (leading - 0xD800) * 0x400 + (trailing - 0xDC00) + 0x10000

/-- Reads a text behind its opening quote.  `taken` holds the characters read
so far, the last one first. -/
def readQuoted (taken : List Char) :
    List Char → Except Fault (String × List Char)
  | [] => .error (.reading .endInText [])
  | '"' :: rest => .ok (String.ofList taken.reverse, rest)
  | '\\' :: [] => .error (.reading .endInText [])
  | '\\' :: 'u' :: text =>
      match text with
      | first :: second :: third :: fourth :: rest =>
          match unitValue? first second third fourth with
          | none => .error (unitFault text)
          | some unit =>
              if isTrailing unit then
                .error (.reading .loneSurrogate rest)
              else if isLeading unit then
                match rest with
                | [] => .error (.reading .endInText [])
                | '\\' :: [] => .error (.reading .endInText [])
                | '\\' :: 'u' :: paired =>
                    match paired with
                    | fifth :: sixth :: seventh :: eighth :: behind =>
                        match unitValue? fifth sixth seventh eighth with
                        | none => .error (unitFault paired)
                        | some second =>
                            if isTrailing second then
                              readQuoted
                                (Char.ofNat (pairValue unit second) :: taken)
                                behind
                            else
                              .error (.reading .loneSurrogate behind)
                    | short => .error (unitFault short)
                | '\\' :: other => .error (.facing .surrogatePairBroken other)
                | other => .error (.facing .surrogatePairBroken other)
              else
                readQuoted (Char.ofNat unit :: taken) rest
      | short => .error (unitFault short)
  | '\\' :: letter :: rest =>
      match escaped? letter with
      | some meant => readQuoted (meant :: taken) rest
      | none => .error (.facing .invalidEscape (letter :: rest))
  | letter :: rest =>
      if letter.toNat < 32 then
        .error (.reading .controlCharacter rest)
      else
        readQuoted (letter :: taken) rest

/-- Passes over a text behind its opening quote, looking only at its grammar:
code units need not pair. -/
def skipQuoted : List Char → Except Fault (List Char)
  | [] => .error (.reading .endInText [])
  | '"' :: rest => .ok rest
  | '\\' :: [] => .error (.reading .endInText [])
  | '\\' :: 'u' :: text =>
      match text with
      | first :: second :: third :: fourth :: rest =>
          match unitValue? first second third fourth with
          | none => .error (unitFault text)
          | some _ => skipQuoted rest
      | short => .error (unitFault short)
  | '\\' :: letter :: rest =>
      match escaped? letter with
      | some _ => skipQuoted rest
      | none => .error (.facing .invalidEscape (letter :: rest))
  | letter :: rest =>
      if letter.toNat < 32 then
        .error (.reading .controlCharacter (letter :: rest))
      else
        skipQuoted rest

end Switchboard.Json
