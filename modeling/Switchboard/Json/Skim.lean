import Switchboard.Json.Reader

/-!
# Passing over JSON

A value that nobody asks for is passed over with a look at its grammar only:
its numbers may be out of range, its code units need not pair, and there is no
limit on nesting.
-/

namespace Switchboard.Json

def skipDigits : List Char → Except Fault (List Char)
  | letter :: rest =>
      if letter.isDigit then
        .ok (rest.dropWhile Char.isDigit)
      else
        .error (.facing .invalidNumber (letter :: rest))
  | [] => .error (.facing .invalidNumber [])

/-- Passes over an optional exponent. -/
def skipExponent : List Char → Except Fault (List Char)
  | letter :: rest =>
      if letter = 'e' ∨ letter = 'E' then
        match rest with
        | '+' :: digits => skipDigits digits
        | '-' :: digits => skipDigits digits
        | digits => skipDigits digits
      else
        .ok (letter :: rest)
  | [] => .ok []

/-- Passes over an optional fraction and an optional exponent. -/
def skipNumberEnd : List Char → Except Fault (List Char)
  | '.' :: rest => do
      let left ← skipDigits rest
      skipExponent left
  | rest => skipExponent rest

def skipUnsigned : List Char → Except Fault (List Char)
  | '0' :: rest =>
      if startsWithDigit rest then
        .error (.facing .invalidNumber rest)
      else
        skipNumberEnd rest
  | text => do
      let left ← skipDigits text
      skipNumberEnd left

def skipNumber : List Char → Except Fault (List Char)
  | '-' :: rest => skipUnsigned rest
  | text => skipUnsigned text

/-- A container that is still open. -/
inductive Bracket where
  | list
  | object
  deriving Repr, DecidableEq

def Bracket.closing : Bracket → Char
  | .list => ']'
  | .object => '\x7d'

/-- The fault of a text that ends inside a container. -/
def Bracket.endCause : Bracket → Cause
  | .list => .endInList
  | .object => .endInObject

/-- The fault of a text that neither goes on with a comma nor closes. -/
def Bracket.delimiterCause : Bracket → Cause
  | .list => .listDelimiterExpected
  | .object => .objectDelimiterExpected

/-- Passes over the name and the colon of a member; an element has neither. -/
def skipName (bracket : Bracket) (text : List Char) :
    Except Fault (List Char) :=
  match bracket with
  | .list => .ok text
  | .object =>
      match skipSpaces text with
      | [] => .error (.facing .endInObject [])
      | '"' :: rest => do
          let behindName ← skipQuoted rest
          readColon behindName
      | other => .error (.facing .nameExpected other)

mutual

/-- Passes over a value inside the containers that are open, and over what is
left of those. -/
def skipValue (calls : Nat) (opened : List Bracket) (text : List Char) :
    Except Fault (List Char) :=
  match calls with
  | 0 => .ok text
  | calls + 1 =>
      match skipSpaces text with
      | [] => .error (.facing .endInValue [])
      | '"' :: rest => do
          let left ← skipQuoted rest
          skipBehind calls opened left
      | '[' :: rest => skipInside calls .list opened rest
      | '\x7b' :: rest => skipInside calls .object opened rest
      | letter :: rest =>
          if startsNumber letter then do
            let left ← skipNumber (letter :: rest)
            skipBehind calls opened left
          else if letter = 'n' then do
            let left ← readWord ['u', 'l', 'l'] rest
            skipBehind calls opened left
          else if letter = 't' then do
            let left ← readWord ['r', 'u', 'e'] rest
            skipBehind calls opened left
          else if letter = 'f' then do
            let left ← readWord ['a', 'l', 's', 'e'] rest
            skipBehind calls opened left
          else
            .error (.facing .valueExpected (letter :: rest))

/-- Goes on behind an opening bracket. -/
def skipInside (calls : Nat) (bracket : Bracket) (opened : List Bracket)
    (text : List Char) : Except Fault (List Char) :=
  match calls with
  | 0 => .ok text
  | calls + 1 =>
      match skipSpaces text with
      | [] => .error (.facing bracket.endCause [])
      | letter :: rest =>
          if letter = bracket.closing then
            skipBehind calls opened rest
          else do
            let left ← skipName bracket (letter :: rest)
            skipValue calls (bracket :: opened) left

/-- Goes on behind a value. -/
def skipBehind (calls : Nat) (opened : List Bracket) (text : List Char) :
    Except Fault (List Char) :=
  match calls with
  | 0 => .ok text
  | calls + 1 =>
      match opened with
      | [] => .ok text
      | bracket :: outer =>
          match skipSpaces text with
          | [] => .error (.facing bracket.endCause [])
          | letter :: rest =>
              if letter = ',' then do
                let left ← skipName bracket rest
                skipValue calls (bracket :: outer) left
              else if letter = bracket.closing then
                skipBehind calls outer rest
              else
                .error (.facing bracket.delimiterCause (letter :: rest))

end

/-- Passes over one value at the front of a text. -/
def skip (text : List Char) : Except Fault (List Char) :=
  skipValue (callBound text) [] text

end Switchboard.Json
