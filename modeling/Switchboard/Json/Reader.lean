import Switchboard.Json.Numeral
import Switchboard.Json.Quotation

/-!
# Reading JSON

`readValue` reads one value from the front of a text and `parse` a whole
document.  Arrays and objects may stand in one another up to `nestingLimit`
levels.  Every call takes at least one character or ends within two further
calls, so twice the length of the text bounds the number of calls.
-/

namespace Switchboard.Json

/-- How many arrays and objects may be open at once. -/
def nestingLimit : Nat := 127

def isSpace (letter : Char) : Bool :=
  letter = ' ' || letter = '\n' || letter = '\t' || letter = '\r'

/-- The text behind leading blanks. -/
def skipSpaces (text : List Char) : List Char :=
  text.dropWhile isSpace

/-- Reads the rest of a word whose first letter has been read. -/
def readWord : List Char → List Char → Except Fault (List Char)
  | [], rest => .ok rest
  | _ :: _, [] => .error (.reading .endInValue [])
  | wanted :: more, letter :: rest =>
      if letter = wanted then
        readWord more rest
      else
        .error (.facing .wordExpected (letter :: rest))

def readColon (text : List Char) : Except Fault (List Char) :=
  match skipSpaces text with
  | [] => .error (.facing .endInObject [])
  | ':' :: rest => .ok rest
  | other => .error (.facing .colonExpected other)

/-- Whether a text begins a number. -/
def startsNumber (letter : Char) : Bool :=
  letter = '-' || letter.isDigit

mutual

/-- Reads one value, with room for so many further levels. -/
def readValue (calls : Nat) (room : Nat) (text : List Char) :
    Except Fault (Value × List Char) :=
  match calls with
  | 0 => .error (.facing .nestedTooDeep text)
  | calls + 1 =>
      match skipSpaces text with
      | [] => .error (.facing .endInValue [])
      | '"' :: rest => do
          let (content, left) ← readQuoted [] rest
          pure (.text content, left)
      | '[' :: rest =>
          match room with
          | 0 => .error (.facing .nestedTooDeep ('[' :: rest))
          | room + 1 => readItems calls room true [] rest
      | '\x7b' :: rest =>
          match room with
          | 0 => .error (.facing .nestedTooDeep ('\x7b' :: rest))
          | room + 1 => readMembers calls room true [] rest
      | letter :: rest =>
          if startsNumber letter then do
            let (value, left) ← readNumber (letter :: rest)
            pure (.number value, left)
          else if letter = 'n' then do
            let left ← readWord ['u', 'l', 'l'] rest
            pure (.null, left)
          else if letter = 't' then do
            let left ← readWord ['r', 'u', 'e'] rest
            pure (.boolean true, left)
          else if letter = 'f' then do
            let left ← readWord ['a', 'l', 's', 'e'] rest
            pure (.boolean false, left)
          else
            .error (.facing .valueExpected (letter :: rest))

/-- Reads the elements of an array up to its bracket.  `taken` holds those
read so far, the last one first. -/
def readItems (calls : Nat) (room : Nat) (first : Bool) (taken : List Value)
    (text : List Char) : Except Fault (Value × List Char) :=
  match calls with
  | 0 => .error (.facing .nestedTooDeep text)
  | calls + 1 =>
      match skipSpaces text with
      | [] => .error (.facing .endInList [])
      | ']' :: rest => .ok (.list taken.reverse, rest)
      | letter :: rest =>
          if first then do
            let (item, left) ← readValue calls room (letter :: rest)
            readItems calls room false (item :: taken) left
          else if letter = ',' then
            match skipSpaces rest with
            | ']' :: behind => .error (.facing .trailingComma (']' :: behind))
            | next => do
                let (item, left) ← readValue calls room next
                readItems calls room false (item :: taken) left
          else
            .error (.facing .listDelimiterExpected (letter :: rest))

def readMembers (calls : Nat) (room : Nat) (first : Bool) (taken : Members)
    (text : List Char) : Except Fault (Value × List Char) :=
  match calls with
  | 0 => .error (.facing .nestedTooDeep text)
  | calls + 1 =>
      match skipSpaces text with
      | [] => .error (.facing .endInObject [])
      | '\x7d' :: rest => .ok (.object taken, rest)
      | letter :: rest =>
          if first then
            readMember calls room taken (letter :: rest)
          else if letter = ',' then
            match skipSpaces rest with
            | [] => .error (.facing .endInValue [])
            | '\x7d' :: behind =>
                .error (.facing .trailingComma ('\x7d' :: behind))
            | next => readMember calls room taken next
          else
            .error (.facing .objectDelimiterExpected (letter :: rest))

/-- Reads one member and those behind it. -/
def readMember (calls : Nat) (room : Nat) (taken : Members)
    (text : List Char) : Except Fault (Value × List Char) :=
  match calls with
  | 0 => .error (.facing .nestedTooDeep text)
  | calls + 1 =>
      match text with
      | '"' :: rest => do
          let (name, behindName) ← readQuoted [] rest
          let behindColon ← readColon behindName
          let (value, left) ← readValue calls room behindColon
          readMembers calls room false (Members.insert name value taken) left
      | other => .error (.facing .nameExpected other)

end

/-- A bound on the calls that reading a text can take. -/
def callBound (text : List Char) : Nat :=
  2 * text.length + 2

/-- Requires that only blanks are left. -/
def requireEnd (text : List Char) : Except Fault Unit :=
  match skipSpaces text with
  | [] => .ok ()
  | other => .error (.facing .trailingCharacters other)

/-- Reads a whole document with a reader of its front. -/
def readDocument {α : Type}
    (read : List Char → Except Fault (α × List Char))
    (text : String) : Except Complaint α :=
  let letters := text.toList
  let result : Except Fault α := do
    let (value, left) ← read letters
    requireEnd left
    pure value
  result.mapError (·.locate letters)

def parse (text : String) : Except Complaint Value :=
  readDocument (fun letters =>
    readValue (callBound letters) nestingLimit letters) text

end Switchboard.Json
