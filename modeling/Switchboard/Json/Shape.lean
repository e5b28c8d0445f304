import Switchboard.Json.Skim

/-!
# Reading records from JSON

A `Shape` lists the fields of a record.  A record is read from an object,
whose unknown members are passed over, or from an array that gives the fields
in order; a field that is missing keeps its starting value.
-/

namespace Switchboard.Json

/-- The fault of a value of the wrong type.  A scalar is read first, so a
malformed one is told as such; nothing of an array or object is read. -/
def mistyped (wanted : String) (text : List Char) : Fault :=
  let told := fun (read : Except Fault (Found × List Char)) =>
    match read with
    | .error fault => fault
    | .ok (found, left) => .reading (.wrongType found wanted) left
  match skipSpaces text with
  | [] => .facing .endInValue []
  | '"' :: rest =>
      told ((readQuoted [] rest).map fun (content, left) =>
        (.text content, left))
  | '[' :: rest => .reading (.wrongType .sequence wanted) ('[' :: rest)
  | '\x7b' :: rest => .reading (.wrongType .map wanted) ('\x7b' :: rest)
  | letter :: rest =>
      if startsNumber letter then
        told ((readNumber (letter :: rest)).map fun (value, left) =>
          match value with
          | .integer value => (.integer value, left)
          | .float value => (.float value, left))
      else if letter = 'n' then
        told ((readWord ['u', 'l', 'l'] rest).map fun left => (.null, left))
      else if letter = 't' then
        told ((readWord ['r', 'u', 'e'] rest).map fun left =>
          (.boolean true, left))
      else if letter = 'f' then
        told ((readWord ['a', 'l', 's', 'e'] rest).map fun left =>
          (.boolean false, left))
      else
        .facing .valueExpected (letter :: rest)

/-- Reads an unsigned 64-bit integer. -/
def readUnsigned64 (text : List Char) :
    Except Fault (UInt64 × List Char) :=
  match skipSpaces text with
  | [] => .error (.facing .endInValue [])
  | letter :: rest =>
      if startsNumber letter then do
        let (value, left) ← readNumber (letter :: rest)
        match value with
        | .integer value =>
            if 0 ≤ value then
              .ok (UInt64.ofNat value.toNat, left)
            else
              .error (.reading (.wrongValue (.integer value) "u64") left)
        | .float value =>
            .error (.reading (.wrongType (.float value) "u64") left)
      else
        .error (mistyped "u64" (letter :: rest))

/-- Reads a value that stands inside one array or object. -/
def readInner (text : List Char) : Except Fault (Value × List Char) :=
  readValue (callBound text) (nestingLimit - 1) text

/-- One field of a record: its name and how its value changes the record. -/
structure Field (σ : Type) where
  name : String
  read : List Char → Except Fault ((σ → σ) × List Char)

/-- The fields of a record in the order in which an array gives them. -/
structure Shape (σ : Type) where
  title : String
  start : σ
  fields : List (Field σ)

namespace Shape

variable {σ : Type}

/-- Reads the bracket behind the last element that a record takes. -/
def closeList (text : List Char) : Except Fault (List Char) :=
  match skipSpaces text with
  | [] => .error (.facing .endInList [])
  | ']' :: rest => .ok rest
  | ',' :: rest =>
      match skipSpaces rest with
      | ']' :: behind => .error (.facing .trailingComma (']' :: behind))
      | other => .error (.facing .trailingCharacters other)
  | other => .error (.facing .trailingCharacters other)

/-- Reads fields from the elements of an array. -/
def readElements (record : σ) (first : Bool) :
    List (Field σ) → List Char → Except Fault (σ × List Char)
  | [], text => do
      let left ← closeList text
      pure (record, left)
  | field :: fields, text =>
      match skipSpaces text with
      | [] => .error (.facing .endInList [])
      | ']' :: rest => .ok (record, rest)
      | letter :: rest =>
          if first then do
            let (change, left) ← field.read (letter :: rest)
            readElements (change record) false fields left
          else if letter = ',' then
            match skipSpaces rest with
            | [] => .error (.facing .endInValue [])
            | ']' :: behind => .error (.facing .trailingComma (']' :: behind))
            | next => do
                let (change, left) ← field.read next
                readElements (change record) false fields left
          else
            .error (.facing .listDelimiterExpected (letter :: rest))

/-- The fault of a member given twice.  It is told where the object could
close: behind the blanks that follow the name, and behind the brace if one
follows these. -/
def repeated (name : String) (text : List Char) : Fault :=
  match skipSpaces text with
  | '\x7d' :: rest => .reading (.duplicateField name) rest
  | other => .reading (.duplicateField name) other

/-- Reads one member behind the quote that opens its name, giving the record
and the names of the fields read so far. -/
def readMember (fields : List (Field σ)) (record : σ) (seen : List String)
    (text : List Char) : Except Fault ((σ × List String) × List Char) := do
  let (name, behindName) ← readQuoted [] text
  match fields.find? (·.name = name) with
  | none =>
      let behindColon ← readColon behindName
      let left ← skip behindColon
      pure ((record, seen), left)
  | some field =>
      if name ∈ seen then
        .error (repeated name behindName)
      else
        let behindColon ← readColon behindName
        let (change, left) ← field.read behindColon
        pure ((change record, name :: seen), left)

/-- Reads fields from the members of an object.  Every member takes at least
one character. -/
def readMembers (fields : List (Field σ)) (calls : Nat) (record : σ)
    (seen : List String) (first : Bool) (text : List Char) :
    Except Fault (σ × List Char) :=
  match calls with
  | 0 => .error (.facing .endInObject text)
  | calls + 1 =>
      match skipSpaces text with
      | [] => .error (.facing .endInObject [])
      | '\x7d' :: rest => .ok (record, rest)
      | letter :: rest => do
          let name ←
            if first then
              pure (letter :: rest)
            else if letter = ',' then
              match skipSpaces rest with
              | [] => .error (.facing .endInValue [])
              | '\x7d' :: behind =>
                  .error (.facing .trailingComma ('\x7d' :: behind))
              | next => pure next
            else
              .error (.facing .objectDelimiterExpected (letter :: rest))
          match name with
          | '"' :: behind =>
              let ((record, seen), left) ←
                readMember fields record seen behind
              readMembers fields calls record seen false left
          | other => .error (.facing .nameExpected other)

def read (shape : Shape σ) (text : List Char) :
    Except Fault (σ × List Char) :=
  match skipSpaces text with
  | [] => .error (.facing .endInValue [])
  | '[' :: rest => readElements shape.start true shape.fields rest
  | '\x7b' :: rest =>
      readMembers shape.fields (rest.length + 1) shape.start [] true rest
  | other => .error (mistyped shape.title other)

def parse (shape : Shape σ) (text : String) : Except Complaint σ :=
  readDocument shape.read text

end Shape

end Switchboard.Json
