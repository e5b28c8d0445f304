import Switchboard.Json.Writer
import Switchboard.Text.Bytes
import Switchboard.Text.Quoted

/-!
# What can be wrong with a JSON text

A `Cause` says what is wrong and a `Fault` where: it counts the bytes of the
text that lie behind the place, which a reader knows without having seen the
beginning.  A `Complaint` is the fault told in lines and columns.
-/

namespace Switchboard.Json

/-- What stands where something else was expected. -/
inductive Found where
  | integer (value : Int)
  | float (value : Float)
  | boolean (value : Bool)
  | text (value : String)
  | null
  | map
  | sequence
  deriving Repr, DecidableEq

/-- The name of what was found, with its value if it is a scalar. -/
def Found.describe : Found → String
  | .integer value => "integer `" ++ String.ofList (renderInteger value) ++ "`"
  | .float value =>
      "floating point `" ++ String.ofList (floatLayout.render value) ++ "`"
  | .boolean true => "boolean `true`"
  | .boolean false => "boolean `false`"
  | .text value => "string " ++ String.ofList (Text.quoted value.toList)
  | .null => "null"
  | .map => "map"
  | .sequence => "sequence"

/-- What stands where a value does. -/
def Found.ofValue : Value → Found
  | .null => .null
  | .boolean value => .boolean value
  | .number (.integer value) => .integer value
  | .number (.float value) => .float value
  | .text content => .text content
  | .list _ => .sequence
  | .object _ => .map

/-- What is wrong with a text. -/
inductive Cause where
  | endInValue
  | endInText
  | endInList
  | endInObject
  | valueExpected
  | wordExpected
  | colonExpected
  | listDelimiterExpected
  | objectDelimiterExpected
  | nameExpected
  | trailingComma
  | trailingCharacters
  | invalidNumber
  | numberOutOfRange
  | invalidEscape
  | controlCharacter
  | loneSurrogate
  | surrogatePairBroken
  | nestedTooDeep
  | duplicateField (name : String)
  | wrongType (found : Found) (wanted : String)
  | wrongValue (found : Found) (wanted : String)
  | unknownVariant (name : String) (known : List String)
  | tooManyElements (count : Nat)
  deriving Repr, DecidableEq

def Cause.message : Cause → String
  | .endInValue => "EOF while parsing a value"
  | .endInText => "EOF while parsing a string"
  | .endInList => "EOF while parsing a list"
  | .endInObject => "EOF while parsing an object"
  | .valueExpected => "expected value"
  | .wordExpected => "expected ident"
  | .colonExpected => "expected `:`"
  | .listDelimiterExpected => "expected `,` or `]`"
  | .objectDelimiterExpected => "expected `,` or `\x7d`"
  | .nameExpected => "key must be a string"
  | .trailingComma => "trailing comma"
  | .trailingCharacters => "trailing characters"
  | .invalidNumber => "invalid number"
  | .numberOutOfRange => "number out of range"
  | .invalidEscape => "invalid escape"
  | .controlCharacter =>
      "control character (\\u0000-\\u001F) found while parsing a string"
  | .loneSurrogate => "lone leading surrogate in hex escape"
  | .surrogatePairBroken => "unexpected end of hex escape"
  | .nestedTooDeep => "recursion limit exceeded"
  | .duplicateField name => "duplicate field `" ++ name ++ "`"
  | .wrongType found wanted =>
      "invalid type: " ++ found.describe ++ ", expected " ++ wanted
  | .wrongValue found wanted =>
      "invalid value: " ++ found.describe ++ ", expected " ++ wanted
  | .unknownVariant name known =>
      "unknown variant `" ++ name ++ "`, expected one of " ++
        ", ".intercalate (known.map fun variant => "`" ++ variant ++ "`")
  | .tooManyElements count =>
      "invalid length " ++ toString count ++
        ", expected fewer elements in array"

/-- A cause and how many bytes of the text lie behind its place. -/
structure Fault where
  cause : Cause
  bytesBehind : Nat
  deriving Repr, DecidableEq

/-- A fault seen once everything up to `rest` has been read. -/
def Fault.reading (cause : Cause) (rest : List Char) : Fault :=
  ⟨cause, Text.byteCount rest⟩

/-- A fault seen in the first byte of `rest`, or at the end of the text. -/
def Fault.facing (cause : Cause) (rest : List Char) : Fault :=
  ⟨cause, Text.byteCount rest - 1⟩

/-- A cause and its place in lines and columns. -/
structure Complaint where
  cause : Cause
  line : Nat
  column : Nat
  deriving Repr, DecidableEq

def Fault.locate (fault : Fault) (text : List Char) : Complaint :=
  let place := Text.placeAfter (Text.byteCount text - fault.bytesBehind) text
  ⟨fault.cause, place.1, place.2⟩

def Complaint.message (complaint : Complaint) : String :=
  complaint.cause.message ++ " at line " ++ toString complaint.line ++
    " column " ++ toString complaint.column

end Switchboard.Json
