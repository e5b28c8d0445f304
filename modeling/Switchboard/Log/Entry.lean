/-!
# Log entries

An entry has a level, a message and named fields.
-/

namespace Switchboard.Log

/-- How grave an entry is, the gravest first. -/
inductive Level where
  | error
  | warn
  | info
  | debug
  | trace
  deriving Repr, DecidableEq

namespace Level

def label : Level → String
  | .error => "ERROR"
  | .warn => "WARN"
  | .info => "INFO"
  | .debug => "DEBUG"
  | .trace => "TRACE"

/-- One for the gravest level, five for the least grave one. -/
def rank : Level → Nat
  | .error => 1
  | .warn => 2
  | .info => 3
  | .debug => 4
  | .trace => 5

end Level

inductive Field where
  | text (value : String)
  | number (value : Int)
  | flag (value : Bool)
  deriving Repr, DecidableEq

structure Entry where
  level : Level
  message : String
  fields : List (String × Field) := []
  deriving Repr, DecidableEq

namespace Entry

def fieldNames (entry : Entry) : List String :=
  "message" :: entry.fields.map (·.1)

/-- How many lines an entry takes when it is written for people.  Texts are
written as they are, line feeds included. -/
def lineCount (entry : Entry) : Nat :=
  entry.fields.foldl
    (fun count field =>
      match field.2 with
      | .text content => count + content.toList.count '\n'
      | _ => count)
    1

end Entry

end Switchboard.Log
