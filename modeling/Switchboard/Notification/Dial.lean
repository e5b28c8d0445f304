import Switchboard.Json.Shape
import Switchboard.Notification.Event

/-!
# Casting parameters

Five texts that come with a casting event.  Reading is lenient: a value that
is no text stands for its compact JSON, and `null` for an absent member.
-/

namespace Switchboard

structure DialParams where
  appName : String := ""
  appId : String := ""
  payload : Option String := none
  query : Option String := none
  addDataUrl : Option String := none
  deriving Repr, DecidableEq

namespace DialParams

/-- The text that a member's value stands for. -/
def fieldText : Json.Value → Option String
  | .null => none
  | .text content => some content
  | other => some other.compact

/-- What a member of the given name does to the parameters; other names do
nothing. -/
def setMember (params : DialParams) (name : String)
    (value : Json.Value) : DialParams :=
  let text := fieldText value
  if name = "applicationName" then
    { params with appName := text.getD "" }
  else if name = "applicationId" then
    { params with appId := text.getD "" }
  else if name = "strPayLoad" then
    { params with payload := text }
  else if name = "strQuery" then
    { params with query := text }
  else if name = "strAddDataUrl" then
    { params with addDataUrl := text }
  else
    params

/-- The parameters in the members of an object. -/
def ofMembers (members : Json.Members) : DialParams :=
  members.foldl (fun params member => params.setMember member.1 member.2) {}

/-- The member names in the order in which they are written. -/
def memberNames : List String :=
  ["applicationName", "applicationId", "strPayLoad", "strQuery",
    "strAddDataUrl"]

def shape : Json.Shape DialParams where
  title := "struct DialParams"
  start := {}
  fields := memberNames.map fun name =>
    { name := name
      read := fun text => do
        let (value, left) ← Json.readInner text
        pure (fun params => params.setMember name value, left) }

/-- Reads the parameters from a value: an object, whose names are all different,
or a list of values in the order of the names. -/
def ofValue : Json.Value → Except Json.Cause DialParams
  | .object members => .ok (ofMembers members)
  | .list items =>
      if items.length ≤ memberNames.length then
        .ok (ofMembers (memberNames.zip items))
      else
        .error (.tooManyElements items.length)
  | other => .error (.wrongType (.ofValue other) shape.title)

def parse (text : String) : Except Json.Complaint DialParams :=
  shape.parse text

/-- The members that the parameters are written as.  An absent text is left
out. -/
def toMembers (params : DialParams) : List (String × Json.Value) :=
  let optional := fun (name : String) (text : Option String) =>
    text.toList.map fun content => (name, Json.Value.text content)
  [("applicationName", .text params.appName),
    ("applicationId", .text params.appId)] ++
    optional "strPayLoad" params.payload ++
    optional "strQuery" params.query ++
    optional "strAddDataUrl" params.addDataUrl

def encode (params : DialParams) : String :=
  (Json.Value.object params.toMembers).compact

end DialParams

namespace DialEvent

/-- The events in the order in which they are listed to a reader. -/
def all : List DialEvent := [.hide, .launch, .resume, .stop, .state]

/-- The name of an event in JSON. -/
def variant : DialEvent → String
  | .hide => "Hide"
  | .launch => "Launch"
  | .resume => "Resume"
  | .stop => "Stop"
  | .state => "State"

/-- Reads the name of an event behind its opening quote. -/
def readVariant (text : List Char) :
    Except Json.Fault (DialEvent × List Char) := do
  let (name, left) ← Json.readQuoted [] text
  match all.find? (·.variant = name) with
  | some event => .ok (event, left)
  | none =>
      .error (.reading (.unknownVariant name (all.map variant)) left)

/-- Reads the `null` that an event has for a value. -/
def readNothing (text : List Char) : Except Json.Fault (List Char) :=
  match Json.skipSpaces text with
  | 'n' :: rest => Json.readWord ['u', 'l', 'l'] rest
  | other => .error (Json.mistyped "unit" other)

/-- Reads the name of the only member of an event in the form of an object,
where a closing brace stands for a missing value. -/
def readMemberName (text : List Char) :
    Except Json.Fault (DialEvent × List Char) :=
  match Json.skipSpaces text with
  | [] => .error (.facing .endInValue [])
  | '"' :: rest => readVariant rest
  | '\x7d' :: rest => .error (.facing .valueExpected ('\x7d' :: rest))
  | other => .error (.facing .nameExpected other)

/-- Reads an event: its name, or an object with its name as the only member
and `null` as the value. -/
def read (text : List Char) :
    Except Json.Fault (DialEvent × List Char) :=
  match Json.skipSpaces text with
  | [] => .error (.facing .endInValue [])
  | '"' :: rest => readVariant rest
  | '\x7b' :: rest => do
      let (event, behindName) ← readMemberName rest
      let behindColon ← Json.readColon behindName
      let left ← readNothing behindColon
      match Json.skipSpaces left with
      | [] => .error (.reading .endInObject [])
      | '\x7d' :: behind => .ok (event, behind)
      | other => .error (.reading .valueExpected other)
  | other => .error (.facing .valueExpected other)

def parse (text : String) : Except Json.Complaint DialEvent :=
  Json.readDocument read text

def encode (event : DialEvent) : String :=
  (Json.Value.text event.variant).compact

end DialEvent

end Switchboard
