import Switchboard.Json.Description
import Switchboard.Json.Reader
import Switchboard.Request.Id

/-!
# Requests and replies

A request is written as one JSON object with the members `id`, `jsonrpc`,
`method` and, if it has any, `params`.  A reply carries its value in the member
`result`.  Without one it is refused, with the member `error` told if there is
one.
-/

namespace Switchboard

structure Request where
  id : RequestId
  method : String
  params : Option Json.Value := none

/-- Whether events are asked for or called off. -/
inductive Interest where
  | register
  | unregister
  deriving Repr, DecidableEq

def Interest.suffix : Interest → String
  | .register => "register"
  | .unregister => "unregister"

namespace Request

/-- The request that asks for an event of a service, or calls it off.  The
service tags the event with its own id, sent as a text. -/
def subscription (interest : Interest) (id : RequestId)
    (callsign event : String) (eventId : RequestId) : Request where
  id := id
  method := callsign ++ interest.suffix
  params := some (.object
    (Json.Members.insert "event" (.text event)
      (Json.Members.insert "id"
        (.text (String.ofList (Json.renderInteger eventId.toInt))) [])))

def toValue (request : Request) : Json.Value :=
  let fixed :=
    Json.Members.insert "jsonrpc" (.text "2.0")
      (Json.Members.insert "id" (.number (.integer request.id.toInt))
        (Json.Members.insert "method" (.text request.method) []))
  .object
    (match request.params with
    | none => fixed
    | some params => Json.Members.insert "params" params fixed)

def encode (request : Request) : String :=
  request.toValue.compact

def describe (request : Request) : String :=
  let params :=
    match request.params with
    | none => "None"
    | some value => "Some(" ++ value.describe ++ ")"
  "JsonRpcRequest \x7b id: " ++ toString request.id.toInt ++ ", method: " ++
    String.ofList (Text.quoted request.method.toList) ++ ", params: " ++
    params ++ " \x7d"

end Request

/-- Why a reply has no value. -/
inductive MalformedReply where
  | unreadable (complaint : Json.Complaint)
  | errorReply (error : Json.Value)
  | noResult
  deriving Repr

def MalformedReply.message : MalformedReply → String
  | .unreadable complaint => complaint.message
  | .errorReply error => "error reply: " ++ error.compact
  | .noResult => "reply has no result member"

/-- The value that a reply frame carries. -/
def replyValue (frame : String) : Except MalformedReply Json.Value :=
  match Json.parse frame with
  | .error complaint => .error (.unreadable complaint)
  | .ok value =>
      let members := value.members?.getD []
      match Json.Members.find? "result" members with
      | some result => .ok result
      | none =>
          match Json.Members.find? "error" members with
          | some error => .error (.errorReply error)
          | none => .error .noResult

end Switchboard
