import Switchboard.Json.Reader
import Switchboard.Request.Id

/-!
# Telling frames apart

A frame with a member `id` is a reply, whatever else it holds.  One without it
is a notification if its `method` is a text.
-/

namespace Switchboard

/-- Why a frame goes nowhere. -/
inductive FrameError where
  | unreadable (complaint : Json.Complaint)
  | notAnObject
  | invalidId (id : Json.Value)
  | unroutable
  deriving Repr

def FrameError.message : FrameError → String
  | .unreadable complaint => "invalid JSON: " ++ complaint.message
  | .notAnObject => "frame is not a JSON object"
  | .invalidId id => "non-numeric id: " ++ id.compact
  | .unroutable => "frame has neither id nor method"

inductive Frame where
  | reply (id : RequestId)
  | notification
  deriving Repr, DecidableEq

def Frame.members (raw : String) : Except FrameError Json.Members :=
  match Json.parse raw with
  | .error complaint => .error (.unreadable complaint)
  | .ok (.object members) => .ok members
  | .ok _ => .error .notAnObject

def Frame.read (raw : String) : Except FrameError Frame := do
  let members ← Frame.members raw
  match Json.Members.find? "id" members with
  | some id =>
      match RequestId.ofValue? id with
      | some id => .ok (.reply id)
      | none => .error (.invalidId id)
  | none =>
      match Json.Members.find? "method" members with
      | some (.text _) => .ok .notification
      | _ => .error .unroutable

end Switchboard
