import Switchboard.Frame
import Switchboard.Notification.Dial

/-!
# Notifications

A notification has a name and, if its `params` are an object, parameters.
-/

namespace Switchboard

structure Notification where
  name : String
  params : Option Json.Members
  deriving Repr

namespace Notification

def parse (raw : String) : Except FrameError Notification := do
  let members ← Frame.members raw
  match Json.Members.find? "method" members with
  | some (.text name) =>
      let params :=
        (Json.Members.find? "params" members).bind Json.Value.members?
      .ok { name := name, params := params }
  | _ => .error .unroutable

/-- The compact text of the parameters, with none read as no members. -/
def paramsText (notification : Notification) : String :=
  (Json.Value.object (notification.params.getD [])).compact

/-- The casting parameters, if they can be read. -/
def dialParams (notification : Notification) : Option DialParams :=
  notification.params.bind fun members =>
    (DialParams.ofValue (.object members)).toOption

/-- Parameters are read from every object. -/
theorem dialParams_eq (notification : Notification) :
    notification.dialParams =
      notification.params.map DialParams.ofMembers := by
  rw [dialParams, Option.map_eq_bind]
  rfl

end Notification

end Switchboard
