import Switchboard.Notification.Dial

/-!
# Listener slots

There is one slot for each group of events and one for the state of the
connection.  An `Invocation` is what the listener of a slot is called with.
-/

namespace Switchboard

inductive Slot where
  | dial
  | lifecycle
  | stateChange
  | connection
  deriving Repr, DecidableEq

def Slot.name : Slot → String
  | .dial => "dial"
  | .lifecycle => "lifecycle"
  | .stateChange => "state_change"
  | .connection => "connection"

inductive Invocation where
  | dial (event : DialEvent) (params : DialParams)
  /-- The name of an event and the compact text of its parameters. -/
  | named (event params : String)
  | connection (connected : Bool)
  deriving Repr, DecidableEq

namespace Invocation

/-- The event as one word. -/
def event : Invocation → String
  | .dial event _ => event.name
  | .named event _ => event
  | .connection true => "true"
  | .connection false => "false"

end Invocation

end Switchboard
