/-!
# How requests and waits end

A request is pending until exactly one of three things ends it.  A `Settlement`
is the one value that its record may be settled with, and an `Outcome` is what a
waiter sees of it.  A waiter can also run out of time, which settles nothing.
-/

namespace Switchboard

inductive RequestState where
  | pending
  | completed
  | timedOut
  | cancelled
  deriving Repr, DecidableEq

namespace RequestState

/-- Whether no further transition is allowed. -/
def isTerminal : RequestState → Bool
  | .pending => false
  | _ => true

def name : RequestState → String
  | .pending => "pending"
  | .completed => "completed"
  | .timedOut => "timed_out"
  | .cancelled => "cancelled"

end RequestState

/-- What a record is settled with. -/
inductive Settlement where
  /-- The reply frame as it came in. -/
  | reply (payload : String)
  | cancelled
  /-- Removed for its age. -/
  | expired
  | shutdown
  deriving Repr, DecidableEq

/-- What a waiter sees when its wait ends. -/
inductive Outcome where
  | completed (payload : String)
  | timedOut
  | cancelled
  /-- Let go without a reply. -/
  | abandoned
  deriving Repr, DecidableEq

/-- What a waiter sees of a settlement. -/
def Settlement.outcome : Settlement → Outcome
  | .reply payload => .completed payload
  | .cancelled => .cancelled
  | .expired => .abandoned
  | .shutdown => .abandoned

namespace Outcome

def isCompleted : Outcome → Bool
  | .completed _ => true
  | _ => false

def payload? : Outcome → Option String
  | .completed payload => some payload
  | _ => none

/-- The reply, and the empty text in its absence. -/
def payloadOrEmpty (outcome : Outcome) : String :=
  outcome.payload?.getD ""

end Outcome

end Switchboard
