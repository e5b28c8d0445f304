/-!
# Shutdown signals

A signal holds a flag that its sender may set again and again.  A receiver
remembers which setting it saw last and learns of any later one, or that the
sender is gone.
-/

namespace Switchboard

structure Signal where
  value : Bool := false
  /-- How often the flag has been set. -/
  version : Nat := 0
  senderGone : Bool := false
  deriving Repr, DecidableEq

/-- What a receiver learns. -/
inductive SignalChange where
  | unchanged
  | set (value : Bool)
  | gone
  deriving Repr, DecidableEq

/-- Whether what a receiver learns tells it to stop. -/
def SignalChange.stops : SignalChange → Bool
  | .unchanged => false
  | .set value => value
  | .gone => true

namespace Signal

def set (signal : Signal) (value : Bool) : Signal :=
  { signal with value := value, version := signal.version + 1 }

def dropSender (signal : Signal) : Signal :=
  { signal with senderGone := true }

/-- What a receiver learns that has seen a version.  A setting it missed comes
before the end of the sender. -/
def change (signal : Signal) (seen : Nat) : SignalChange :=
  if signal.version ≠ seen then
    .set signal.value
  else if signal.senderGone then
    .gone
  else
    .unchanged

end Signal

end Switchboard
