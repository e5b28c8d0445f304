import Switchboard.Report

/-!
# Listeners

A listener is a program that is started with an invocation.  It may note what
it heard, change the listeners, and use the dispatcher and the correlator,
looking at their answers; it ends by finishing or by failing.  A failure is
contained and never reaches the caller.
-/

namespace Switchboard

inductive Failure where
  | told (reason : String)
  /-- The failure carries no text. -/
  | untold
  deriving Repr, DecidableEq

def Failure.reason : Failure → String
  | .told reason => reason
  | .untold => "non-string panic payload"

/-- What a listener does, one deed after the other. -/
inductive Program where
  | finish
  | fail (failure : Failure)
  | note (hearing : Hearing) (next : Program)
  | listen (slot : Slot) (listener : Invocation → Program) (next : Program)
  | unlisten (slot : Slot) (next : Program)
  | enqueue (raw : String) (next : Bool → Program)
  | complete (id : RequestId) (payload : String) (next : Bool → Program)
  | cancel (id : RequestId) (next : Bool → Program)
  | close (next : Nat → Program)

/-- What is called when there is something to hear. -/
abbrev Listener := Invocation → Program

/-- The listener in each slot. -/
structure Listeners where
  dial : Option Listener := none
  lifecycle : Option Listener := none
  stateChange : Option Listener := none
  connection : Option Listener := none

namespace Listeners

def get (listeners : Listeners) : Slot → Option Listener
  | .dial => listeners.dial
  | .lifecycle => listeners.lifecycle
  | .stateChange => listeners.stateChange
  | .connection => listeners.connection

def set (listeners : Listeners) (slot : Slot)
    (listener : Option Listener) : Listeners :=
  match slot with
  | .dial => { listeners with dial := listener }
  | .lifecycle => { listeners with lifecycle := listener }
  | .stateChange => { listeners with stateChange := listener }
  | .connection => { listeners with connection := listener }

theorem get_set_self (listeners : Listeners) (slot : Slot)
    (listener : Option Listener) :
    (listeners.set slot listener).get slot = listener := by
  cases slot <;> rfl

theorem get_set_of_ne (listeners : Listeners) {slot other : Slot}
    (different : other ≠ slot) (listener : Option Listener) :
    (listeners.set slot listener).get other = listeners.get other := by
  cases slot <;> cases other <;> first | rfl | exact absurd rfl different

def describe (listeners : Listeners) : String :=
  let taken := fun (slot : Slot) =>
    slot.name ++ ": " ++ toString (listeners.get slot).isSome
  "ListenerRegistry \x7b " ++
    ", ".intercalate
      ([Slot.dial, .lifecycle, .stateChange, .connection].map taken) ++
    " \x7d"

end Listeners

end Switchboard
