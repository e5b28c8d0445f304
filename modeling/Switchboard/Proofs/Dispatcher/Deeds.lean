import Switchboard.Engine.Hub

/-!
# Listeners at work

To the hub the program of a listener is one step.  Here it is taken apart into
deeds, so that others can come between any two of them.  A notification is
taken on in two deeds, the push and the wake-up, and the dispatcher is closed
in two, the clearing of the queue and the wake-up of all that are parked.
-/

namespace Switchboard

namespace Dispatcher

/-- The first half of closing. -/
def clear (dispatcher : Dispatcher) : Dispatcher :=
  { dispatcher with queue := [], closed := true }

/-- The second half of closing. -/
def notifyAll (dispatcher : Dispatcher) : Dispatcher :=
  { dispatcher with wake := dispatcher.wake.notifyAll }

theorem after_close (dispatcher : Dispatcher) :
    dispatcher.close.after = dispatcher.clear.notifyAll := rfl

theorem after_enqueue (dispatcher : Dispatcher) (raw : String) :
    (dispatcher.enqueue raw).after =
      if (dispatcher.push raw).answer then
        (dispatcher.push raw).after.notify
      else
        (dispatcher.push raw).after := by
  unfold enqueue
  dsimp only
  split <;> rfl

theorem answer_enqueue (dispatcher : Dispatcher) (raw : String) :
    (dispatcher.enqueue raw).answer = (dispatcher.push raw).answer := by
  unfold enqueue
  dsimp only
  split <;> rfl

theorem push_of_closed {dispatcher : Dispatcher}
    (closed : dispatcher.closed = true) (raw : String) :
    (dispatcher.push raw).answer = false ∧
      (dispatcher.push raw).after = dispatcher := by
  simp [push, closed]

theorem push_of_open {dispatcher : Dispatcher}
    (opened : dispatcher.closed = false) (raw : String) :
    (dispatcher.push raw).answer = true ∧
      (dispatcher.push raw).after =
        { dispatcher with queue := dispatcher.queue ++ [raw] } := by
  simp [push, opened]

end Dispatcher

/-- How far a listener has come. -/
inductive Performance where
  | ready (program : Program)
  /-- It has pushed a notification and has yet to wake the drain. -/
  | pushed (rest : Program)
  /-- It has cleared the queue and has yet to wake all that are parked. -/
  | cleared (rest : Program)

/-- Whether a listener that has ended finished. -/
def Performance.ended? : Performance → Option Bool
  | .ready .finish => some true
  | .ready (.fail _) => some false
  | _ => none

/-- A listener and what it is called with. -/
structure ListenerCall where
  slot : Slot
  invocation : Invocation
  listener : Listener

def ListenerCall.program (call : ListenerCall) : Program :=
  call.listener call.invocation

/-- The slot that a raw notification is for, and what its listener is called
with. -/
def Notification.addressee? (raw : String) : Option (Slot × Invocation) :=
  match Notification.parse raw with
  | .error _ => none
  | .ok notification =>
      let named := Invocation.named notification.name notification.paramsText
      match Category.ofName notification.name with
      | .dial kind =>
          notification.dialParams.map fun params => (.dial, .dial kind params)
      | .lifecycle => some (.lifecycle, named)
      | .stateChange => some (.stateChange, named)
      | .unrecognised => none

namespace Hub

def setDispatcher (hub : Hub) (dispatcher : Dispatcher) : Hub :=
  { hub with dispatcher := dispatcher }

/-- The call that a raw notification leads to. -/
def call? (hub : Hub) (raw : String) : Option ListenerCall :=
  (Notification.addressee? raw).bind fun (slot, invocation) =>
    (hub.dispatcher.listeners.get slot).map fun listener =>
      { slot := slot, invocation := invocation, listener := listener }

/-- A listener's next deed. -/
def deed (hub : Hub) (now : Instant) : Performance → Performance × Hub
  | .ready .finish => (.ready .finish, hub)
  | .ready (.fail failure) => (.ready (.fail failure), hub)
  | .ready (.note _ next) => (.ready next, hub)
  | .ready (.listen slot listener next) =>
      (.ready next, hub.setListener slot (some listener))
  | .ready (.unlisten slot next) => (.ready next, hub.setListener slot none)
  | .ready (.enqueue raw next) =>
      let pushed := hub.onDispatcher (·.push raw)
      if pushed.answer then
        (.pushed (next true), pushed.after)
      else
        (.ready (next false), pushed.after)
  | .ready (.complete id payload next) =>
      let completed := hub.onCorrelator (·.complete now id payload)
      (.ready (next completed.answer), completed.after)
  | .ready (.cancel id next) =>
      let cancelled := hub.onCorrelator (·.cancel id)
      (.ready (next cancelled.answer), cancelled.after)
  | .ready (.close next) =>
      (.cleared (next hub.dispatcher.queued),
        hub.setDispatcher hub.dispatcher.clear)
  | .pushed rest => (.ready rest, hub.setDispatcher hub.dispatcher.notify)
  | .cleared rest =>
      (.ready rest, hub.setDispatcher hub.dispatcher.notifyAll)

theorem deed_enqueue_of_accepted (hub : Hub) (now : Instant)
    {raw : String} (next : Bool → Program)
    (accepted : (hub.dispatcher.push raw).answer = true) :
    hub.deed now (.ready (.enqueue raw next)) =
      (.pushed (next true),
        hub.setDispatcher (hub.dispatcher.push raw).after) := by
  simp [deed, onDispatcher, accepted, setDispatcher]

theorem deed_enqueue_of_refused (hub : Hub) (now : Instant)
    {raw : String} (next : Bool → Program)
    (refused : (hub.dispatcher.push raw).answer = false) :
    hub.deed now (.ready (.enqueue raw next)) =
      (.ready (next false),
        hub.setDispatcher (hub.dispatcher.push raw).after) := by
  simp [deed, onDispatcher, refused, setDispatcher]

theorem invoke_eq (hub : Hub) (now : Instant) (slot : Slot)
    (event : String) (program : Program) :
    (hub.invoke now slot event program).after =
        (hub.perform now program).after ∧
      (hub.invoke now slot event program).answer =
        (hub.perform now program).answer.isNone := by
  unfold invoke
  cases failed : (hub.perform now program).answer with
  | none => simp [failed]
  | some failure => simp [failed]

/-- The hub behind a call that may have been made, and whether its listener
finished. -/
def called (hub : Hub) (now : Instant) : Option ListenerCall → Hub × Bool
  | none => (hub, false)
  | some call =>
      let performed := hub.perform now call.program
      (performed.after, performed.answer.isNone)

theorem deliver_eq (hub : Hub) (now : Instant) (slot : Slot)
    (event : String) (invocation : Invocation) :
    ((hub.deliver now slot event invocation).after,
        (hub.deliver now slot event invocation).answer) =
      hub.called now
        ((hub.dispatcher.listeners.get slot).map fun listener =>
          { slot := slot, invocation := invocation, listener := listener }) := by
  unfold deliver
  cases hub.dispatcher.listeners.get slot with
  | none => rfl
  | some listener =>
      obtain ⟨after, answer⟩ :=
        hub.invoke_eq now slot event (listener invocation)
      simp [called, ListenerCall.program, after, answer]

/-- To dispatch a notification is to run the program of the listener that it
calls. -/
theorem dispatch_eq (hub : Hub) (now : Instant) (raw : String) :
    ((hub.dispatch now raw).after, (hub.dispatch now raw).answer) =
      hub.called now (hub.call? raw) := by
  unfold dispatch call? Notification.addressee?
  cases Notification.parse raw with
  | error error => rfl
  | ok notification =>
      dsimp only
      cases Category.ofName notification.name with
      | dial kind =>
          dsimp only
          cases notification.dialParams with
          | none => rfl
          | some params => exact hub.deliver_eq now .dial _ _
      | lifecycle => exact hub.deliver_eq now .lifecycle _ _
      | stateChange => exact hub.deliver_eq now .stateChange _ _
      | unrecognised => rfl

end Hub

end Switchboard
