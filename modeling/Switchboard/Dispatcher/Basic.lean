import Switchboard.Dispatcher.Listener
import Switchboard.Dispatcher.Wake

/-!
# The dispatcher

The dispatcher queues notifications in the order they come in.  Whoever drains
it takes the whole queue at once.  Taking on a notification has two parts, the
push and the wake-up.
-/

namespace Switchboard

structure Dispatcher where
  /-- The raw notifications that wait, the first to come in first. -/
  queue : List String := []
  wake : Wake := {}
  closed : Bool := false
  listeners : Listeners := {}

namespace Dispatcher

def queued (dispatcher : Dispatcher) : Nat :=
  dispatcher.queue.length

/-- Puts a notification at the end of the queue unless that is closed. -/
def push (dispatcher : Dispatcher) (raw : String) :
    Step Dispatcher Bool :=
  if dispatcher.closed then
    { answer := false, after := dispatcher
      reports := [.logged .notificationAfterShutdown] }
  else
    { answer := true
      after := { dispatcher with queue := dispatcher.queue ++ [raw] }
      reports := [.measured .enqueued] }

/-- Wakes a task that drains the queue. -/
def notify (dispatcher : Dispatcher) : Dispatcher :=
  { dispatcher with wake := dispatcher.wake.notifyOne }

/-- Takes on a notification, and wakes a task that drains the queue. -/
def enqueue (dispatcher : Dispatcher) (raw : String) :
    Step Dispatcher Bool :=
  let pushed := dispatcher.push raw
  if pushed.answer then
    { pushed with after := pushed.after.notify }
  else
    pushed

def takeAll (dispatcher : Dispatcher) : Step Dispatcher (List String) where
  answer := dispatcher.queue
  after := { dispatcher with queue := [] }

def onWake {α : Type} (dispatcher : Dispatcher)
    (operation : Wake → α × Wake) : Step Dispatcher α :=
  let (answer, wake) := operation dispatcher.wake
  { answer := answer, after := { dispatcher with wake := wake } }

/-- Takes on no more notifications and discards those that wait. -/
def close (dispatcher : Dispatcher) : Step Dispatcher Nat :=
  let discarded := dispatcher.queued
  { answer := discarded
    after :=
      { dispatcher with
        queue := []
        closed := true
        wake := dispatcher.wake.notifyAll }
    reports :=
      if discarded = 0 then
        []
      else
        [.logged (.notificationsDiscarded discarded)] }

/-- Puts a listener into a slot, or empties it. -/
def setListener (dispatcher : Dispatcher) (slot : Slot)
    (listener : Option Listener) : Dispatcher :=
  { dispatcher with listeners := dispatcher.listeners.set slot listener }

def describe (dispatcher : Dispatcher) : String :=
  "Dispatcher \x7b queued: " ++ toString dispatcher.queued ++ ", closed: " ++
    toString dispatcher.closed ++ ", listeners: " ++
    dispatcher.listeners.describe ++ " \x7d"

end Dispatcher

end Switchboard
