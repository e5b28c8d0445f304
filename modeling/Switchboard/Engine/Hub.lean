import Switchboard.Correlator.Wait
import Switchboard.Dispatcher.Basic
import Switchboard.Notification.Basic

/-!
# The hub

The hub joins a correlator and a dispatcher.  It routes what comes in from the
transport and hands notifications to their listeners, whose programs run on
both parts.
-/

namespace Switchboard

structure Hub where
  correlator : Correlator
  dispatcher : Dispatcher

/-- Where an inbound frame went. -/
inductive Route where
  | reply
  | lateReply
  | notification
  | dropped
  deriving Repr, DecidableEq

namespace Hub

def onCorrelator {α : Type} (hub : Hub)
    (operation : Correlator → Step Correlator α) : Step Hub α :=
  (operation hub.correlator).lift fun correlator =>
    { hub with correlator := correlator }

def onDispatcher {α : Type} (hub : Hub)
    (operation : Dispatcher → Step Dispatcher α) : Step Hub α :=
  (operation hub.dispatcher).lift fun dispatcher =>
    { hub with dispatcher := dispatcher }

def onWake {α : Type} (hub : Hub) (operation : Wake → α × Wake) :
    Step Hub α :=
  hub.onDispatcher (·.onWake operation)

def setListener (hub : Hub) (slot : Slot) (listener : Option Listener) :
    Hub :=
  { hub with dispatcher := hub.dispatcher.setListener slot listener }

/-- Runs a listener's program.  The answer is its failure, if it fails. -/
def perform (hub : Hub) (now : Instant) :
    Program → Step Hub (Option Failure)
  | .finish => { answer := none, after := hub }
  | .fail failure => { answer := some failure, after := hub }
  | .note hearing next =>
      let rest := hub.perform now next
      { rest with reports := .heard hearing :: rest.reports }
  | .listen slot listener next =>
      (hub.setListener slot (some listener)).perform now next
  | .unlisten slot next => (hub.setListener slot none).perform now next
  | .enqueue raw next =>
      (hub.onDispatcher (·.enqueue raw)).andThen fun accepted after =>
        after.perform now (next accepted)
  | .complete id payload next =>
      (hub.onCorrelator (·.complete now id payload)).andThen
        fun accepted after => after.perform now (next accepted)
  | .cancel id next =>
      (hub.onCorrelator (·.cancel id)).andThen fun cancelled after =>
        after.perform now (next cancelled)
  | .close next =>
      (hub.onDispatcher (·.close)).andThen fun discarded after =>
        after.perform now (next discarded)

/-- Runs a listener and contains its failure.  The answer is whether it
finished. -/
def invoke (hub : Hub) (now : Instant) (slot : Slot) (event : String)
    (program : Program) : Step Hub Bool :=
  let performed := hub.perform now program
  match performed.answer with
  | none => { performed with answer := true }
  | some failure =>
      { answer := false
        after := performed.after
        reports :=
          performed.reports ++
            [.logged (.listenerFailed slot event failure.reason)] }

/-- Calls the listener of a slot, and counts the call. -/
def deliver (hub : Hub) (now : Instant) (slot : Slot) (event : String)
    (invocation : Invocation) : Step Hub Bool :=
  match hub.dispatcher.listeners.get slot with
  | none =>
      { answer := false, after := hub
        reports := [.logged (.noListener slot event)] }
  | some listener =>
      let invoked := hub.invoke now slot event (listener invocation)
      let counted : Measurement :=
        if invoked.answer then .dispatched else .listenerFailed
      { invoked with reports := invoked.reports ++ [.measured counted] }

/-- Classifies a raw notification and hands it to its listener.  The answer is
whether a listener finished with it. -/
def dispatch (hub : Hub) (now : Instant) (raw : String) : Step Hub Bool :=
  match Notification.parse raw with
  | .error error =>
      { answer := false, after := hub
        reports :=
          [.measured .malformed,
            .logged (.malformedNotification error.message)] }
  | .ok notification =>
      let event := notification.name
      match Category.ofName event with
      | .dial kind =>
          match notification.dialParams with
          | none =>
              { answer := false, after := hub
                reports := [.logged (.dialWithoutParams event)] }
          | some params => hub.deliver now .dial event (.dial kind params)
      | .lifecycle =>
          hub.deliver now .lifecycle event
            (.named event notification.paramsText)
      | .stateChange =>
          hub.deliver now .stateChange event
            (.named event notification.paramsText)
      | .unrecognised =>
          { answer := false, after := hub
            reports :=
              [.measured .unrecognised, .logged (.unrecognised event)] }

/-- Dispatches notifications in order.  The answer is how many a listener
finished with. -/
def dispatchAll (hub : Hub) (now : Instant) : List String → Step Hub Nat
  | [] => { answer := 0, after := hub }
  | raw :: rest =>
      (hub.dispatch now raw).andThen fun delivered after =>
        (after.dispatchAll now rest).map fun count =>
          if delivered then count + 1 else count

/-- Dispatches a batch and tells its size. -/
def deliverBatch (hub : Hub) (now : Instant) (batch : List String) :
    Step Hub Nat :=
  let dispatched := hub.dispatchAll now batch
  { dispatched with
    reports :=
      dispatched.reports ++
        [.logged (.batchProcessed batch.length dispatched.answer)] }

/-- Routes an inbound frame: replies to the correlator, notifications to the
dispatcher. -/
def route (hub : Hub) (now : Instant) (raw : String) :
    Step Hub Route :=
  match Frame.read raw with
  | .ok (.reply id) =>
      (hub.onCorrelator (·.complete now id raw)).map fun accepted =>
        if accepted then .reply else .lateReply
  | .ok .notification =>
      (hub.onDispatcher (·.enqueue raw)).map fun accepted =>
        if accepted then .notification else .dropped
  | .error error =>
      { answer := .dropped, after := hub
        reports := [.logged (.unroutableFrame error.message)] }

/-- Tells the listener of the connection that it went up or down. -/
def connectionChanged (hub : Hub) (now : Instant) (connected : Bool) :
    Step Hub Unit :=
  let told : Report := .logged (.connectivityChanged connected)
  match hub.dispatcher.listeners.get .connection with
  | none => { answer := (), after := hub, reports := [told] }
  | some listener =>
      let invoked :=
        hub.invoke now .connection "connection"
          (listener (.connection connected))
      { answer := (), after := invoked.after
        reports := told :: invoked.reports }

def describe (hub : Hub) : String :=
  "MessageRouter \x7b correlator: " ++ hub.correlator.describe ++
    ", dispatcher: " ++ hub.dispatcher.describe ++ " \x7d"

end Hub

end Switchboard
