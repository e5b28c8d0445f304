import Switchboard.Log.Entry
import Switchboard.Notification.Slot
import Switchboard.Request.Id
import Switchboard.Request.Outcome

/-!
# What the engine logs

Every kind of notice with its level, its wording and its fields.
-/

namespace Switchboard

inductive Notice where
  | registered (id : RequestId)
  | collected (id : RequestId)
  | completed (id : RequestId) (latencyMicros : Nat)
  | replyAfterShutdown (id : RequestId)
  | replyUnknown (id : RequestId)
  | replyNotPending (id : RequestId) (state : RequestState)
  | cancelled (id : RequestId)
  | completedCleared (removed : Nat)
  | reaping (id : RequestId) (state : RequestState) (ageMillis : Nat)
  | reaped (removed remaining : Nat)
  | correlatorShutDown (released : Nat)
  | waitTimedOut (id : RequestId)
  | notificationAfterShutdown
  | batchProcessed (size delivered : Nat)
  | malformedNotification (error : String)
  | dialWithoutParams (event : String)
  | noListener (slot : Slot) (event : String)
  | unrecognised (event : String)
  | listenerFailed (slot : Slot) (event reason : String)
  | notificationsDiscarded (discarded : Nat)
  | drainStarted
  | drainStopped
  | reaperStarted (intervalMillis : Nat)
  | reaperStopped
  | unroutableFrame (error : String)
  | connectivityChanged (connected : Bool)
  | engineStarted (intervalMillis ageMillis timeoutMillis : Nat)
  | engineStopping
  | engineStopped (released discarded : Nat)
  | sendFailed (id : RequestId) (method error : String)
  | requestSent (id : RequestId) (method : String)
  deriving Repr, DecidableEq

namespace Notice

/-- The name of a slot inside a message. -/
def slotLabel : Slot → String
  | .dial => "DIAL"
  | .lifecycle => "lifecycle"
  | .stateChange => "state-change"
  | .connection => "connection"

def idField (id : RequestId) : String × Log.Field :=
  ("request_id", .number id.toInt)

def countField (name : String) (count : Nat) : String × Log.Field :=
  (name, .number count)

def entry : Notice → Log.Entry
  | .registered id => ⟨.trace, "Registered pending request", [idField id]⟩
  | .collected id => ⟨.trace, "Collected completed request", [idField id]⟩
  | .completed id latencyMicros =>
      ⟨.trace, "Completed pending request",
        [idField id, countField "latency_us" latencyMicros]⟩
  | .replyAfterShutdown id =>
      ⟨.debug, "Reply after shutdown; dropped", [idField id]⟩
  | .replyUnknown id =>
      ⟨.debug, "Reply for unknown request id; dropped", [idField id]⟩
  | .replyNotPending id state =>
      ⟨.debug, "Reply for request no longer pending; dropped",
        [idField id, ("state", .text state.name)]⟩
  | .cancelled id => ⟨.debug, "Cancelled pending request", [idField id]⟩
  | .completedCleared removed =>
      ⟨.debug, "Cleared uncollected completed requests",
        [countField "removed" removed]⟩
  | .reaping id state ageMillis =>
      ⟨.debug, "Reaping request with lingering waiter",
        [idField id, ("state", .text state.name),
          countField "age_ms" ageMillis]⟩
  | .reaped removed remaining =>
      ⟨.debug, "Reaped stale requests",
        [countField "removed" removed, countField "remaining" remaining]⟩
  | .correlatorShutDown released =>
      ⟨.info, "Correlator shut down", [countField "released" released]⟩
  | .waitTimedOut id => ⟨.debug, "Wait for reply timed out", [idField id]⟩
  | .notificationAfterShutdown =>
      ⟨.debug, "Notification after shutdown; dropped", []⟩
  | .batchProcessed size delivered =>
      ⟨.trace, "Processed notification batch",
        [countField "size" size, countField "delivered" delivered]⟩
  | .malformedNotification error =>
      ⟨.warn, "Dropping malformed notification", [("error", .text error)]⟩
  | .dialWithoutParams event =>
      ⟨.warn, "DIAL notification without usable params; dropped",
        [("event", .text event)]⟩
  | .noListener slot event =>
      ⟨.trace, "No " ++ slotLabel slot ++ " listener; dropped",
        [("event", .text event)]⟩
  | .unrecognised event =>
      ⟨.warn, "Unrecognised notification; dropped",
        [("event", .text event)]⟩
  | .listenerFailed slot event reason =>
      ⟨.error, "Listener panicked; continuing",
        [("category", .text slot.name), ("event", .text event),
          ("reason", .text reason)]⟩
  | .notificationsDiscarded discarded =>
      ⟨.debug, "Discarded undelivered notifications",
        [countField "discarded" discarded]⟩
  | .drainStarted => ⟨.debug, "Notification drain started", []⟩
  | .drainStopped => ⟨.debug, "Notification drain stopped", []⟩
  | .reaperStarted intervalMillis =>
      ⟨.debug, "Reaper started", [countField "interval_ms" intervalMillis]⟩
  | .reaperStopped => ⟨.debug, "Reaper stopped", []⟩
  | .unroutableFrame error =>
      ⟨.warn, "Dropping unroutable inbound frame", [("error", .text error)]⟩
  | .connectivityChanged connected =>
      ⟨.debug, "Transport connectivity changed",
        [("connected", .flag connected)]⟩
  | .engineStarted intervalMillis ageMillis timeoutMillis =>
      ⟨.info, "Correlation engine started",
        [countField "reaper_interval_ms" intervalMillis,
          countField "max_record_age_ms" ageMillis,
          countField "default_timeout_ms" timeoutMillis]⟩
  | .engineStopping => ⟨.info, "Shutting down correlation engine...", []⟩
  | .engineStopped released discarded =>
      ⟨.info, "Correlation engine stopped",
        [countField "released" released, countField "discarded" discarded]⟩
  | .sendFailed id method error =>
      ⟨.warn, "Send failed",
        [idField id, ("method", .text method), ("error", .text error)]⟩
  | .requestSent id method =>
      ⟨.debug, "Request sent", [idField id, ("method", .text method)]⟩

end Notice

end Switchboard
