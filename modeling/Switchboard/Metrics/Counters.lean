import Switchboard.Span

/-!
# Measurements and counters

What the engine tells whoever keeps its metrics, and counters kept in the
process, which have 64 bits and wrap around.
-/

namespace Switchboard

inductive Measurement where
  | registered
  | completed (latency : Span)
  | timedOut
  | cancelled
  /-- So many records went in one sweep. -/
  | reaped (count : Nat)
  | lateReply
  /-- So many records are held. -/
  | inFlight (count : Nat)
  | enqueued
  | dispatched
  | unrecognised
  | malformed
  | listenerFailed
  deriving Repr, DecidableEq

structure Counters where
  registered : UInt64 := 0
  completed : UInt64 := 0
  timedOut : UInt64 := 0
  cancelled : UInt64 := 0
  reaped : UInt64 := 0
  lateReplies : UInt64 := 0
  inFlight : UInt64 := 0
  enqueued : UInt64 := 0
  dispatched : UInt64 := 0
  unrecognised : UInt64 := 0
  malformed : UInt64 := 0
  listenerFailures : UInt64 := 0
  /-- The latencies of all replies together, in microseconds. -/
  latencyMicros : UInt64 := 0
  deriving Repr, DecidableEq

namespace Counters

/-- Takes one measurement into account. -/
def record (counters : Counters) : Measurement → Counters
  | .registered => { counters with registered := counters.registered + 1 }
  | .completed latency =>
      { counters with
        completed := counters.completed + 1
        latencyMicros :=
          counters.latencyMicros + UInt64.ofNat latency.micros }
  | .timedOut => { counters with timedOut := counters.timedOut + 1 }
  | .cancelled => { counters with cancelled := counters.cancelled + 1 }
  | .reaped count =>
      { counters with reaped := counters.reaped + UInt64.ofNat count }
  | .lateReply => { counters with lateReplies := counters.lateReplies + 1 }
  | .inFlight count => { counters with inFlight := UInt64.ofNat count }
  | .enqueued => { counters with enqueued := counters.enqueued + 1 }
  | .dispatched => { counters with dispatched := counters.dispatched + 1 }
  | .unrecognised =>
      { counters with unrecognised := counters.unrecognised + 1 }
  | .malformed => { counters with malformed := counters.malformed + 1 }
  | .listenerFailed =>
      { counters with listenerFailures := counters.listenerFailures + 1 }

/-- The mean latency in whole microseconds, and zero without a reply. -/
def meanLatencyMicros (counters : Counters) : UInt64 :=
  if counters.completed = 0 then
    0
  else
    counters.latencyMicros / counters.completed

def snapshot (counters : Counters) : List (String × UInt64) :=
  [("registered", counters.registered),
    ("completed", counters.completed),
    ("timed_out", counters.timedOut),
    ("cancelled", counters.cancelled),
    ("reaped", counters.reaped),
    ("late_replies", counters.lateReplies),
    ("in_flight", counters.inFlight),
    ("notifications_enqueued", counters.enqueued),
    ("notifications_dispatched", counters.dispatched),
    ("notifications_unrecognised", counters.unrecognised),
    ("notifications_malformed", counters.malformed),
    ("listener_panics", counters.listenerFailures),
    ("avg_reply_latency_us", counters.meanLatencyMicros)]

end Counters

end Switchboard
