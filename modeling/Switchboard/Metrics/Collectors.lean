import Switchboard.Decimal.Layout
import Switchboard.Metrics.Counters
import Switchboard.Metrics.Histogram

/-!
# Collectors and their exposition

The same measurements kept as labelled samples, and the text that a scraper
reads: families by name, samples by label, a family without samples left out.
-/

namespace Switchboard

/-- Labelled counters in the order of their labels. -/
abbrev Samples := List (String × UInt64)

/-- Adds to the sample of a label, which begins at zero. -/
def Samples.add (label : String) (amount : UInt64) : Samples → Samples
  | [] => [(label, amount)]
  | (other, held) :: rest =>
      if label = other then
        (label, held + amount) :: rest
      else if label < other then
        (label, amount) :: (other, held) :: rest
      else
        (other, held) :: Samples.add label amount rest

structure Collectors where
  requests : Samples := []
  inFlight : Int64 := 0
  latency : Histogram := .empty latencyBounds
  notifications : Samples := []
  listenerFailures : UInt64 := 0
  deriving Repr

namespace Collectors

def request (collectors : Collectors) (outcome : String)
    (amount : UInt64) : Collectors :=
  { collectors with requests := Samples.add outcome amount collectors.requests }

def notification (collectors : Collectors) (result : String) : Collectors :=
  { collectors with
    notifications := Samples.add result 1 collectors.notifications }

/-- Takes one measurement into account.  A sweep that removed nothing leaves
no sample. -/
def record (collectors : Collectors) : Measurement → Collectors
  | .registered => collectors.request "registered" 1
  | .completed latency =>
      let counted := collectors.request "completed" 1
      { counted with latency := counted.latency.observe latency.seconds }
  | .timedOut => collectors.request "timed_out" 1
  | .cancelled => collectors.request "cancelled" 1
  | .reaped count =>
      if count = 0 then
        collectors
      else
        collectors.request "reaped" (UInt64.ofNat count)
  | .lateReply => collectors.request "late_reply" 1
  | .inFlight count => { collectors with inFlight := Int64.ofNat count }
  | .enqueued => collectors.notification "enqueued"
  | .dispatched => collectors.notification "dispatched"
  | .unrecognised => collectors.notification "unrecognised"
  | .malformed => collectors.notification "malformed"
  | .listenerFailed =>
      { collectors with listenerFailures := collectors.listenerFailures + 1 }

def sampleText (value : Float) : String :=
  String.ofList (Decimal.plain.render value)

/-- What a family is called, what it is for, and what kind it is. -/
structure Family where
  name : String
  help : String
  kind : String

def Family.heading (family : Family) : List String :=
  ["# HELP " ++ family.name ++ " " ++ family.help,
    "# TYPE " ++ family.name ++ " " ++ family.kind]

def listenerFailuresFamily : Family :=
  ⟨"rpc_listener_panics_total", "Listener callbacks that panicked",
    "counter"⟩

def notificationsFamily : Family :=
  ⟨"rpc_notifications_total", "Notifications by dispatch result", "counter"⟩

def latencyFamily : Family :=
  ⟨"rpc_reply_latency_seconds", "Time from record creation to reply delivery",
    "histogram"⟩

def inFlightFamily : Family :=
  ⟨"rpc_requests_in_flight",
    "Records in the correlation map at the last sweep", "gauge"⟩

def requestsFamily : Family :=
  ⟨"rpc_requests_total", "Correlated requests by lifecycle outcome",
    "counter"⟩

/-- One sample with a label. -/
def labelled (name label text : String) (value : Float) : String :=
  name ++ "\x7b" ++ label ++ "=\"" ++ text ++ "\"\x7d " ++ sampleText value

/-- A family with one sample that has no label. -/
def exposeSingle (family : Family) (value : Float) : List String :=
  family.heading ++ [family.name ++ " " ++ sampleText value]

/-- A family of labelled samples. -/
def exposeSamples (family : Family) (label : String)
    (samples : Samples) : List String :=
  if samples.isEmpty then
    []
  else
    family.heading ++ samples.map fun sample =>
      labelled family.name label sample.1 sample.2.toFloat

/-- A histogram with its buckets, its sum and its count. -/
def exposeHistogram (family : Family) (histogram : Histogram) :
    List String :=
  let bucket := family.name ++ "_bucket"
  family.heading ++
    (histogram.cumulative.map fun entry =>
      labelled bucket "le" (sampleText entry.1) entry.2.toFloat) ++
    [labelled bucket "le" "+Inf" histogram.count.toFloat,
      family.name ++ "_sum " ++ sampleText histogram.sum,
      family.name ++ "_count " ++ sampleText histogram.count.toFloat]

/-- The binary64 value nearest to a level, which may be negative. -/
def levelValue (level : Int64) : Float :=
  if level < 0 then
    -(0 - level).toUInt64.toFloat
  else
    level.toUInt64.toFloat

/-- The text for a scraper, line by line. -/
def expose (collectors : Collectors) : List String :=
  exposeSingle listenerFailuresFamily collectors.listenerFailures.toFloat ++
    exposeSamples notificationsFamily "result" collectors.notifications ++
    exposeHistogram latencyFamily collectors.latency ++
    exposeSingle inFlightFamily (levelValue collectors.inFlight) ++
    exposeSamples requestsFamily "outcome" collectors.requests

end Collectors

/-- Who keeps the measurements: nobody, counters in the process, or collectors
for a scraper. -/
inductive Recorder where
  | silent
  | counting (counters : Counters)
  | collecting (collectors : Collectors)
  deriving Repr

def Recorder.record (recorder : Recorder)
    (measurement : Measurement) : Recorder :=
  match recorder with
  | .silent => .silent
  | .counting counters => .counting (counters.record measurement)
  | .collecting collectors => .collecting (collectors.record measurement)

end Switchboard
