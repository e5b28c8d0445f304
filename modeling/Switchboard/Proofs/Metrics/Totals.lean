import Switchboard.Metrics.Counters
import Switchboard.Report

/-!
# Totals of measurements

A measurement counts towards one metric, or it is a reading of how many
records are held.  The total of a metric is a natural number, and the counters
kept in the process are these totals in words of 64 bits.
-/

namespace Switchboard

/-- What is counted. -/
inductive Metric where
  | registered
  | completed
  | timedOut
  | cancelled
  | reaped
  | lateReply
  | enqueued
  | dispatched
  | unrecognised
  | malformed
  | listenerFailed
  deriving Repr, DecidableEq

/-- The name under which a metric is shown. -/
def Metric.name : Metric → String
  | .registered => "registered"
  | .completed => "completed"
  | .timedOut => "timed_out"
  | .cancelled => "cancelled"
  | .reaped => "reaped"
  | .lateReply => "late_replies"
  | .enqueued => "notifications_enqueued"
  | .dispatched => "notifications_dispatched"
  | .unrecognised => "notifications_unrecognised"
  | .malformed => "notifications_malformed"
  | .listenerFailed => "listener_panics"

namespace Measurement

/-- The metric that a measurement counts towards. -/
def metric? : Measurement → Option Metric
  | .registered => some .registered
  | .completed _ => some .completed
  | .timedOut => some .timedOut
  | .cancelled => some .cancelled
  | .reaped _ => some .reaped
  | .lateReply => some .lateReply
  | .inFlight _ => none
  | .enqueued => some .enqueued
  | .dispatched => some .dispatched
  | .unrecognised => some .unrecognised
  | .malformed => some .malformed
  | .listenerFailed => some .listenerFailed

/-- How much a measurement counts. -/
def weight : Measurement → Nat
  | .reaped count => count
  | _ => 1

/-- How much a measurement adds to a metric. -/
def amount (metric : Metric) (measurement : Measurement) : Nat :=
  if measurement.metric? = some metric then measurement.weight else 0

end Measurement

/-- The total of a metric. -/
def total (metric : Metric) : List Measurement → Nat
  | [] => 0
  | measurement :: rest => measurement.amount metric + total metric rest

@[simp]
theorem total_nil (metric : Metric) : total metric [] = 0 := rfl

@[simp]
theorem total_cons (metric : Metric) (measurement : Measurement)
    (rest : List Measurement) :
    total metric (measurement :: rest) =
      measurement.amount metric + total metric rest := rfl

@[simp]
theorem total_append (metric : Metric) (first second : List Measurement) :
    total metric (first ++ second) =
      total metric first + total metric second := by
  induction first with
  | nil => exact (Nat.zero_add _).symm
  | cons measurement rest induction =>
      simp only [List.cons_append, total_cons, induction, Nat.add_assoc]

namespace Counters

/-- The counter of a metric. -/
def get (counters : Counters) : Metric → UInt64
  | .registered => counters.registered
  | .completed => counters.completed
  | .timedOut => counters.timedOut
  | .cancelled => counters.cancelled
  | .reaped => counters.reaped
  | .lateReply => counters.lateReplies
  | .enqueued => counters.enqueued
  | .dispatched => counters.dispatched
  | .unrecognised => counters.unrecognised
  | .malformed => counters.malformed
  | .listenerFailed => counters.listenerFailures

theorem lookup_snapshot (counters : Counters) (metric : Metric) :
    counters.snapshot.lookup metric.name = some (counters.get metric) := by
  cases metric <;> rfl

/-- New counters behind some measurements. -/
def after (measurements : List Measurement) : Counters :=
  measurements.foldl record {}

theorem get_record (counters : Counters) (measurement : Measurement)
    (metric : Metric) :
    (counters.record measurement).get metric =
      counters.get metric + UInt64.ofNat (measurement.amount metric) := by
  cases measurement <;> cases metric <;>
    simp [record, get, Measurement.amount, Measurement.metric?,
      Measurement.weight]

theorem get_foldl_record (counters : Counters)
    (measurements : List Measurement) (metric : Metric) :
    (measurements.foldl record counters).get metric =
      counters.get metric + UInt64.ofNat (total metric measurements) := by
  induction measurements generalizing counters with
  | nil => simp
  | cons measurement rest induction =>
      rw [List.foldl_cons, induction, get_record, total_cons,
        UInt64.ofNat_add, UInt64.add_assoc]

theorem get_after (measurements : List Measurement) (metric : Metric) :
    (after measurements).get metric =
      UInt64.ofNat (total metric measurements) := by
  have begun : ({} : Counters).get metric = 0 := by cases metric <;> rfl
  rw [after, get_foldl_record, begun, UInt64.zero_add]

/-- A counter is the total of its metric, unless that is too great. -/
theorem toNat_get_after {measurements : List Measurement} {metric : Metric}
    (bounded : total metric measurements < UInt64.size) :
    ((after measurements).get metric).toNat = total metric measurements := by
  rw [get_after]
  exact UInt64.toNat_ofNat_of_lt bounded

end Counters

/-- The measurement in a report. -/
def Report.measurement? : Report → Option Measurement
  | .measured measurement => some measurement
  | _ => none

/-- The measurements among reports, in order. -/
def measurements (reports : List Report) : List Measurement :=
  reports.filterMap Report.measurement?

@[simp]
theorem measurements_nil : measurements [] = [] := rfl

@[simp]
theorem measurements_measured (measurement : Measurement)
    (rest : List Report) :
    measurements (.measured measurement :: rest) =
      measurement :: measurements rest := rfl

@[simp]
theorem measurements_logged (notice : Notice) (rest : List Report) :
    measurements (.logged notice :: rest) = measurements rest := rfl

@[simp]
theorem measurements_append (first second : List Report) :
    measurements (first ++ second) =
      measurements first ++ measurements second := by
  simp [measurements]

end Switchboard
