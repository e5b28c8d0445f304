import Mathlib.Data.List.Induction
import Switchboard.Metrics.Collectors
import Switchboard.Proofs.Metrics.Totals

/-!
# Collectors agree with counters

Counters and collectors that take the same measurements hold the same numbers.
A family of samples is kept in the order of its labels, so that a label has at
most one sample, and each sample is the total of the metric of its label.
-/

namespace Switchboard

namespace Samples

/-- The sample of a label, read as zero where there is none. -/
def value (label : String) (samples : Samples) : UInt64 :=
  (samples.lookup label).getD 0

/-- Samples in the order of their labels, each label once. -/
def Sorted (samples : Samples) : Prop :=
  (samples.map Prod.fst).Pairwise (· < ·)

variable {label other : String} {amount : UInt64} {samples : Samples}

theorem mem_labels_add :
    other ∈ (add label amount samples).map Prod.fst ↔
      other = label ∨ other ∈ samples.map Prod.fst := by
  induction samples with
  | nil => simp [add]
  | cons sample rest induction =>
      obtain ⟨first, held⟩ := sample
      rw [add]
      split
      case isTrue same =>
          subst same
          simp
      case isFalse =>
          split
          · simp
          · rw [List.map_cons, List.mem_cons, induction, List.map_cons,
              List.mem_cons]
            exact or_left_comm

theorem sorted_add (sorted : Sorted samples) :
    Sorted (add label amount samples) := by
  induction samples with
  | nil => exact List.pairwise_singleton _ _
  | cons sample rest induction =>
      obtain ⟨first, held⟩ := sample
      obtain ⟨least, behind⟩ := List.pairwise_cons.mp sorted
      rw [add]
      split
      case isTrue same =>
          subst same
          exact sorted
      case isFalse apart =>
          split
          case isTrue less =>
              apply List.pairwise_cons.mpr
              refine ⟨?_, sorted⟩
              intro later member
              rcases List.mem_cons.mp member with rfl | inside
              · exact less
              · exact String.lt_trans less (least later inside)
          case isFalse behindLabel =>
              apply List.pairwise_cons.mpr
              refine ⟨?_, induction behind⟩
              intro later member
              rcases mem_labels_add.mp member with rfl | inside
              · apply String.not_le.mp
                intro reached
                exact apart
                  (String.le_antisymm reached (String.not_lt.mp behindLabel))
              · exact least later inside

theorem lookup_add_of_ne (apart : other ≠ label) :
    (add label amount samples).lookup other = samples.lookup other := by
  have differs : (other == label) = false := beq_false_of_ne apart
  induction samples with
  | nil => simp [add, List.lookup_cons, differs]
  | cons sample rest induction =>
      obtain ⟨first, held⟩ := sample
      rw [add]
      split
      case isTrue same =>
          subst same
          simp only [List.lookup_cons, differs]
      case isFalse =>
          split
          · simp only [List.lookup_cons, differs]
          · simp only [List.lookup_cons, induction]

theorem lookup_add_self (sorted : Sorted samples) :
    (add label amount samples).lookup label =
      some (samples.value label + amount) := by
  induction samples with
  | nil => simp [add, value]
  | cons sample rest induction =>
      obtain ⟨first, held⟩ := sample
      obtain ⟨least, behind⟩ := List.pairwise_cons.mp sorted
      rw [add]
      split
      case isTrue same =>
          subst same
          simp [value]
      case isFalse apart =>
          have differs : (label == first) = false := beq_false_of_ne apart
          split
          case isTrue less =>
              have absent : rest.lookup label = none := by
                apply List.lookup_eq_none_iff.mpr
                intro later inside
                have beyond := String.lt_trans less
                  (least later.1 (List.mem_map_of_mem inside))
                exact bne_iff_ne.mpr (String.ne_of_lt beyond)
              simp [value, List.lookup_cons, differs, absent]
          case isFalse =>
              simp only [List.lookup_cons, differs, induction behind, value]

theorem lookup_of_mem (sorted : Sorted samples)
    (member : (label, amount) ∈ samples) :
    samples.lookup label = some amount := by
  induction samples with
  | nil => cases member
  | cons sample rest induction =>
      obtain ⟨least, behind⟩ := List.pairwise_cons.mp sorted
      rcases List.mem_cons.mp member with rfl | later
      · exact List.lookup_cons_self
      · have less : sample.1 < label := least label (List.mem_map_of_mem later)
        have differs : (label == sample.1) = false :=
          beq_false_of_ne (String.ne_of_lt less).symm
        rw [List.lookup_cons, differs]
        exact induction behind later

end Samples

/-- What the labels of a family of samples tell. -/
inductive Labelling where
  /-- How requests end. -/
  | outcome
  /-- What becomes of notifications. -/
  | result
  deriving Repr, DecidableEq

namespace Metric

/-- The label of a metric, if it has one of this kind. -/
def label? : Labelling → Metric → Option String
  | .outcome, .registered => some "registered"
  | .outcome, .completed => some "completed"
  | .outcome, .timedOut => some "timed_out"
  | .outcome, .cancelled => some "cancelled"
  | .outcome, .reaped => some "reaped"
  | .outcome, .lateReply => some "late_reply"
  | .result, .enqueued => some "enqueued"
  | .result, .dispatched => some "dispatched"
  | .result, .unrecognised => some "unrecognised"
  | .result, .malformed => some "malformed"
  | _, _ => none

theorem eq_of_label? {labelling : Labelling} {first second : Metric}
    {label : String} (named : first.label? labelling = some label)
    (alsoNamed : second.label? labelling = some label) : first = second := by
  rw [← alsoNamed] at named
  revert named
  cases labelling <;> cases first <;> cases second <;>
    simp [label?] at alsoNamed ⊢

theorem label?_cases (metric : Metric) :
    metric = .listenerFailed ∨ metric ≠ .listenerFailed ∧
      ∃ labelling label, metric.label? labelling = some label := by
  by_cases single : metric = .listenerFailed
  · exact .inl single
  · refine .inr ⟨single, ?_⟩
    cases metric with
    | listenerFailed => exact absurd rfl single
    | enqueued => exact ⟨.result, _, rfl⟩
    | dispatched => exact ⟨.result, _, rfl⟩
    | unrecognised => exact ⟨.result, _, rfl⟩
    | malformed => exact ⟨.result, _, rfl⟩
    | _ => exact ⟨.outcome, _, rfl⟩

end Metric

/-- Some measurement added to a metric. -/
def Recorded (metric : Metric) (calls : List Measurement) : Prop :=
  ∃ call ∈ calls, 0 < call.amount metric

/-- A measurement that belongs to a family is added to the sample of its
label. -/
def Samples.count (labelling : Labelling) (call : Measurement)
    (samples : Samples) : Samples :=
  match call.metric?.bind (Metric.label? labelling) with
  | none => samples
  | some label =>
      if call.weight = 0 then
        samples
      else
        samples.add label (UInt64.ofNat call.weight)

/-- The samples of a family behind some measurements. -/
structure Samples.Keep (labelling : Labelling)
    (calls : List Measurement) (samples : Samples) : Prop where
  sorted : samples.Sorted
  total : ∀ metric label, metric.label? labelling = some label →
    samples.value label = UInt64.ofNat (total metric calls)
  present : ∀ metric label, metric.label? labelling = some label →
    ((samples.lookup label).isSome = true ↔ Recorded metric calls)
  known : ∀ sample ∈ samples,
    ∃ metric : Metric, metric.label? labelling = some sample.1

theorem recorded_append_singleton {metric : Metric}
    {calls : List Measurement} {call : Measurement} :
    Recorded metric (calls ++ [call]) ↔
      Recorded metric calls ∨ 0 < call.amount metric := by
  simp [Recorded, or_and_right, exists_or]

namespace Samples.Keep

variable {labelling : Labelling} {calls : List Measurement}
  {samples : Samples} {call : Measurement}

theorem begun : Keep labelling [] [] := by
  refine ⟨List.Pairwise.nil, ?_, ?_, ?_⟩
  · intro metric label named
    rfl
  · intro metric label named
    simp [Recorded]
  · intro sample member
    cases member

private theorem idle (keep : Keep labelling calls samples)
    (nothing : ∀ metric label, Metric.label? labelling metric = some label →
      call.amount metric = 0) :
    Keep labelling (calls ++ [call]) samples := by
  refine ⟨keep.sorted, ?_, ?_, keep.known⟩
  · intro metric label named
    rw [keep.total metric label named, total_append, total_cons, total_nil,
      nothing metric label named, Nat.add_zero]
  · intro metric label named
    rw [keep.present metric label named, recorded_append_singleton,
      nothing metric label named]
    simp

private theorem add (keep : Keep labelling calls samples) {metric : Metric}
    {label : String} (counted : call.metric? = some metric)
    (named : metric.label? labelling = some label)
    (nonzero : call.weight ≠ 0) :
    Keep labelling (calls ++ [call])
      (samples.add label (UInt64.ofNat call.weight)) := by
  have amount (other : Metric) :
      call.amount other = if other = metric then call.weight else 0 := by
    simp [Measurement.amount, counted, eq_comm]
  have elsewhere {other : Metric} {otherLabel : String}
      (otherNamed : other.label? labelling = some otherLabel)
      (differs : otherLabel ≠ label) : other ≠ metric := by
    rintro rfl
    exact differs (Option.some.inj (otherNamed.symm.trans named))
  refine ⟨Samples.sorted_add keep.sorted, ?_, ?_, ?_⟩
  · intro other otherLabel otherNamed
    rw [total_append, total_cons, total_nil, Nat.add_zero, amount]
    by_cases same : otherLabel = label
    · subst same
      cases Metric.eq_of_label? named otherNamed
      rw [Samples.value, Samples.lookup_add_self keep.sorted, Option.getD_some,
        keep.total metric _ named, if_pos rfl, UInt64.ofNat_add]
    · rw [Samples.value, Samples.lookup_add_of_ne same,
        if_neg (elsewhere otherNamed same), Nat.add_zero]
      exact keep.total other otherLabel otherNamed
  · intro other otherLabel otherNamed
    rw [recorded_append_singleton, amount]
    by_cases same : otherLabel = label
    · subst same
      cases Metric.eq_of_label? named otherNamed
      rw [Samples.lookup_add_self keep.sorted, if_pos rfl]
      simp [Nat.pos_of_ne_zero nonzero]
    · rw [Samples.lookup_add_of_ne same, if_neg (elsewhere otherNamed same),
        keep.present other otherLabel otherNamed]
      simp
  · intro sample member
    rcases Samples.mem_labels_add.mp (List.mem_map_of_mem member) with
      same | inside
    · exact ⟨metric, named.trans (congrArg some same.symm)⟩
    · obtain ⟨old, oldMember, same⟩ := List.mem_map.mp inside
      obtain ⟨other, otherNamed⟩ := keep.known old oldMember
      exact ⟨other, otherNamed.trans (congrArg some same)⟩

theorem count (keep : Keep labelling calls samples) (call : Measurement) :
    Keep labelling (calls ++ [call]) (samples.count labelling call) := by
  unfold Samples.count
  split
  case h_1 absent =>
      apply keep.idle
      intro metric label named
      have apart : call.metric? ≠ some metric := by
        intro counted
        rw [counted, Option.bind_some, named] at absent
        cases absent
      exact if_neg apart
  case h_2 label found =>
      obtain ⟨metric, counted, named⟩ := Option.bind_eq_some_iff.mp found
      split
      case isTrue zero =>
          apply keep.idle
          intro other otherLabel otherNamed
          simp [Measurement.amount, zero]
      case isFalse nonzero =>
          exact keep.add counted named nonzero

end Samples.Keep

/-- How many records a measurement reads to be held. -/
def Measurement.reading? : Measurement → Option Nat
  | .inFlight count => some count
  | _ => none

/-- The last reading of how many records are held, zero before the first. -/
def level (calls : List Measurement) : Nat :=
  (calls.filterMap Measurement.reading?).getLast?.getD 0

theorem level_append_singleton (calls : List Measurement)
    (call : Measurement) :
    level (calls ++ [call]) = call.reading?.getD (level calls) := by
  unfold level
  rw [List.filterMap_append]
  cases reading : call.reading? with
  | none => simp [reading]
  | some count => simp [reading]

/-- The latency in a measurement, in seconds. -/
def Measurement.latency? : Measurement → Option Float
  | .completed latency => some latency.seconds
  | _ => none

/-- The latencies among measurements, in order. -/
def latencies (calls : List Measurement) : List Float :=
  calls.filterMap Measurement.latency?

theorem latencies_append_singleton (calls : List Measurement)
    (call : Measurement) :
    latencies (calls ++ [call]) = latencies calls ++ call.latency?.toList := by
  unfold latencies
  rw [List.filterMap_append]
  cases latency : call.latency? <;> simp [latency]

theorem length_latencies (calls : List Measurement) :
    (latencies calls).length = total .completed calls := by
  induction calls with
  | nil => rfl
  | cons call rest induction =>
      rw [total_cons, ← induction]
      cases call with
      | completed latency => exact Nat.add_comm _ 1
      | _ => exact (Nat.zero_add _).symm

namespace Histogram

/-- The buckets behind some observations: each holds those that it is the
first to have room for. -/
def filled : List Float → List Float → List (Float × UInt64)
  | _, [] => []
  | values, bound :: rest =>
      (bound, UInt64.ofNat (values.countP fun value => value ≤ bound)) ::
        filled (values.filter fun value => !decide (value ≤ bound)) rest

/-- An observation is at most one of these bounds. -/
def within (bounds : List Float) (value : Float) : Bool :=
  bounds.any fun bound => value ≤ bound

theorem filled_nil (bounds : List Float) :
    filled [] bounds = (empty bounds).buckets := by
  induction bounds with
  | nil => rfl
  | cons bound rest induction => exact congrArg _ induction

/-- One observation more goes into the first bucket that has room. -/
theorem filled_append_singleton (values : List Float) (value : Float)
    (bounds : List Float) :
    filled (values ++ [value]) bounds = countIn value (filled values bounds) := by
  induction bounds generalizing values with
  | nil => rfl
  | cons bound rest induction =>
      by_cases fits : value ≤ bound
      · simp [filled, countIn, fits, List.countP_append, UInt64.ofNat_add]
      · simp [filled, countIn, fits, List.countP_append, induction]

private theorem countP_add_countP_filter (values : List Float)
    (first second : Float → Bool) :
    values.countP first + (values.filter (!first ·)).countP second =
      values.countP fun value => first value || second value := by
  induction values with
  | nil => rfl
  | cons value rest induction =>
      cases fits : first value <;> simp [fits, List.countP_cons] <;> omega

/-- A running count at a bound counts what is at most one of the bounds up to
it. -/
theorem getElem?_cumulative_filled (values bounds : List Float)
    (below : UInt64) (place : Nat) :
    (cumulative.go below (filled values bounds))[place]? =
      bounds[place]?.map fun bound =>
        (bound, below + UInt64.ofNat
          (values.countP (within (bounds.take (place + 1))))) := by
  induction bounds generalizing values below place with
  | nil => rfl
  | cons bound rest induction =>
      cases place with
      | zero =>
          have first : within [bound] =
              fun value => decide (value ≤ bound) := by
            funext value
            exact Bool.or_false _
          simp [filled, cumulative.go, first]
      | succ place =>
          have sum := countP_add_countP_filter values
            (fun value => value ≤ bound) (within (rest.take (place + 1)))
          have joined : (fun value => decide (value ≤ bound) ||
              within (rest.take (place + 1)) value) =
                within ((bound :: rest).take (place + 1 + 1)) := rfl
          rw [joined] at sum
          rw [← sum, filled, cumulative.go, List.getElem?_cons_succ, induction,
            UInt64.ofNat_add, List.getElem?_cons_succ, UInt64.add_assoc]

end Histogram

namespace Collectors

/-- The samples that are labelled so. -/
def samples (collectors : Collectors) : Labelling → Samples
  | .outcome => collectors.requests
  | .result => collectors.notifications

/-- New collectors behind some measurements. -/
def after (calls : List Measurement) : Collectors :=
  calls.foldl record {}

section

variable (collectors : Collectors) (call : Measurement)

theorem record_reaped (count : Nat) :
    collectors.record (.reaped count) =
      { collectors with
        requests :=
          if count = 0 then
            collectors.requests
          else
            collectors.requests.add "reaped" (UInt64.ofNat count) } := by
  rw [record]
  split <;> rfl

theorem samples_record (labelling : Labelling) :
    (collectors.record call).samples labelling =
      (collectors.samples labelling).count labelling call := by
  cases call with
  | reaped count =>
      rw [record_reaped]
      cases labelling <;> rfl
  | _ => cases labelling <;> rfl

theorem inFlight_record :
    (collectors.record call).inFlight =
      (call.reading?.map Int64.ofNat).getD collectors.inFlight := by
  cases call with
  | reaped count =>
      rw [record_reaped]
      rfl
  | _ => rfl

theorem listenerFailures_record :
    (collectors.record call).listenerFailures =
      collectors.listenerFailures +
        UInt64.ofNat (call.amount .listenerFailed) := by
  cases call with
  | listenerFailed => rfl
  | reaped count =>
      rw [record_reaped]
      exact (UInt64.add_zero _).symm
  | _ => exact (UInt64.add_zero _).symm

theorem latency_record :
    (collectors.record call).latency =
      (call.latency?.map collectors.latency.observe).getD
        collectors.latency := by
  cases call with
  | reaped count =>
      rw [record_reaped]
      rfl
  | _ => rfl

end

/-- What collectors hold behind some measurements. -/
structure Hold (calls : List Measurement) (collectors : Collectors) :
    Prop where
  samples : ∀ labelling,
    Samples.Keep labelling calls (collectors.samples labelling)
  inFlight : collectors.inFlight = Int64.ofNat (level calls)
  observations : collectors.latency.count =
    UInt64.ofNat (latencies calls).length
  buckets : collectors.latency.buckets =
    Histogram.filled (latencies calls) latencyBounds
  listenerFailures : collectors.listenerFailures =
    UInt64.ofNat (total .listenerFailed calls)

private theorem Hold.begun : Hold [] {} where
  samples labelling := by cases labelling <;> exact .begun
  inFlight := rfl
  observations := rfl
  buckets := (Histogram.filled_nil latencyBounds).symm
  listenerFailures := rfl

private theorem Hold.record {calls : List Measurement} {collectors : Collectors}
    (hold : Hold calls collectors) (call : Measurement) :
    Hold (calls ++ [call]) (collectors.record call) := by
  have grown (metric : Metric) : total metric (calls ++ [call]) =
      total metric calls + call.amount metric := by
    rw [total_append, total_cons, total_nil, Nat.add_zero]
  constructor
  case samples =>
      intro labelling
      rw [samples_record]
      exact (hold.samples labelling).count call
  case inFlight =>
      rw [inFlight_record, level_append_singleton]
      cases call.reading? with
      | none => exact hold.inFlight
      | some count => rfl
  case observations =>
      rw [latency_record, latencies_append_singleton]
      cases call.latency? with
      | none =>
          rw [Option.toList_none, List.append_nil]
          exact hold.observations
      | some latency =>
          rw [List.length_append, UInt64.ofNat_add, ← hold.observations]
          rfl
  case buckets =>
      rw [latency_record, latencies_append_singleton]
      cases call.latency? with
      | none =>
          rw [Option.toList_none, List.append_nil]
          exact hold.buckets
      | some latency =>
          rw [Option.toList_some, Histogram.filled_append_singleton,
            ← hold.buckets]
          rfl
  case listenerFailures =>
      rw [listenerFailures_record, grown, UInt64.ofNat_add,
        hold.listenerFailures]

theorem hold_after (calls : List Measurement) : Hold calls (after calls) := by
  induction calls using List.reverseRecOn with
  | nil => exact Hold.begun
  | append_singleton calls call induction =>
      rw [after, List.foldl_append]
      exact induction.record call

section

variable {calls : List Measurement} {collectors : Collectors}

theorem Hold.count (hold : Hold calls collectors) :
    collectors.latency.count = UInt64.ofNat (total .completed calls) := by
  rw [hold.observations, length_latencies]

theorem Hold.toNat_count (hold : Hold calls collectors)
    (small : total .completed calls < 9007199254740992) :
    collectors.latency.count.toNat = total .completed calls := by
  rw [hold.count]
  exact UInt64.toNat_ofNat_of_lt (Nat.lt_trans small (by decide))

/-- How many latencies are at most one of the bounds up to a place. -/
def reached (calls : List Measurement) (place : Nat) : Nat :=
  (latencies calls).countP
    (Histogram.within (latencyBounds.take (place + 1)))

theorem reached_le_total (calls : List Measurement) (place : Nat) :
    reached calls place ≤ total .completed calls := by
  rw [← length_latencies]
  exact List.countP_le_length

theorem reached_mono (calls : List Measurement) {first second : Nat}
    (less : first ≤ second) : reached calls first ≤ reached calls second := by
  apply List.countP_mono_left
  intro latency _ fits
  obtain ⟨bound, member, below⟩ := List.any_eq_true.mp fits
  apply List.any_eq_true.mpr
  exact ⟨bound, (List.take_sublist_take_left (by omega)).subset member, below⟩

theorem Hold.getElem?_cumulative (hold : Hold calls collectors)
    (place : Nat) :
    collectors.latency.cumulative[place]? =
      latencyBounds[place]?.map fun bound =>
        (bound, UInt64.ofNat (reached calls place)) := by
  rw [Histogram.cumulative, hold.buckets,
    Histogram.getElem?_cumulative_filled]
  simp only [UInt64.zero_add]
  rfl

theorem toNat_reached (small : total .completed calls < 9007199254740992)
    (place : Nat) :
    (UInt64.ofNat (reached calls place)).toNat = reached calls place := by
  have bounded := reached_le_total calls place
  apply UInt64.toNat_ofNat_of_lt
  show _ < 18446744073709551616
  omega

/-- No running count is greater than the number of latencies. -/
theorem Hold.cumulative_le_count (hold : Hold calls collectors)
    (small : total .completed calls < 9007199254740992)
    {bucket : Float × UInt64}
    (member : bucket ∈ collectors.latency.cumulative) :
    bucket.2 ≤ collectors.latency.count := by
  obtain ⟨place, found⟩ := List.mem_iff_getElem?.mp member
  rw [hold.getElem?_cumulative] at found
  obtain ⟨bound, _, rfl⟩ := Option.map_eq_some_iff.mp found
  rw [UInt64.le_iff_toNat_le, hold.toNat_count small, toNat_reached small]
  exact reached_le_total calls place

theorem Hold.cumulative_rises (hold : Hold calls collectors)
    (small : total .completed calls < 9007199254740992) :
    (collectors.latency.cumulative.map Prod.snd).Pairwise (· ≤ ·) := by
  have counted {place : Nat}
      (inside : place < (collectors.latency.cumulative.map Prod.snd).length) :
      (collectors.latency.cumulative.map Prod.snd)[place] =
        UInt64.ofNat (reached calls place) := by
    have found := List.getElem?_eq_getElem inside
    rw [List.getElem?_map, hold.getElem?_cumulative, Option.map_map] at found
    obtain ⟨bound, _, same⟩ := Option.map_eq_some_iff.mp found
    exact same.symm
  apply List.pairwise_iff_getElem.mpr
  intro first second insideFirst insideSecond less
  rw [counted insideFirst, counted insideSecond, UInt64.le_iff_toNat_le,
    toNat_reached small, toNat_reached small]
  exact reached_mono calls (Nat.le_of_lt less)

end

end Collectors

theorem Counters.inFlight_after (calls : List Measurement) :
    (after calls).inFlight = UInt64.ofNat (level calls) := by
  induction calls using List.reverseRecOn with
  | nil => rfl
  | append_singleton calls call induction =>
      have step : ((after calls).record call).inFlight =
          (call.reading?.map UInt64.ofNat).getD (after calls).inFlight := by
        cases call <;> rfl
      rw [after, List.foldl_append]
      refine step.trans ?_
      rw [level_append_singleton]
      cases call.reading? with
      | none => exact induction
      | some count => rfl

end Switchboard
