import Switchboard.Proofs.Dispatcher.Fates
import Switchboard.Proofs.Metrics.Totals

/-!
# Batches

A batch is one delivery after the other, each on the hub that the one before
has left.  To see what failures change, a batch is run again on a hub whose
listeners falter, and before any delivery these may be exchanged for others
that falter, so that a listener may fail in some calls and not in others.
-/

namespace Switchboard

/-- A notification and the hub that it is dispatched on. -/
structure Delivery where
  hub : Hub
  raw : String

namespace Delivery

def step (now : Instant) (delivery : Delivery) : Step Hub Bool :=
  delivery.hub.dispatch now delivery.raw

def fate (now : Instant) (delivery : Delivery) : Fate :=
  delivery.hub.fate now delivery.raw

/-- All that a delivery does when this becomes of its notification. -/
structure ComesTo (now : Instant) (delivery : Delivery) (fate : Fate) :
    Prop where
  decided : delivery.hub.Decides now delivery.raw fate
  heard :
    fate.heard? =
      (delivery.hub.call? delivery.raw).map fun call =>
        (call.slot, call.invocation)
  performed : ∀ call, delivery.hub.call? delivery.raw = some call →
    (delivery.step now).after =
        (delivery.hub.perform now call.program).after ∧
      (delivery.hub.perform now call.program).reports <+:
        (delivery.step now).reports
  untouched : delivery.hub.call? delivery.raw = none →
    (delivery.step now).after = delivery.hub
  counted :
    (delivery.step now).reports.filter Report.isVerdict =
      (fate.measurement?.map .measured).toList
  answer : (delivery.step now).answer = fate.isFinished

theorem comesTo_fate (now : Instant) (delivery : Delivery) :
    delivery.ComesTo now (delivery.fate now) := by
  have after := delivery.hub.after_dispatch now delivery.raw
  refine ⟨?_, ?_, ?_, ?_, ?_, ?_⟩
  · exact delivery.hub.decides_fate now delivery.raw
  · exact delivery.hub.heard_fate now delivery.raw
  · intro call called
    rw [called] at after
    exact ⟨after, Hub.prefix_dispatch called now⟩
  · intro nobody
    rw [nobody] at after
    exact after
  · exact delivery.hub.filter_isVerdict_dispatch now delivery.raw
  · exact delivery.hub.answer_dispatch now delivery.raw

private theorem comesTo_iff
    {now : Instant} {delivery : Delivery} {fate : Fate} :
    delivery.ComesTo now fate ↔ delivery.fate now = fate := by
  constructor
  · intro comes
    exact Hub.decides_iff.mp comes.decided
  · rintro rfl
    exact delivery.comesTo_fate now

theorem forall₂_comesTo_iff {now : Instant} {deliveries : List Delivery}
    {fates : List Fate} :
    List.Forall₂ (ComesTo now) deliveries fates ↔
      deliveries.map (fate now) = fates := by
  have same : (fun delivery fate => Delivery.ComesTo now delivery fate) =
      fun delivery fate => Delivery.fate now delivery = fate := by
    funext delivery fate
    exact propext comesTo_iff
  rw [show ComesTo now = _ from same, ← List.forall₂_map_left_iff,
    List.forall₂_eq_eq_eq]

end Delivery

/-- A batch before which no listeners are exchanged. -/
def plain (batch : List String) : List (String × Option Listeners) :=
  batch.map fun raw => (raw, none)

namespace Hub

/-- The hub with its listeners exchanged, if there are others. -/
def refit (hub : Hub) : Option Listeners → Hub
  | none => hub
  | some listeners => hub.withListeners listeners

/-- The deliveries of a batch, with the listeners for which those of the hub
are exchanged before each. -/
def deliveries (now : Instant) :
    Hub → List (String × Option Listeners) → List Delivery
  | _, [] => []
  | hub, (raw, fitted) :: rest =>
      { hub := hub.refit fitted, raw := raw } ::
        ((hub.refit fitted).dispatch now raw).after.deliveries now rest

/-- The hub behind a batch. -/
def behind (now : Instant) : Hub → List (String × Option Listeners) → Hub
  | hub, [] => hub
  | hub, (raw, fitted) :: rest =>
      ((hub.refit fitted).dispatch now raw).after.behind now rest

/-- All exchanged listeners falter, compared with those that the hub has at
that moment of the batch. -/
def Fits (now : Instant) : Hub → List (String × Option Listeners) → Prop
  | _, [] => True
  | hub, (raw, fitted) :: rest =>
      (∀ listeners, fitted = some listeners →
        hub.dispatcher.listeners.FaltersAs listeners) ∧
        (hub.dispatch now raw).after.Fits now rest

/-! ## The batch of a hub -/

theorem raws_deliveries (now : Instant)
    (plan : List (String × Option Listeners)) (hub : Hub) :
    (hub.deliveries now plan).map Delivery.raw = plan.map Prod.fst := by
  induction plan generalizing hub with
  | nil => rfl
  | cons first rest induction =>
      simp only [deliveries, List.map_cons, induction]

theorem reports_dispatchAll (now : Instant) (batch : List String)
    (hub : Hub) :
    (hub.dispatchAll now batch).reports =
      (hub.deliveries now (plain batch)).flatMap fun delivery =>
        (delivery.step now).reports := by
  induction batch generalizing hub with
  | nil => rfl
  | cons raw rest induction =>
      simp only [dispatchAll, Step.andThen, Step.reports_map, induction,
        plain, List.map_cons, deliveries, refit, List.flatMap_cons,
        Delivery.step]

theorem after_dispatchAll (now : Instant) (batch : List String)
    (hub : Hub) :
    (hub.dispatchAll now batch).after = hub.behind now (plain batch) := by
  induction batch generalizing hub with
  | nil => rfl
  | cons raw rest induction =>
      simp only [dispatchAll, Step.andThen, Step.after_map, induction, plain,
        List.map_cons, behind, refit]

theorem answer_dispatchAll (now : Instant) (batch : List String)
    (hub : Hub) :
    (hub.dispatchAll now batch).answer =
      ((hub.deliveries now (plain batch)).map (Delivery.fate now)).countP
        Fate.isFinished := by
  induction batch generalizing hub with
  | nil => rfl
  | cons raw rest induction =>
      simp only [dispatchAll, Step.andThen, Step.answer_map, induction, plain,
        List.map_cons, deliveries, refit, List.countP_cons, Delivery.fate,
        answer_dispatch]
      split <;> rfl

theorem behind_plain (now : Instant) (batch : List String) (hub : Hub) :
    hub.behind now (plain batch) =
      batch.foldl (fun hub raw => (hub.dispatch now raw).after) hub := by
  induction batch generalizing hub with
  | nil => rfl
  | cons raw rest induction => exact induction _

end Hub

/-! ## What a batch counts -/

/-- The metrics of which a dispatched notification counts towards one at
most. -/
def Metric.verdicts : List Metric :=
  [.dispatched, .listenerFailed, .unrecognised, .malformed]

private theorem amount_of_not_isVerdict
    {metric : Metric} {measurement : Measurement}
    (verdict : metric ∈ Metric.verdicts)
    (other : (Report.measured measurement).isVerdict = false) :
    measurement.amount metric = 0 := by
  simp only [Metric.verdicts, List.mem_cons, List.not_mem_nil,
    or_false] at verdict
  rcases verdict with rfl | rfl | rfl | rfl <;>
    cases measurement <;> first | rfl | cases other

theorem total_measurements_filter {metric : Metric}
    (verdict : metric ∈ Metric.verdicts) (reports : List Report) :
    total metric (measurements (reports.filter Report.isVerdict)) =
      total metric (measurements reports) := by
  induction reports with
  | nil => rfl
  | cons report rest induction =>
      cases report with
      | measured measurement =>
          cases isVerdict : (Report.measured measurement).isVerdict with
          | true =>
              rw [List.filter_cons_of_pos isVerdict, measurements_measured,
                measurements_measured, total_cons, total_cons, induction]
          | false =>
              rw [List.filter_cons_of_neg (by simp [isVerdict]),
                measurements_measured, total_cons, induction,
                amount_of_not_isVerdict verdict isVerdict, Nat.zero_add]
      | _ => exact induction

theorem measurements_map_measured (counted : List Measurement) :
    measurements (counted.map .measured) = counted := by
  induction counted with
  | nil => rfl
  | cons measurement rest induction =>
      rw [List.map_cons, measurements_measured, induction]

private theorem filter_isVerdict_deliveries (now : Instant)
    (deliveries : List Delivery) :
    (deliveries.flatMap fun delivery =>
        (delivery.step now).reports).filter Report.isVerdict =
      ((deliveries.map (Delivery.fate now)).filterMap
        Fate.measurement?).map .measured := by
  induction deliveries with
  | nil => rfl
  | cons delivery rest induction =>
      have counted := (delivery.comesTo_fate now).counted
      rw [List.flatMap_cons, List.filter_append, induction, counted,
        List.map_cons, List.filterMap_cons]
      cases (delivery.fate now).measurement? <;> rfl

private theorem total_dispatched_fates (fates : List Fate) :
    total .dispatched (fates.filterMap Fate.measurement?) =
      fates.countP Fate.isFinished := by
  induction fates with
  | nil => rfl
  | cons fate rest induction =>
      cases fate with
      | passed => exact induction
      | finished slot invocation =>
          rw [List.countP_cons_of_pos rfl, ← induction, Nat.add_comm]
          rfl
      | _ =>
          rw [List.countP_cons_of_neg Bool.false_ne_true, ← induction]
          exact Nat.zero_add _

namespace Hub

theorem total_deliverBatch (hub : Hub) (now : Instant)
    (batch : List String) {metric : Metric}
    (verdict : metric ∈ Metric.verdicts) :
    total metric (measurements (hub.deliverBatch now batch).reports) =
      total metric
        (((hub.deliveries now (plain batch)).map
          (Delivery.fate now)).filterMap Fate.measurement?) := by
  rw [← total_measurements_filter verdict, deliverBatch,
    reports_dispatchAll, List.filter_append, filter_isVerdict_deliveries]
  simp [Report.isVerdict, measurements_map_measured]

theorem answer_deliverBatch (hub : Hub) (now : Instant)
    (batch : List String) :
    (hub.deliverBatch now batch).answer =
      total .dispatched
        (measurements (hub.deliverBatch now batch).reports) := by
  rw [total_deliverBatch hub now batch (by decide), total_dispatched_fates,
    ← answer_dispatchAll]
  rfl

end Hub

/-! ## The batch of a hub whose listeners falter -/

/-- A delivery of the same notification on a hub that differs in nothing but
its listeners, and these falter. -/
def Delivery.FaltersAs (delivery other : Delivery) : Prop :=
  delivery.hub.FaltersAs other.hub ∧ other.raw = delivery.raw

theorem Fate.Falters.filterMap_heard {fates others : List Fate}
    (falters : List.Forall₂ Fate.Falters fates others) :
    others.filterMap Fate.heard? = fates.filterMap Fate.heard? := by
  induction falters with
  | nil => rfl
  | cons first _ induction =>
      rw [List.filterMap_cons, List.filterMap_cons, first.heard, induction]

namespace Delivery

variable {deliveries others : List Delivery}

theorem FaltersAs.map_fate
    (falter : List.Forall₂ FaltersAs deliveries others) (now : Instant) :
    List.Forall₂ Fate.Falters (deliveries.map (fate now))
      (others.map (fate now)) := by
  rw [List.forall₂_map_left_iff, List.forall₂_map_right_iff]
  refine falter.imp fun delivery other pair => ?_
  rw [fate, fate, pair.2]
  exact pair.1.fate now delivery.raw

theorem FaltersAs.flatMap_reports
    (falter : List.Forall₂ FaltersAs deliveries others) (now : Instant) :
    List.Forall₂ Report.Moves
      (apart (deliveries.flatMap fun delivery =>
        (delivery.step now).reports))
      (apart (others.flatMap fun delivery =>
        (delivery.step now).reports)) := by
  induction falter with
  | nil => exact .nil
  | @cons delivery other _ _ pair _ induction =>
      rw [List.flatMap_cons, List.flatMap_cons, apart_append, apart_append]
      refine List.rel_append ?_ induction
      rw [step, step, pair.2]
      exact (pair.1.dispatch now delivery.raw).1

end Delivery

namespace Hub

private theorem FaltersAs.refitted_again {hub changed : Hub}
    (related : hub.FaltersAs changed) {fitted : Option Listeners}
    (falter : ∀ listeners, fitted = some listeners →
      hub.dispatcher.listeners.FaltersAs listeners) :
    hub.FaltersAs (changed.refit fitted) := by
  cases fitted with
  | none => exact related
  | some listeners => exact related.refit (falter listeners rfl)

/-- At every delivery the two hubs differ in nothing but their listeners. -/
theorem deliveries_falter {now : Instant}
    {plan : List (String × Option Listeners)} {hub changed : Hub}
    (related : hub.FaltersAs changed) (fits : hub.Fits now plan) :
    List.Forall₂ Delivery.FaltersAs
        (hub.deliveries now (plain (plan.map Prod.fst)))
        (changed.deliveries now plan) ∧
      (hub.behind now (plain (plan.map Prod.fst))).FaltersAs
        (changed.behind now plan) := by
  induction plan generalizing hub changed with
  | nil => exact ⟨.nil, related⟩
  | cons first rest induction =>
      obtain ⟨raw, fitted⟩ := first
      obtain ⟨falter, later⟩ := fits
      have refitted := related.refitted_again falter
      obtain ⟨tail, last⟩ :=
        induction (refitted.dispatch now raw).2 later
      exact ⟨.cons ⟨refitted, rfl⟩ tail, last⟩

/-- The plan by which the marked calls fail and the others do not. -/
def failingAt (now : Instant) :
    Hub → List (String × Bool) → List (String × Option Listeners)
  | _, [] => []
  | hub, (raw, marked) :: rest =>
      (raw, some (if marked then hub.dispatcher.listeners.faltering
        else hub.dispatcher.listeners)) ::
          (hub.dispatch now raw).after.failingAt now rest

theorem raws_failingAt (now : Instant) (marks : List (String × Bool))
    (hub : Hub) :
    (hub.failingAt now marks).map Prod.fst = marks.map Prod.fst := by
  induction marks generalizing hub with
  | nil => rfl
  | cons mark rest induction =>
      simp only [failingAt, List.map_cons, induction]

private theorem fits_failingAt (now : Instant) (marks : List (String × Bool))
    (hub : Hub) : hub.Fits now (hub.failingAt now marks) := by
  induction marks generalizing hub with
  | nil => trivial
  | cons mark rest induction =>
      refine ⟨?_, induction _⟩
      rintro listeners ⟨⟩
      exact hub.dispatcher.listeners.faltersAs_of_marked mark.2

private theorem fates_failingAt {now : Instant} {marks : List (String × Bool)}
    {hub changed : Hub} (related : hub.FaltersAs changed) :
    (changed.deliveries now (hub.failingAt now marks)).map
        (Delivery.fate now) =
      List.zipWith
        (fun mark fate => if mark.2 then fate.failing else fate) marks
        ((hub.deliveries now (plain (marks.map Prod.fst))).map
          (Delivery.fate now)) := by
  induction marks generalizing hub changed with
  | nil => rfl
  | cons mark rest induction =>
      obtain ⟨raw, marked⟩ := mark
      have falter := hub.dispatcher.listeners.faltersAs_of_marked marked
      have later := induction ((related.refit falter).dispatch now raw).2
      have first : (changed.withListeners
          (if marked then hub.dispatcher.listeners.faltering
            else hub.dispatcher.listeners)).fate now raw =
          if marked then (hub.fate now raw).failing
            else hub.fate now raw := by
        -- With its listeners exchanged, nothing is left of the other hub.
        rw [related.withListeners_eq]
        cases marked with
        | true => exact hub.fate_faltering now raw
        | false => rfl
      exact congrArg₂ List.cons first later

/-- A batch is dispatched in order and every notification is counted once, or
not at all if there is nobody to hear it.  Listeners that fail in any of their
calls change nothing but how these calls are counted. -/
theorem batches_are_isolated_and_accounted_for (hub : Hub) (now : Instant)
    (batch : List String) :
    let step := hub.deliverBatch now batch
    let deliveries := hub.deliveries now (plain batch)
    deliveries.map Delivery.raw = batch ∧
      step.reports =
        (deliveries.flatMap fun delivery => (delivery.step now).reports) ++
          [.logged (.batchProcessed batch.length step.answer)] ∧
      step.after =
        batch.foldl (fun hub raw => (hub.dispatch now raw).after) hub ∧
      ∃ fates,
        List.Forall₂ (Delivery.ComesTo now) deliveries fates ∧
        (∀ others, List.Forall₂ (Delivery.ComesTo now) deliveries others →
          others = fates) ∧
        (∀ metric ∈ Metric.verdicts,
          total metric (measurements step.reports) =
            total metric (fates.filterMap Fate.measurement?)) ∧
        step.answer = total .dispatched (measurements step.reports) ∧
        (∀ counters : Counters,
          ((measurements step.reports).foldl Counters.record counters).get
              .dispatched =
            counters.get .dispatched + UInt64.ofNat step.answer) ∧
        (∀ changed plan, hub.FaltersAs changed →
          plan.map Prod.fst = batch → hub.Fits now plan →
          ∃ others,
            List.Forall₂ (Delivery.ComesTo now)
                (changed.deliveries now plan) others ∧
              List.Forall₂ Fate.Falters fates others ∧
              others.filterMap Fate.heard? = fates.filterMap Fate.heard? ∧
              List.Forall₂ Report.Moves
                (apart (deliveries.flatMap fun delivery =>
                  (delivery.step now).reports))
                (apart ((changed.deliveries now plan).flatMap
                  fun delivery => (delivery.step now).reports)) ∧
              step.after.FaltersAs (changed.behind now plan)) ∧
        ∀ marks : List (String × Bool), marks.map Prod.fst = batch →
          ∃ plan, plan.map Prod.fst = batch ∧ hub.Fits now plan ∧
            List.Forall₂ (Delivery.ComesTo now) (hub.deliveries now plan)
              (List.zipWith
                (fun mark fate => if mark.2 then fate.failing else fate)
                marks fates) := by
  intro step deliveries
  refine ⟨?_, ?_, ?_, deliveries.map (Delivery.fate now), ?_, ?_, ?_, ?_, ?_,
    ?_, ?_⟩
  · rw [show deliveries.map Delivery.raw = _ from
      raws_deliveries now (plain batch) hub, plain, List.map_map]
    exact List.map_id batch
  · rw [show deliveries.flatMap _ = _ from
      (reports_dispatchAll now batch hub).symm]
    rfl
  · rw [← behind_plain, ← after_dispatchAll]
    rfl
  · exact Delivery.forall₂_comesTo_iff.mpr rfl
  · intro others comes
    exact (Delivery.forall₂_comesTo_iff.mp comes).symm
  · intro metric verdict
    exact hub.total_deliverBatch now batch verdict
  · exact hub.answer_deliverBatch now batch
  · intro counters
    rw [Counters.get_foldl_record, ← answer_deliverBatch]
  · rintro changed plan related rfl fits
    obtain ⟨falter, last⟩ := deliveries_falter related fits
    have fates := Delivery.FaltersAs.map_fate falter now
    refine ⟨_, Delivery.forall₂_comesTo_iff.mpr rfl, fates,
      Fate.Falters.filterMap_heard fates,
      Delivery.FaltersAs.flatMap_reports falter now, ?_⟩
    rw [← after_dispatchAll] at last
    exact last
  · rintro marks rfl
    exact ⟨hub.failingAt now marks, hub.raws_failingAt now marks,
      hub.fits_failingAt now marks,
      Delivery.forall₂_comesTo_iff.mpr (fates_failingAt (.refl hub))⟩

/-- A launch is told twice, with something unreadable between, and in the other
run the listener fails the second time. -/
theorem second_call_moved_to_failed :
    let launched := "\x7b\"method\":\"onLaunched\"\x7d"
    let listener : Listener := fun _ => .enqueue "seen" fun _ => .finish
    let second : Listener := fun _ =>
      .enqueue "seen" fun _ => .fail (.told "again")
    let hub : Hub :=
      { correlator := { defaultTimeout := 1, maxRecordAge := 1 }
        dispatcher := { listeners := { lifecycle := some listener } } }
    let batch := [launched, "junk", launched]
    let plan := [(launched, none), ("junk", none),
      (launched, some { lifecycle := some second })]
    let invocation := Invocation.named "onLaunched" "\x7b\x7d"
    (hub.deliverBatch 0 batch).answer = 2 ∧
      hub.FaltersAs hub ∧ plan.map Prod.fst = batch ∧ hub.Fits 0 plan ∧
      (hub.deliveries 0 plan).map (Delivery.fate 0) =
        [.finished .lifecycle invocation, .malformed,
          .failed .lifecycle invocation] ∧
      (hub.deliverBatch 0 batch).after.FaltersAs (hub.behind 0 plan) := by
  intro launched listener second hub batch plan invocation
  have related := FaltersAs.refl hub
  have fits : hub.Fits 0 plan := by
    have heard : Notification.addressee? launched =
        some (.lifecycle, invocation) := by decide +kernel
    have unheard : Notification.addressee? "junk" = none := by
      decide +kernel
    have kept : ((hub.dispatch 0 launched).after.dispatch 0
        "junk").after.dispatcher.listeners = hub.dispatcher.listeners := by
      rw [after_dispatch, call?, unheard, after_dispatch, call?, heard]
      rfl
    refine ⟨?_, ?_, ?_, trivial⟩
    · intro listeners impossible
      cases impossible
    · intro listeners impossible
      cases impossible
    · rintro listeners ⟨⟩ slot
      rw [kept]
      cases slot with
      | lifecycle =>
          refine .some fun _ => ?_
          exact .enqueue "seen" fun _ => .faltered (.told "again")
      | _ => exact .none
  obtain ⟨-, -, -, fates, -, -, -, -, -, changes, -⟩ :=
    hub.batches_are_isolated_and_accounted_for 0 batch
  obtain ⟨others, -, -, -, -, last⟩ := changes hub plan related rfl fits
  exact ⟨by decide +kernel, related, rfl, fits, by decide +kernel, last⟩

end Hub

end Switchboard
