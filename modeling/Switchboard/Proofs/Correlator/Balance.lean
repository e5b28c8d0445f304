import Switchboard.Proofs.Correlator.Decisions
import Switchboard.Proofs.Correlator.Tallies
import Switchboard.Proofs.Metrics.Totals

/-!
# The metrics balance with the map

Whoever keeps the metrics of a correlator sees nothing but its measurements.
They are books of the map all the same: every record is entered when it is
registered, and is struck off when it is decided or let go, and every step
keeps both balances, that of the pending records and that of all records.
-/

namespace Switchboard

/-- The metric that counts decisions of a kind. -/
def Decision.metric : Decision → Metric
  | .completed _ => .completed
  | .cancelled => .cancelled
  | .timedOut => .timedOut

namespace Correlator

/-- What it means for the metrics that the record of an id has changed its
state, has come, or has gone. -/
def crossing (before after : Correlator) (id : RequestId) : Option Metric :=
  match before.state? id, after.state? id with
  | none, some .pending => some .registered
  | some .pending, some .completed => some .completed
  | some .pending, some .timedOut => some .timedOut
  | some .pending, none => some .cancelled
  | _, _ => none

/-- A crossing, counted for a metric. -/
def crossed (before after : Correlator) (id : RequestId)
    (metric : Metric) : Nat :=
  if crossing before after id = some metric then 1 else 0

/-- The measurements of an operation on an id are those of the crossing, and
so many of late replies. -/
def Measures (id : RequestId) (before after : Correlator) (late : Nat)
    (reports : List Report) : Prop :=
  ∀ metric,
    total metric (measurements reports) =
      crossed before after id metric +
        if metric = .lateReply then late else 0

theorem crossing_of_same {before after : Correlator} {id : RequestId}
    (same : after.state? id = before.state? id) :
    crossing before after id = none := by
  unfold crossing
  rw [same]
  cases before.state? id with
  | none => rfl
  | some state => cases state <;> rfl

theorem crossing_self (correlator : Correlator) (id : RequestId) :
    crossing correlator correlator id = none :=
  crossing_of_same rfl

theorem crossing_of_completed {before : Correlator} (after : Correlator)
    {id : RequestId} (completed : before.state? id = some .completed) :
    crossing before after id = none := by
  simp [crossing, completed]

theorem measures_one {id : RequestId} {before after : Correlator}
    {reports : List Report} (measurement : Measurement)
    (only : measurements reports = [measurement])
    (once : measurement.weight = 1)
    (told : crossing before after id = measurement.metric?) :
    Measures id before after 0 reports := by
  intro metric
  simp [only, crossed, told, Measurement.amount, once]

theorem measures_nothing {id : RequestId} {before after : Correlator}
    {reports : List Report} (silent : measurements reports = [])
    (still : crossing before after id = none) :
    Measures id before after 0 reports := by
  intro metric
  simp [silent, crossed, still]

private theorem measures_late {id : RequestId} {before after : Correlator}
    {reports : List Report} (only : measurements reports = [.lateReply])
    (still : crossing before after id = none) :
    Measures id before after 1 reports := by
  intro metric
  simp [only, crossed, still, Measurement.amount, Measurement.metric?,
    Measurement.weight, eq_comm]

theorem attach_measures (correlator : Correlator) (now : Instant)
    (id : RequestId) :
    Measures id correlator (correlator.attach now id).after 0
      (correlator.attach now id).reports := by
  unfold attach
  by_cases closed : correlator.closed = true
  · simp only [if_pos closed]
    exact measures_nothing rfl (crossing_self _ _)
  · simp only [if_neg closed]
    cases found : Records.find? id correlator.records with
    | none =>
        refine measures_one .registered rfl rfl ?_
        simp [crossing, state?, found, store, Records.find?_put_self,
          Measurement.metric?]
    | some record =>
        cases state : record.state with
        | completed =>
            simp only [state]
            refine measures_nothing rfl (crossing_of_completed _ ?_)
            simp [state?, found, state]
        | _ =>
            simp only [state]
            exact measures_nothing rfl (crossing_self _ _)

/-- A reply that is refused is late, unless the correlator is closed. -/
theorem complete_measures (correlator : Correlator) (now : Instant)
    (id : RequestId) (payload : String) :
    Measures id correlator (correlator.complete now id payload).after
      (if correlator.closed || (correlator.complete now id payload).answer
        then 0 else 1)
      (correlator.complete now id payload).reports := by
  unfold complete
  by_cases closed : correlator.closed = true
  · simp only [if_pos closed]
    simpa [closed] using measures_nothing rfl (crossing_self correlator id)
  · simp only [if_neg closed]
    cases found : Records.find? id correlator.records with
    | none =>
        simpa [closed] using measures_late rfl (crossing_self correlator id)
    | some record =>
        by_cases pending : record.state = .pending
        · simp only [Record.fulfil, if_pos pending, Bool.or_true, if_true]
          refine measures_one _ rfl rfl ?_
          simp [crossing, state?, found, pending, store,
            Records.find?_put_self, Measurement.metric?]
        · simp only [Record.fulfil, if_neg pending]
          simpa [closed] using measures_late rfl (crossing_self correlator id)

theorem cancel_measures (correlator : Correlator) (id : RequestId) :
    Measures id correlator (correlator.cancel id).after 0
      (correlator.cancel id).reports := by
  unfold cancel
  cases found : Records.find? id correlator.records with
  | none => exact measures_nothing rfl (crossing_self _ _)
  | some record =>
      by_cases pending : record.state = .pending
      · simp only [Record.cancel, if_pos pending]
        refine measures_one _ rfl rfl ?_
        simp [crossing, state?, found, pending, remove,
          Records.find?_erase_self, Measurement.metric?]
      · simp only [Record.cancel, if_neg pending]
        exact measures_nothing rfl (crossing_self _ _)

theorem collect_measures (correlator : Correlator) (id : RequestId)
    (settlement : Settlement) :
    Measures id correlator (correlator.collect id settlement).after 0
      (correlator.collect id settlement).reports := by
  cases settlement with
  | reply payload =>
      unfold collect
      by_cases completed : correlator.state? id = some .completed
      · simp only [if_pos completed]
        exact measures_nothing rfl (crossing_of_completed _ completed)
      · simp only [if_neg completed]
        exact measures_nothing rfl (crossing_self _ _)
  | _ => exact measures_nothing rfl (crossing_self _ _)

theorem expire_measures (correlator : Correlator) (id : RequestId) :
    Measures id correlator (correlator.expire id).after 0
      (correlator.expire id).reports := by
  unfold expire
  cases found : Records.find? id correlator.records with
  | none => exact measures_nothing rfl (crossing_self _ _)
  | some record =>
      cases state : record.state with
      | pending =>
          simp only [state]
          refine measures_one _ rfl rfl ?_
          simp [crossing, state?, found, state, store, Record.timeOut,
            Records.find?_put_self, Measurement.metric?]
      | completed =>
          simp only [state]
          refine measures_nothing rfl (crossing_of_completed _ ?_)
          simp [state?, found, state]
      | _ =>
          simp only [state]
          exact measures_nothing rfl (crossing_self _ _)

/-- The records that the first correlator holds and the second one does
not. -/
def lost (before after : Correlator) : Records :=
  before.records.filter fun entry => !after.owns entry.2.cell

theorem lost_eq_nil {before after : Correlator} (sound : before.Sound)
    (kept : ∀ {id : RequestId} {record : Record},
      Records.find? id before.records = some record →
        after.owns record.cell = true) :
    before.lost after = [] := by
  apply List.filter_eq_nil_iff.mpr
  intro entry member
  simp [kept (Records.find?_of_mem sound.keyed member)]

theorem lost_of_erase {before after : Correlator} (sound : before.Sound)
    {id : RequestId} (erased : after.records = Records.erase id before.records) :
    before.lost after = before.records.filter fun entry => entry.1 = id := by
  apply List.filter_congr
  intro entry member
  have found := Records.find?_of_mem sound.keyed member
  by_cases same : entry.1 = id
  · have gone : after.owns entry.2.cell = false := by
      apply Bool.eq_false_iff.mpr
      intro owned
      obtain ⟨other, inside, equal⟩ := List.any_eq_true.mp owned
      rw [erased] at inside
      obtain ⟨present, apart⟩ := List.mem_filter.mp inside
      have twin := sound.apart
        (Records.find?_of_mem sound.keyed present) found
        (by simpa using equal)
      simp [twin, same] at apart
    simp [gone, same]
  · have kept : after.owns entry.2.cell = true := by
      apply owns_of_find?
      rw [erased, Records.find?_erase_of_ne same, found]
    simp [kept, same]

/-- How an operation shifts the record of an id from one state to another,
with what it decides and how many records it loses. -/
inductive Shifts (id : RequestId) (before after : Correlator) :
    Option Decision → Nat → Prop where
  | stayed :
      after.state? id = before.state? id →
      Shifts id before after none 0
  | registered :
      before.state? id = none →
      after.state? id = some .pending →
      Shifts id before after none 0
  | completed {payload : String} :
      before.state? id = some .pending →
      after.state? id = some .completed →
      Shifts id before after (some (.completed payload)) 0
  | timedOut :
      before.state? id = some .pending →
      after.state? id = some .timedOut →
      Shifts id before after (some .timedOut) 0
  | cancelled :
      before.state? id = some .pending →
      after.state? id = none →
      Shifts id before after (some .cancelled) 1
  | collected :
      before.state? id = some .completed →
      after.state? id = none →
      Shifts id before after none 1

namespace Touches

variable {id : RequestId} {before after : Correlator}
  {ruling : Option Ruling}

/-- A record that stays under its id keeps its cell. -/
theorem lost_eq_nil_of_kept (touches : Touches id before ruling after)
    (sound : before.Sound)
    (kept : ∀ {record : Record},
      Records.find? id before.records = some record →
        after.owns record.cell = true) :
    before.lost after = [] := by
  apply lost_eq_nil sound
  intro other record found
  by_cases same : other = id
  · subst same
    exact kept found
  · exact owns_of_find? ((touches.elsewhere same).trans found)

private theorem length_lost_of_erase (sound : before.Sound) {record : Record}
    (found : Records.find? id before.records = some record)
    (erased : after.records = Records.erase id before.records) :
    (before.lost after).length = 1 := by
  have member : id ∈ before.records.map Prod.fst :=
    List.mem_map.mpr ⟨_, Records.mem_of_find? found, rfl⟩
  have once : (before.records.map Prod.fst).count id = 1 :=
    List.count_eq_one_of_mem sound.keyed member
  rw [List.count, List.countP_map] at once
  rw [lost_of_erase sound erased, ← List.countP_eq_length_filter]
  exact once

private theorem lost_of_put (touches : Touches id before ruling after)
    (sound : before.Sound) {record changed : Record}
    (found : Records.find? id before.records = some record)
    (stored : after.records = Records.put id changed before.records)
    (same : changed.cell = record.cell) :
    before.lost after = [] := by
  apply touches.lost_eq_nil_of_kept sound
  intro other otherFound
  obtain rfl : record = other := Option.some.inj (found.symm.trans otherFound)
  rw [← same]
  apply owns_of_find?
  rw [stored, Records.find?_put_self]

theorem shifts (touches : Touches id before ruling after)
    (sound : before.Sound) :
    Shifts id before after (ruling.map Prod.snd)
      (before.lost after).length := by
  have touched := touches
  cases touches with
  | unchanged =>
      rw [touched.lost_eq_nil_of_kept sound owns_of_find?]
      exact .stayed rfl
  | registered now opened absent =>
      rw [touched.lost_eq_nil_of_kept sound (by simp [absent])]
      apply Shifts.registered
      · simp [state?, absent]
      · simp [state?, store, Records.find?_put_self, Record.fresh]
  | fulfilled record payload found pending =>
      rw [touched.lost_of_put sound found rfl rfl]
      apply Shifts.completed
      · simp [state?, found, pending]
      · simp [state?, store, Records.find?_put_self]
  | cancelled record found pending =>
      rw [length_lost_of_erase sound found rfl]
      apply Shifts.cancelled
      · simp [state?, found, pending]
      · simp [state?, remove, Records.find?_erase_self]
  | timedOut record found pending =>
      rw [touched.lost_of_put sound found rfl rfl]
      apply Shifts.timedOut
      · simp [state?, found, pending]
      · simp [state?, store, Records.find?_put_self]
  | collected record found completed =>
      rw [length_lost_of_erase sound found rfl]
      apply Shifts.collected
      · simp [state?, found, completed]
      · simp [state?, remove, Records.find?_erase_self]

end Touches

namespace Shifts

variable {id : RequestId} {before after : Correlator}
  {decision : Option Decision} {lost : Nat}

theorem pending_balance (shifts : Shifts id before after decision lost)
    (recounts : Recounts before (before.stateLost after id)
      (after.stateLost before id) after) :
    Records.countIn .pending after.records +
        (crossed before after id .completed +
          crossed before after id .timedOut +
          crossed before after id .cancelled) =
      Records.countIn .pending before.records +
        crossed before after id .registered := by
  have held := recounts.held .pending
  cases shifts with
  | stayed same =>
      simpa [crossed, crossing_of_same same, stateLost, same] using held
  | _ first second =>
      simp [stateLost, first, second] at held
      simp [crossed, crossing, first, second]
      omega

theorem count_balance (shifts : Shifts id before after decision lost)
    (recounts : Recounts before (before.stateLost after id)
      (after.stateLost before id) after) :
    after.count + lost =
      before.count + crossed before after id .registered := by
  have pending := recounts.held .pending
  have completed := recounts.held .completed
  have timedOut := recounts.held .timedOut
  have cancelled := recounts.held .cancelled
  rw [count, count, Records.length_eq_countIn, Records.length_eq_countIn]
  cases shifts with
  | stayed same =>
      simp [stateLost, same] at pending completed timedOut cancelled
      simp [crossed, crossing_of_same same]
      omega
  | _ first second =>
      simp [stateLost, first, second]
        at pending completed timedOut cancelled
      simp [crossed, crossing, first, second]
      omega

/-- A decision crosses, and without one only a registration may. -/
theorem crossed_eq (shifts : Shifts id before after decision lost)
    {metric : Metric} (later : metric ≠ .registered) :
    crossed before after id metric =
      if decision.map Decision.metric = some metric then 1 else 0 := by
  cases shifts with
  | stayed same => simp [crossed, crossing_of_same same]
  | registered first second =>
      simp [crossed, crossing, first, second, later.symm]
  | _ first second => simp [crossed, crossing, first, second, Decision.metric]

theorem crossed_eq_zero (shifts : Shifts id before after decision lost)
    {metric : Metric} (later : metric ≠ .registered)
    (undecided : ∀ decision : Decision, decision.metric ≠ metric) :
    crossed before after id metric = 0 := by
  rw [shifts.crossed_eq later, if_neg]
  cases decision <;> simp [undecided]

/-- Where nothing is collected, a record that goes is cancelled. -/
theorem lost_eq_crossed (shifts : Shifts id before after decision lost)
    (idle : decision = none → after = before) :
    lost = crossed before after id .cancelled := by
  cases shifts with
  | stayed same => simp [crossed, crossing_of_same same]
  | registered first second => simp [crossed, crossing, first, second]
  | completed first second => simp [crossed, crossing, first, second]
  | timedOut first second => simp [crossed, crossing, first, second]
  | cancelled first second => simp [crossed, crossing, first, second]
  | collected first second =>
      rw [idle rfl, first] at second
      cases second

end Shifts

/-- A reply is taken by a record, and one that is not changes nothing. -/
theorem complete_cases (correlator : Correlator) (now : Instant)
    (id : RequestId) (payload : String) :
    (correlator.complete now id payload).answer = true ∧
        (∃ record, Records.find? id correlator.records = some record) ∨
      (correlator.complete now id payload).answer = false ∧
        (correlator.complete now id payload).after = correlator := by
  unfold complete
  by_cases closed : correlator.closed = true
  · simp [closed]
  · simp only [if_neg closed]
    cases found : Records.find? id correlator.records with
    | none => simp
    | some record =>
        by_cases pending : record.state = .pending <;>
          simp [Record.fulfil, pending]

theorem cancel_cases (correlator : Correlator) (id : RequestId) :
    (correlator.cancel id).answer = true ∧
        (∃ record, Records.find? id correlator.records = some record) ∨
      (correlator.cancel id).answer = false ∧
        (correlator.cancel id).after = correlator := by
  unfold cancel
  cases found : Records.find? id correlator.records with
  | none => simp
  | some record =>
      by_cases pending : record.state = .pending <;>
        simp [Record.cancel, pending]

namespace Clears

variable {keep : Record → Bool} {reason : Settlement}
  {before after : Correlator}

theorem lost_eq (clears : Clears keep reason before after)
    (sound : before.Sound) :
    before.lost after = before.records.filter fun entry => !keep entry.2 := by
  apply List.filter_congr
  intro entry member
  have found := Records.find?_of_mem sound.keyed member
  congr 1
  cases kept : keep entry.2 with
  | true =>
      apply owns_of_find?
      exact (clears.find?_eq_some_iff sound).mpr ⟨found, kept⟩
  | false =>
      apply Bool.eq_false_iff.mpr
      intro owned
      obtain ⟨other, inside, equal⟩ := List.any_eq_true.mp owned
      rw [clears.records] at inside
      obtain ⟨present, stays⟩ := List.mem_filter.mp inside
      have otherFound := Records.find?_of_mem sound.keyed present
      have twin := sound.apart otherFound found (by simpa using equal)
      rw [twin, found] at otherFound
      have same : entry.2 = other.2 := Option.some.inj otherFound
      simp [← same, kept] at stays

theorem pending_balance (clears : Clears keep reason before after)
    (sound : before.Sound) :
    Records.countIn .pending after.records +
        Records.countIn .pending (before.lost after) =
      Records.countIn .pending before.records := by
  rw [clears.lost_eq sound, clears.records]
  exact Records.countIn_filter_add .pending (fun entry => keep entry.2) _

theorem count_balance (clears : Clears keep reason before after)
    (sound : before.Sound) :
    after.count + (before.lost after).length = before.count := by
  rw [clears.lost_eq sound, count, clears.records]
  exact (List.length_eq_length_filter_add _).symm

end Clears

end Correlator

end Switchboard
