import Switchboard.Proofs.Correlator.Books
import Switchboard.Proofs.Correlator.Persistence
import Switchboard.Proofs.Correlator.Tallies

/-!
# Sweeps

A sweep is a filter: it keeps the pending records that are not over age at its
time.  All it does to waiters follows from what it settles the cells of the
other records with, and ages do not grow towards earlier times, so a second
sweep for the same time or an earlier one finds nothing.
-/

namespace Switchboard

namespace Correlator

theorem keeps_iff {correlator : Correlator} {time : Instant}
    {record : Record} :
    correlator.keeps time record = true ↔
      record.age time ≤ correlator.maxRecordAge ∧
        record.state = .pending := by
  simp [keeps]

/-- What is kept for a time is kept for an earlier one. -/
theorem keeps_of_le {correlator : Correlator} {earlier later : Instant}
    (ordered : earlier ≤ later) {record : Record}
    (kept : correlator.keeps later record = true) :
    correlator.keeps earlier record = true := by
  obtain ⟨young, pending⟩ := keeps_iff.mp kept
  exact keeps_iff.mpr
    ⟨Nat.le_trans (Nat.sub_le_sub_right ordered _) young, pending⟩

theorem sweep_of_all_kept (correlator : Correlator) (time : Instant)
    (kept : ∀ entry ∈ correlator.records,
      correlator.keeps time entry.2 = true) :
    (correlator.sweep time).answer = 0 ∧
      (correlator.sweep time).after = correlator := by
  have stale : (correlator.records.filter fun entry =>
      !correlator.keeps time entry.2) = [] :=
    List.filter_eq_nil_iff.mpr fun entry member => by
      simp [kept entry member]
  have same : (correlator.records.filter fun entry =>
      correlator.keeps time entry.2) = correlator.records :=
    List.filter_eq_self.mpr kept
  simp [sweep, stale, same, Records.release]

theorem answer_sweep_add_count (correlator : Correlator) (time : Instant) :
    (correlator.sweep time).answer + (correlator.sweep time).after.count =
      correlator.count := by
  have split := List.length_eq_length_filter_add
    (l := correlator.records) (fun entry => correlator.keeps time entry.2)
  simp only [sweep, count]
  omega

end Correlator

namespace Session

section Swept

variable {session : Session} (sound : session.Sound) (time : Instant)

include sound

theorem find?_sweep {id : RequestId} {record : Record} :
    Records.find? id
        (session.act (.sweep time)).after.correlator.records = some record ↔
      Records.find? id session.correlator.records = some record ∧
        session.correlator.keeps time record = true :=
  (Correlator.sweep_clears sound.correlator time).find?_eq_some_iff
    sound.correlator

/-- A removed record's cell is settled behind a sweep: with the reply of a
completed record, and as expired otherwise. -/
theorem settlement?_of_swept {id : RequestId} {record : Record}
    (found : Records.find? id session.correlator.records = some record)
    (swept : Records.find? id
      (session.act (.sweep time)).after.correlator.records = none) :
    ∃ settlement,
      (session.act (.sweep time)).after.correlator.cells.settlement?
          record.cell = some settlement ∧
        (record.state = .pending ∨ record.state = .timedOut →
          settlement = .expired) ∧
        (record.state = .completed →
          ∃ payload, record.payload = some payload ∧
            settlement = .reply payload) := by
  have dropped : session.correlator.keeps time record = false := by
    by_contra kept
    rw [Bool.not_eq_false] at kept
    rw [(find?_sweep sound time).mpr ⟨found, kept⟩] at swept
    cases swept
  have recordSound := sound.correlator.records found
  refine ⟨_, (Correlator.sweep_clears sound.correlator
    time).settlement?_of_dropped found dropped, ?_, ?_⟩
  · intro undecided
    rw [(recordSound.unsettled undecided).2]
    rfl
  · intro completed
    obtain ⟨payload, stored, settled⟩ := recordSound.completed completed
    exact ⟨payload, stored, by rw [settled]; rfl⟩

theorem keeps_of_swept {entry : RequestId × Record}
    (left : entry ∈ (session.act (.sweep time)).after.correlator.records) :
    session.correlator.keeps time entry.2 = true := by
  have after := (act_sound sound (.sweep time)).correlator
  exact ((find?_sweep sound time).mp
    (Records.find?_of_mem after.keyed left)).2

private theorem tallies_of_swept (counted : session.correlator.Counted) :
    let after := (session.act (.sweep time)).after.correlator
    after.pending = UInt64.ofNat after.count ∧ after.completed = 0 := by
  intro after
  have tally : after.Counted := act_counted sound counted (.sweep time)
  have pending : Records.countIn .pending after.records = after.count := by
    apply List.countP_eq_length.mpr
    intro entry left
    have kept := Correlator.keeps_iff.mp (keeps_of_swept sound time left)
    simpa using kept.2
  have completed : Records.countIn .completed after.records = 0 := by
    apply List.countP_eq_zero.mpr
    intro entry left
    have kept := Correlator.keeps_iff.mp (keeps_of_swept sound time left)
    simp [kept.2]
  have tallies :
      after.pending =
          UInt64.ofNat (Records.countIn .pending after.records) ∧
        after.completed =
          UInt64.ofNat (Records.countIn .completed after.records) :=
    ⟨tally rfl, tally rfl⟩
  rw [pending, completed] at tallies
  exact tallies

/-- A second sweep for no later a time finds nothing. -/
theorem sweep_again {earlier : Instant} (ordered : earlier ≤ time) :
    let swept := (session.act (.sweep time)).after
    (swept.act (.sweep earlier)).answer = .count 0 ∧
      (swept.act (.sweep earlier)).after = swept := by
  intro swept
  have bound : swept.correlator.maxRecordAge =
      session.correlator.maxRecordAge :=
    maxRecordAge_act sound (.sweep time)
  obtain ⟨answer, after⟩ :=
    swept.correlator.sweep_of_all_kept earlier fun entry left => by
      apply Correlator.keeps_of_le ordered
      have kept := keeps_of_swept sound time left
      simpa [Correlator.keeps, bound] using kept
  constructor
  · simp [act, onCorrelator, answer]
  · simp only [act, onCorrelator, Step.after_map, Step.after_lift, after]

end Swept

/-- A sweep removes exactly the records that are over age or no longer pending,
reports them, and lets their waiters go with the reply if there is one.  A
second sweep for that time or an earlier one changes nothing. -/
theorem sweeps_remove_exactly_the_stale (defaultTimeout maxRecordAge : Nat)
    (actions : List Action) (time : Instant) :
    let session := (start defaultTimeout maxRecordAge).run actions
    let before := session.correlator
    let sweep := session.act (.sweep time)
    let after := sweep.after.correlator
    (∀ id record, Records.find? id after.records = some record ↔
      Records.find? id before.records = some record ∧
        record.state = .pending ∧ record.age time ≤ maxRecordAge) ∧
    (∀ id record, Records.find? id after.records = some record →
      after.cells.settlement? record.cell = none) ∧
    (∃ removed, sweep.answer = .count removed ∧
      removed + after.count = before.count ∧
      measurements sweep.reports =
        [.reaped removed, .inFlight after.count]) ∧
    (∀ id record,
      Records.find? id before.records = some record →
      Records.find? id after.records = none →
        ∀ number waiter later,
          (session.waiters id)[number]? = some waiter →
          waiter.stage.cell? = some record.cell →
          .poll id number ∉ later →
            let polled := (sweep.after.run later).act (.poll id number)
            (record.state = .pending ∨ record.state = .timedOut →
              polled.answer = .polled (some .abandoned)) ∧
            (record.state = .completed →
              ∃ payload, record.payload = some payload ∧
                polled.answer = .polled (some (.completed payload)))) ∧
    after.pending = UInt64.ofNat after.count ∧
    (after.count < UInt64.size → after.pending.toNat = after.count) ∧
    after.completed = 0 ∧
    ∀ earlier, earlier ≤ time →
      (sweep.after.act (.sweep earlier)).answer = .count 0 ∧
        (sweep.after.act (.sweep earlier)).after = sweep.after := by
  intro session before sweep after
  have begunSound := sound_start defaultTimeout maxRecordAge
  have sound : session.Sound := run_sound begunSound actions
  have afterSound : sweep.after.Sound := act_sound sound (.sweep time)
  have bound : before.maxRecordAge = maxRecordAge :=
    maxRecordAge_run begunSound actions
  have left : ∀ id record, Records.find? id after.records = some record ↔
      Records.find? id before.records = some record ∧
        record.state = .pending ∧ record.age time ≤ maxRecordAge := by
    intro id record
    rw [← bound, and_comm (a := record.state = .pending),
      ← Correlator.keeps_iff]
    exact find?_sweep sound time
  obtain ⟨pending, completed⟩ := tallies_of_swept sound time
    (run_counted begunSound (counted_start _ _) actions)
  refine ⟨left, ?_, ?_, ?_, pending, ?_, completed, ?_⟩
  · intro id record found
    exact afterSound.correlator.unsettled_of_pending found
      ((left id record).mp found).2.1
  · exact ⟨(before.sweep time).answer, rfl,
      before.answer_sweep_add_count time, measurements_sweep before time⟩
  · intro id record found gone number waiter later present waits unpolled
      polled
    obtain ⟨settlement, settled, expired, replied⟩ :=
      settlement?_of_swept sound time found gone
    have answer : polled.answer = .polled (some settlement.outcome) :=
      answer_next_poll_of_settled afterSound present waits settled unpolled
    constructor
    · intro undecided
      rw [answer, expired undecided]
      rfl
    · intro isCompleted
      obtain ⟨payload, stored, reply⟩ := replied isCompleted
      exact ⟨payload, stored, by rw [answer, reply]; rfl⟩
  · intro room
    rw [pending]
    exact UInt64.toNat_ofNat_of_lt' room
  · intro earlier ordered
    exact sweep_again sound time ordered

/-- Of four records, an old one, a completed one, one that has timed out and a
young one, a sweep leaves the last.  The waiters of the others learn of it
after the ids have been used again. -/
theorem sweep_of_four_records :
    let session := (start 5000 10).run
      [.openHandle 1, .openHandle 2, .complete 2 "two", .wait 3 5,
        .openHandle 3, .advance 20, .ring, .poll 3 0, .openHandle 4]
    let sweep := session.act (.sweep 20)
    let later : List Action := [.openHandle 1, .openHandle 2, .openHandle 3]
    let polled := fun id number =>
      ((sweep.after.run later).act (.poll id number)).answer
    sweep.answer = .count 3 ∧
      polled 1 0 = .polled (some .abandoned) ∧
      polled 2 0 = .polled (some (.completed "two")) ∧
      polled 3 1 = .polled (some .abandoned) ∧
      sweep.after.correlator.pending.toNat = 1 ∧
      (sweep.after.act (.sweep 20)).answer = .count 0 := by
  intro session sweep later polled
  obtain ⟨_, _, _, waiters, _, exact, _, again⟩ :=
    sweeps_remove_exactly_the_stale 5000 10
      [.openHandle 1, .openHandle 2, .complete 2 "two", .wait 3 5,
        .openHandle 3, .advance 20, .ring, .poll 3 0, .openHandle 4] 20
  have first := waiters 1 ⟨1, .pending, none, 0, 0⟩ (by decide) (by decide)
    0 ⟨some 0, .holding ⟨1, .waiting 0⟩⟩ later (by decide) rfl (by decide)
  have second := waiters 2 ⟨2, .completed, some "two", 0, 1⟩ (by decide)
    (by decide) 0 ⟨some 1, .holding ⟨2, .waiting 1⟩⟩ later (by decide) rfl
    (by decide)
  have third := waiters 3 ⟨3, .timedOut, none, 0, 2⟩ (by decide) (by decide)
    1 ⟨some 2, .holding ⟨3, .waiting 2⟩⟩ later (by decide) rfl (by decide)
  obtain ⟨payload, stored, answer⟩ := second.2 rfl
  cases stored
  exact ⟨by decide, first.1 (.inl rfl), answer, third.1 (.inr rfl),
    exact (by decide), (again 20 (Nat.le_refl _)).1⟩

end Session

end Switchboard
