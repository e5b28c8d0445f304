import Switchboard.Proofs.Correlator.Decisions

/-!
# Waiters that outlive their record

A waiter keeps its cell after its record has left the map, and another record
can then be registered under the same id.  A reply is collected by id, so what
the late waiter takes with it depends on the state of the newer record and not
on whose record it is.
-/

namespace Switchboard

namespace Correlator

theorem after_collect_of_completed (correlator : Correlator)
    {id : RequestId} {record : Record} (payload : String)
    (found : Records.find? id correlator.records = some record)
    (completed : record.state = .completed) :
    (correlator.collect id (.reply payload)).after =
      (correlator.remove id).tallyOut .completed := by
  have state : correlator.state? id = some .completed := by
    simp [state?, found, completed]
  simp [collect, state]

theorem after_collect_of_not_completed (correlator : Correlator)
    {id : RequestId} (settlement : Settlement)
    (others : ∀ record, Records.find? id correlator.records = some record →
      record.state ≠ .completed) :
    (correlator.collect id settlement).after = correlator := by
  have state : correlator.state? id ≠ some .completed := by
    intro completed
    obtain ⟨record, found, equal⟩ := Option.map_eq_some_iff.mp completed
    exact others record found equal
  cases settlement with
  | reply payload => simp [collect, state]
  | cancelled => rfl
  | expired => rfl
  | shutdown => rfl

/-- Collecting takes at most the record of the id, and counts completed
records only. -/
theorem collect_frame (correlator : Correlator) (id : RequestId)
    (settlement : Settlement) :
    let behind := (correlator.collect id settlement).after
    behind.cells = correlator.cells ∧ behind.closed = correlator.closed ∧
      behind.pending = correlator.pending ∧
      ∀ other, other ≠ id →
        Records.find? other behind.records =
          Records.find? other correlator.records := by
  intro behind
  have touches := correlator.collect_touches id settlement
  refine ⟨?_, touches.closed_eq, ?_, fun other different =>
    touches.elsewhere different⟩
  · cases settlement with
    | reply payload =>
        simp only [behind, collect]
        split <;> simp [remove]
    | _ => rfl
  · cases settlement with
    | reply payload =>
        simp only [behind, collect]
        split <;> rfl
    | _ => rfl

/-- The record of a cell that is settled has its reply. -/
theorem Sound.completed_of_settled {correlator : Correlator}
    (sound : correlator.Sound) {id : RequestId} {record : Record}
    {settlement : Settlement}
    (found : Records.find? id correlator.records = some record)
    (settled :
      correlator.cells.settlement? record.cell = some settlement) :
    record.state = .completed := by
  have recordSound := sound.records found
  have decided : ¬(record.state = .pending ∨ record.state = .timedOut) := by
    intro undecided
    rw [(recordSound.unsettled undecided).2] at settled
    cases settled
  cases state : record.state with
  | pending => exact (decided (.inl state)).elim
  | completed => rfl
  | timedOut => exact (decided (.inr state)).elim
  | cancelled => exact (recordSound.uncancelled state).elim

theorem Sound.opened_of_find? {correlator : Correlator}
    (sound : correlator.Sound) {id : RequestId} {record : Record}
    (found : Records.find? id correlator.records = some record) :
    correlator.closed = false := by
  by_contra closed
  have empty := sound.emptied (by simpa using closed)
  simp [empty, Records.find?] at found

theorem Sound.answer_attach_of_completed {correlator : Correlator}
    (sound : correlator.Sound) {id : RequestId} {record : Record}
    (found : Records.find? id correlator.records = some record)
    (completed : record.state = .completed) (now : Instant) :
    (correlator.attach now id).answer =
      .resolved (.completed (record.payload.getD "")) := by
  simp [attach, sound.opened_of_find? found, found, completed]

private theorem answer_attach_of_absent
    {correlator : Correlator} {id : RequestId}
    (opened : correlator.closed = false)
    (absent : Records.find? id correlator.records = none) (now : Instant) :
    (correlator.attach now id).answer =
      .waiting correlator.cells.issued := by
  simp [attach, opened, absent, Cells.issue]

/-- Collecting a reply spares the record of the id if and only if it is not
completed. -/
theorem after_collect_eq_self_iff (correlator : Correlator)
    {id : RequestId} {record : Record} (payload : String)
    (found : Records.find? id correlator.records = some record) :
    (correlator.collect id (.reply payload)).after = correlator ↔
      record.state ≠ .completed := by
  constructor
  · intro unchanged completed
    rw [correlator.after_collect_of_completed payload found
      completed] at unchanged
    have gone := Records.find?_erase_self id correlator.records
    rw [← unchanged] at found
    simp [remove, gone] at found
  · intro undecided
    apply correlator.after_collect_of_not_completed
    intro other otherFound
    rw [found] at otherFound
    cases otherFound
    exact undecided

/-- A completed record goes with its reply: the next caller would have got
it, and now has to wait for another one. -/
theorem Sound.collect_takes_completed {correlator : Correlator}
    (sound : correlator.Sound) {id : RequestId} {record : Record}
    (payload : String)
    (found : Records.find? id correlator.records = some record)
    (completed : record.state = .completed) :
    let behind := (correlator.collect id (.reply payload)).after
    Records.find? id behind.records = none ∧
      behind.completed = correlator.completed - 1 ∧
      ∃ reply, record.payload = some reply ∧
        ∀ now,
          (correlator.attach now id).answer = .resolved (.completed reply) ∧
          (behind.attach now id).answer = .waiting behind.cells.issued := by
  intro behind
  have opened : behind.closed = false :=
    (correlator.collect_frame id (.reply payload)).2.1.trans
      (sound.opened_of_find? found)
  have taken : behind = (correlator.remove id).tallyOut .completed :=
    correlator.after_collect_of_completed payload found completed
  have absent : Records.find? id behind.records = none := by
    simp [taken, remove, Records.find?_erase_self]
  obtain ⟨reply, stored, _⟩ := (sound.records found).completed completed
  refine ⟨absent, by rw [taken]; rfl, reply, stored, ?_⟩
  intro now
  refine ⟨?_, answer_attach_of_absent opened absent now⟩
  simpa [stored] using sound.answer_attach_of_completed found completed now

end Correlator

namespace Session

/-- No waiter belongs to a newer record than the one that is stored. -/
def Ordered (session : Session) : Prop :=
  ∀ {id : RequestId} {waiter : Waiter} {cell : CellId} {record : Record},
    waiter ∈ session.waiters id → waiter.origin = some cell →
      Records.find? id session.correlator.records = some record →
        cell ≤ record.cell

private theorem act_ordered {session : Session} (sound : session.Sound)
    (ordered : session.Ordered) (action : Action) :
    (session.act action).after.Ordered := by
  -- What is stored behind the step has a new cell, or one that was stored.
  have still : ∀ {id : RequestId} {waiter : Waiter} {cell : CellId}
      {record : Record},
      waiter ∈ session.waiters id → waiter.origin = some cell →
        Records.find? id (session.act action).after.correlator.records =
          some record →
        cell ≤ record.cell := by
    intro id waiter cell record member own found
    cases about : action.id? with
    | none =>
        have stored :=
          ((act_clears sound about).find?_eq_some_iff sound.correlator).mp
            found
        exact ordered member own stored.1
    | some touched =>
        have touches := act_touches sound about
        by_cases same : id = touched
        · subst same
          rcases (touches.here sound.correlator found).2 with
            isNew | ⟨old, oldFound, equal⟩
          · rw [isNew]
            exact Nat.le_of_lt ((sound.waiters member).issued own)
          · rw [← equal]
            exact ordered member own oldFound
        · rw [touches.elsewhere same] at found
          exact ordered member own found
  intro id waiter cell record member own found
  cases act_arrives member with
  | stayed _ old => exact still old own found
  | joined attachment origin stage unruled attaches mine comes =>
      exact attaches.origin_le own found
  | limited origin handle deadline old => exact still old own found
  | polled waiter old ruled equal => exact still old own found

private theorem run_ordered {session : Session} (sound : session.Sound)
    (ordered : session.Ordered) (actions : List Action) :
    (session.run actions).Ordered := by
  induction actions generalizing session with
  | nil => exact ordered
  | cons action rest induction =>
      exact induction (act_sound sound action)
        (act_ordered sound ordered action)

/-- A waiter whose record took a reply gets that reply, however late.  The
record that is stored under the id by then, its own or a newer one, is spared
if and only if it is not completed. -/
theorem stored_record_spared_iff_not_completed
    (defaultTimeout maxRecordAge : Nat) (actions : List Action)
    (id : RequestId) (number : Nat) (waiter : Waiter) (cell : CellId)
    (payload : String) :
    let session := (start defaultTimeout maxRecordAge).run actions
    let correlator := session.correlator
    let polled := session.act (.poll id number)
    let behind := polled.after.correlator
    (session.waiters id)[number]? = some waiter →
    waiter.stage.cell? = some cell →
    correlator.cells.settlement? cell = some (.reply payload) →
      polled.answer = .polled (some (.completed payload)) ∧
      (behind.cells = correlator.cells ∧
        behind.closed = correlator.closed ∧
        behind.pending = correlator.pending ∧
        ∀ other, other ≠ id →
          Records.find? other behind.records =
            Records.find? other correlator.records) ∧
      (Records.find? id correlator.records = none → behind = correlator) ∧
      ∀ record, Records.find? id correlator.records = some record →
        (record.cell = cell ∧ record.state = .completed ∨
          cell < record.cell) ∧
        (behind = correlator ↔ record.state ≠ .completed) ∧
        (record.state = .completed →
          Records.find? id behind.records = none ∧
          behind.completed = correlator.completed - 1 ∧
          ∃ reply, record.payload = some reply ∧
            ∀ now,
              (correlator.attach now id).answer =
                .resolved (.completed reply) ∧
              (behind.attach now id).answer =
                .waiting behind.cells.issued) := by
  intro session correlator polled behind present waits settled
  have begunSound := sound_start defaultTimeout maxRecordAge
  have sound : session.Sound := run_sound begunSound actions
  have ordered : session.Ordered :=
    run_ordered begunSound (fun member => by cases member) actions
  have member := List.mem_of_getElem? present
  have waiterSound := sound.waiters member
  have collected :
      behind = (correlator.collect id (.reply payload)).after := by
    simp only [behind, polled, act, session.correlator_poll present,
      session.correlator.pollStage_of_settled session.rung waiterSound.mine
        waits settled, Step.after_map, correlator]
  rw [collected]
  refine ⟨answer_poll_of_settled sound present waits settled,
    correlator.collect_frame id (.reply payload), ?_, ?_⟩
  · intro absent
    apply correlator.after_collect_of_not_completed
    intro record found
    rw [absent] at found
    cases found
  · intro record found
    refine ⟨?_, correlator.after_collect_eq_self_iff payload found,
      sound.correlator.collect_takes_completed payload found⟩
    rcases Nat.eq_or_lt_of_le
      (ordered member (waiterSound.origin waits) found) with same | newer
    · rw [same] at settled
      exact .inl ⟨same.symm,
        sound.correlator.completed_of_settled found settled⟩
    · exact .inr newer

/-- A late waiter gets its reply and spares a newer record that is still
pending. -/
theorem pending_record_spared :
    let session := (start 5000 300000).run
      [.openHandle 1, .openHandle 1, .complete 1 "first", .poll 1 0,
        .openHandle 1]
    let polled := session.act (.poll 1 1)
    polled.answer = .polled (some (.completed "first")) ∧
      polled.after.correlator = session.correlator := by
  intro session polled
  have late := stored_record_spared_iff_not_completed 5000 300000
    [.openHandle 1, .openHandle 1, .complete 1 "first", .poll 1 0,
      .openHandle 1]
    1 1 ⟨some 0, .holding ⟨1, .waiting 0⟩⟩ 0 "first"
    (by decide) rfl (by decide)
  have stored := late.2.2.2 (.fresh 1 0 1) (by decide)
  exact ⟨late.1, stored.2.1.mpr (by decide)⟩

/-- A late waiter does not always spare a newer record: here it takes away the
second reply, which nobody has seen. -/
theorem newer_record_not_always_spared :
    ¬ ∀ (actions : List Action) (id : RequestId) (number : Nat)
        (waiter : Waiter) (cell : CellId) (payload : String)
        (record : Record),
      let session := (start 5000 300000).run actions
      let behind := (session.act (.poll id number)).after.correlator
      (session.waiters id)[number]? = some waiter →
      waiter.stage.cell? = some cell →
      session.correlator.cells.settlement? cell = some (.reply payload) →
      Records.find? id session.correlator.records = some record →
      record.cell ≠ cell →
        Records.find? id behind.records = some record ∧
          behind.completed = session.correlator.completed := by
  intro spared
  have kept := spared
    [.openHandle 1, .openHandle 1, .complete 1 "first", .poll 1 0,
      .openHandle 1, .complete 1 "second"]
    1 1 ⟨some 0, .holding ⟨1, .waiting 0⟩⟩ 0 "first"
    { Record.fresh 1 0 1 with state := .completed, payload := some "second" }
    (by decide) rfl (by decide) (by decide) (by decide)
  exact absurd kept.1 (by decide)

end Session

end Switchboard
