import Switchboard.Proofs.Correlator.Persistence

/-!
# Deadlines

A wait whose time is up looks for its record by the id alone, and ids are used
again.  It finds its own record all the same, because no record is removed
while its cell is not settled.  As long as a waiter's cell is not settled, the
record that the waiter attached to has been there at every moment since.
-/

namespace Switchboard

/-- Two undecided records of one id, cell and time differ at most in their
state. -/
theorem Record.Sound.eq_of_undecided {before after : Cells} {id : RequestId}
    {first second : Record} (firstSound : first.Sound before id)
    (secondSound : second.Sound after id)
    (firstUndecided : first.state = .pending ∨ first.state = .timedOut)
    (secondUndecided : second.state = .pending ∨ second.state = .timedOut)
    (cell : first.cell = second.cell)
    (created : first.createdAt = second.createdAt) :
    first = { second with state := first.state } := by
  have ids : first.id = second.id :=
    firstSound.ownId.trans secondSound.ownId.symm
  have payloads : first.payload = second.payload :=
    (firstSound.unsettled firstUndecided).1.trans
      (secondSound.unsettled secondUndecided).1.symm
  cases first
  simp_all

namespace Correlator

/-- A record that comes out of an operation as timed out was timed out by
it. -/
theorem Touches.ruling_of_timedOut {id : RequestId}
    {before after : Correlator} {ruling : Option Ruling}
    (touches : Touches id before ruling after) {record : Record}
    (found : Records.find? id before.records = some record)
    (pending : record.state = .pending)
    (late : after.state? id = some .timedOut) :
    ruling = some (record.cell, .timedOut) := by
  cases touches with
  | unchanged => simp [state?, found, pending] at late
  | registered now opened absent => simp [absent] at found
  | fulfilled old payload oldFound oldPending =>
      simp [state?, store, Records.find?_put_self] at late
  | cancelled old oldFound oldPending =>
      simp [state?, remove, Records.find?_erase_self] at late
  | timedOut old oldFound oldPending =>
      obtain rfl : old = record :=
        Option.some.inj (oldFound.symm.trans found)
      rfl
  | collected old oldFound completed =>
      simp [state?, remove, Records.find?_erase_self] at late

end Correlator

namespace Session

/-- The time is up for a waiter whose cell is not settled. -/
structure Lapses (session : Session) (id : RequestId) (number : Nat)
    (waiter : Waiter) (cell : CellId) : Prop where
  present : (session.waiters id)[number]? = some waiter
  waits : waiter.stage.cell? = some cell
  unsettled : session.correlator.cells.settlement? cell = none
  late : waiter.stage.isLate session.rung = true

section Lapsing

variable {session : Session} {id : RequestId} {number : Nat}
  {waiter : Waiter} {cell : CellId}

theorem Lapses.sound (lapses : session.Lapses id number waiter cell)
    (sound : session.Sound) : waiter.Sound session.correlator id :=
  sound.waiters (List.mem_of_getElem? lapses.present)

theorem Lapses.record (lapses : session.Lapses id number waiter cell)
    (sound : session.Sound) :
    ∃ record, Records.find? id session.correlator.records = some record ∧
      record.cell = cell ∧
        (record.state = .pending ∨ record.state = .timedOut) :=
  sound.correlator.record_of_attached
    ((lapses.sound sound).attached lapses.waits) lapses.unsettled

/-- The record was stored at every earlier moment at which the waiter was
there, and nothing but its state can have been another. -/
theorem Lapses.stored_since {begun : Session} {earlier later : List Action}
    (lapses :
      (begun.run (earlier ++ later)).Lapses id number waiter cell)
    (begunSound : begun.Sound) {record : Record}
    (found : Records.find? id
      (begun.run (earlier ++ later)).correlator.records = some record)
    (owned : record.cell = cell) {old : Waiter}
    (present : ((begun.run earlier).waiters id)[number]? = some old) :
    old.origin = some cell ∧
      ∃ held,
        Records.find? id (begun.run earlier).correlator.records =
            some held ∧
          held = { record with state := held.state } ∧
          (held.state = .pending ∨ held.state = .timedOut) := by
  have earlierSound := run_sound begunSound earlier
  have sound := run_sound begunSound (earlier ++ later)
  have own := (lapses.sound sound).origin lapses.waits
  have recordSound := sound.correlator.records found
  have unsettled := lapses.unsettled
  have lastPresent := lapses.present
  simp only [run_append] at found recordSound unsettled lastPresent
  obtain ⟨last, stayed, same, _⟩ := run_waiter present later
  obtain rfl : last = waiter :=
    Option.some.inj (stayed.symm.trans lastPresent)
  have origin : old.origin = some cell := same.symm.trans own
  have issued : record.cell < (begun.run earlier).correlator.cells.issued :=
    owned ▸
      (earlierSound.waiters (List.mem_of_getElem? present)).issued origin
  obtain ⟨held, stored, heldCell, created⟩ :=
    run_stored_before earlierSound later found issued
  have heldSound := earlierSound.correlator.records stored
  have heldUnsettled :
      (begun.run earlier).correlator.cells.settlement? held.cell = none :=
    (run_grows earlierSound later).unsettled
      (heldCell.trans owned ▸ unsettled)
  have undecided := heldSound.undecided heldUnsettled
  refine ⟨origin, held, stored, ?_, undecided⟩
  exact heldSound.eq_of_undecided recordSound undecided
    (recordSound.undecided (owned ▸ unsettled)) heldCell created

theorem Lapses.poll (lapses : session.Lapses id number waiter cell)
    (sound : session.Sound) {record : Record}
    (found : Records.find? id session.correlator.records = some record)
    (undecided : record.state = .pending ∨ record.state = .timedOut)
    (owned : record.cell = cell) :
    (session.act (.poll id number)).answer = .polled (some .timedOut) ∧
      (session.act (.poll id number)).after =
        Session.replace
          { session with
            correlator :=
              if record.state = .pending then
                (session.correlator.store id
                  { record with state := .timedOut }).tallyOut .pending
              else
                session.correlator }
          id number { waiter with stage := .ended .timedOut } := by
  have polled :
      session.correlator.pollStage session.rung waiter.stage =
        (session.correlator.expire id).map some := by
    rw [session.correlator.pollStage_of_unsettled session.rung
      (lapses.sound sound).mine lapses.waits lapses.unsettled
      (owned ▸ Correlator.owns_of_find? found), if_pos lapses.late]
  have expired :
      (session.correlator.expire id).answer = .timedOut ∧
        (session.correlator.expire id).after =
          if record.state = .pending then
            (session.correlator.store id
              { record with state := .timedOut }).tallyOut .pending
          else
            session.correlator := by
    rcases undecided with pending | timedOut
    · simp [Correlator.expire_of_pending found pending, pending]
    · simp [Correlator.expire, found, timedOut]
  constructor
  · simp [act, Session.poll, lapses.present, onCorrelator, polled,
      expired.1]
  · simp only [act, after_poll lapses.present, polled, Step.answer_map,
      Step.after_map, expired.1, expired.2]
    rfl

private theorem lapses_of_lapseRuling (sound : session.Sound)
    (ruled : session.correlator.lapseRuling
      (session.poll id number).after.correlator id =
        some (cell, .timedOut)) :
    ∃ waiter, session.Lapses id number waiter cell := by
  cases present : (session.waiters id)[number]? with
  | none =>
      simp [Session.poll, present, Correlator.lapseRuling_self] at ruled
  | some waiter =>
      have waiterSound := sound.waiters (List.mem_of_getElem? present)
      rw [session.correlator_poll present] at ruled
      cases waits : waiter.stage.cell? with
      | none =>
          rw [session.correlator.after_pollStage_of_free session.rung waits,
            Correlator.lapseRuling_self] at ruled
          cases ruled
      | some held =>
          have polls := Correlator.pollStage_polls sound.correlator
            session.rung waiterSound.mine waits (waiterSound.attached waits)
          rw [ruled] at polls
          generalize answered :
            (session.correlator.pollStage session.rung waiter.stage).answer =
              answer at polls
          generalize (session.correlator.pollStage session.rung
            waiter.stage).after = after at polls
          cases polls with
          | lapsed record unsettled found owned pending =>
              refine ⟨waiter, present, waits, unsettled, ?_⟩
              -- Before its deadline the waiter would have got no answer.
              by_contra early
              rw [session.correlator.pollStage_of_unsettled session.rung
                waiterSound.mine waits unsettled
                (owned ▸ Correlator.owns_of_find? found),
                if_neg early] at answered
              cases answered

private theorem lapses_of_timedOut (sound : session.Sound) {action : Action}
    {record : Record}
    (found : Records.find? id session.correlator.records = some record)
    (pending : record.state = .pending)
    (late :
      (session.act action).after.correlator.state? id = some .timedOut) :
    ∃ number waiter, action = .poll id number ∧
      session.Lapses id number waiter record.cell := by
  cases about : action.id? with
  | none =>
      have cleared := (act_clears sound about).find? sound.correlator id
      simp only [Correlator.state?, cleared, found, Option.filter] at late
      split at late <;> simp [pending] at late
  | some own =>
      have touches := act_touches sound about
      by_cases same : id = own
      · subst same
        have ruled := touches.ruling_of_timedOut found pending late
        cases action with
        | poll other number =>
            cases about
            obtain ⟨waiter, lapses⟩ := lapses_of_lapseRuling sound ruled
            exact ⟨number, waiter, rfl, lapses⟩
        | complete other payload =>
            simp only [ruling?, Correlator.replyRuling] at ruled
            split at ruled <;> simp at ruled
        | cancel other =>
            simp only [ruling?, Correlator.cancelRuling] at ruled
            split at ruled <;> simp at ruled
        | _ => cases ruled
      · simp [Correlator.state?, touches.elsewhere same, found, pending]
          at late

end Lapsing

/-- A poll behind the deadline times out the record that the waiter attached
to, stored under its id ever since, and changes nothing else.  Conversely, only
such a poll ever marks a record as timed out. -/
theorem deadlines_time_out_own_records (defaultTimeout maxRecordAge : Nat)
    (actions : List Action) (id : RequestId) :
    let begun := start defaultTimeout maxRecordAge
    let session := begun.run actions
    let before := session.correlator
    (∀ number waiter cell, session.Lapses id number waiter cell →
      let polled := session.act (.poll id number)
      let after := polled.after.correlator
      waiter.origin = some cell ∧
      ∃ record,
        Records.find? id before.records = some record ∧
        record.cell = cell ∧
        (record.state = .pending ∨ record.state = .timedOut) ∧
        record.payload = none ∧
        (∀ earlier old, earlier <+: actions →
          ((begun.run earlier).waiters id)[number]? = some old →
            old.origin = some cell ∧
            ∃ held,
              Records.find? id (begun.run earlier).correlator.records =
                some held ∧
              held = { record with state := held.state } ∧
              (held.state = .pending ∨ held.state = .timedOut)) ∧
        polled.answer = .polled (some .timedOut) ∧
        Records.find? id after.records =
          some { record with state := .timedOut } ∧
        (∀ other, other ≠ id →
          Records.find? other after.records =
            Records.find? other before.records) ∧
        after.cells = before.cells ∧
        (record.state = .timedOut → after = before) ∧
        (polled.after.waiters id)[number]? =
          some { waiter with stage := .ended .timedOut } ∧
        ∀ other place, ¬(other = id ∧ place = number) →
          (polled.after.waiters other)[place]? =
            (session.waiters other)[place]?) ∧
    ∀ action record,
      Records.find? id before.records = some record →
      record.state = .pending →
      (session.act action).after.correlator.state? id = some .timedOut →
        ∃ number waiter, action = .poll id number ∧
          session.Lapses id number waiter record.cell := by
  intro begun session before
  have begunSound := sound_start defaultTimeout maxRecordAge
  have sound : session.Sound := run_sound begunSound actions
  constructor
  · intro number waiter cell lapses polled after
    obtain ⟨record, found, owned, undecided⟩ := lapses.record sound
    obtain ⟨answer, behind⟩ := lapses.poll sound found undecided owned
    have unpaid :=
      ((sound.correlator.records found).unsettled undecided).1
    have correlator : after =
        if record.state = .pending then
          (before.store id { record with state := .timedOut }).tallyOut
            .pending
        else
          before :=
      congrArg Session.correlator behind
    refine ⟨(lapses.sound sound).origin lapses.waits, record, found, owned,
      undecided, unpaid, ?_, answer, ?_, ?_, ?_, ?_, ?_, ?_⟩
    · rintro earlier old ⟨later, rfl⟩ present
      exact lapses.stored_since begunSound found owned present
    · rcases undecided with pending | timedOut
      · simp [correlator, pending, Correlator.store,
          Records.find?_put_self]
      · obtain ⟨_, state, _, _, _⟩ := record
        cases timedOut
        simpa [correlator] using found
    · intro other different
      rw [correlator]
      split
      · simpa [Correlator.store] using
          Records.find?_put_of_ne different _ before.records
      · rfl
    · rw [correlator]
      split
      · simp [Correlator.store]
      · rfl
    · intro timedOut
      simp [correlator, timedOut]
    · rw [show polled.after = _ from behind]
      exact getElem?_replace_self lapses.present _
    · intro other place apart
      rw [show polled.after = _ from behind]
      exact getElem?_replace apart _
  · intro action record found pending late
    exact lapses_of_timedOut sound found pending late

/-- The record of a first waiter is cancelled, a second one is registered under
the id, and swept, and a third one times out with its own waiter's deadline. -/
theorem third_record_timed_out_by_own_waiter :
    let actions : List Action :=
      [.wait 1 10, .cancel 1, .openHandle 1, .advance 20, .sweep 20,
        .wait 1 5, .advance 10, .ring]
    let session := (start 5000 10).run actions
    let after := (session.act (.poll 1 2)).after.correlator
    session.Lapses 1 2 ⟨some 2, .waiting ⟨1, 2, 25⟩⟩ 2 ∧
      after.state? 1 = some .timedOut ∧
      after.cells = session.correlator.cells ∧
      ∃ number waiter, Action.poll 1 2 = .poll 1 number ∧
        session.Lapses 1 number waiter 2 := by
  intro actions session after
  have lapses : session.Lapses 1 2 ⟨some 2, .waiting ⟨1, 2, 25⟩⟩ 2 :=
    ⟨by decide, rfl, by decide, by decide⟩
  have deadlines := deadlines_time_out_own_records 5000 10 actions 1
  obtain ⟨_, record, found, cell, _, _, _, _, stored, _, cells, _⟩ :=
    deadlines.1 2 _ 2 lapses
  have late : after.state? 1 = some .timedOut := by
    have stored : Records.find? 1 after.records =
        some { record with state := .timedOut } := stored
    simp [Correlator.state?, stored]
  have held : Records.find? 1 session.correlator.records =
      some ⟨1, .pending, none, 20, 2⟩ := by
    decide
  exact ⟨lapses, late, cells, deadlines.2 (.poll 1 2) _ held rfl late⟩

end Session

end Switchboard
