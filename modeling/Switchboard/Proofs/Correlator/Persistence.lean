import Switchboard.Proofs.Correlator.Ages
import Switchboard.Proofs.Correlator.Twins

/-!
# What lasts along a run

A record is stored under its id from its registration on until it is removed,
and does not come back.  A waiter keeps its number and belongs to one record
for good, and waits on that record's cell until it is polled.
-/

namespace Switchboard

theorem Cells.Grows.unsettled {before after : Cells}
    (grows : before.Grows after) {cell : CellId}
    (unsettled : after.settlement? cell = none) :
    before.settlement? cell = none := by
  by_contra settled
  obtain ⟨settlement, known⟩ := Option.ne_none_iff_exists'.mp settled
  rw [grows.settled known] at unsettled
  cases unsettled

namespace Correlator

private theorem Touches.stored_before
    {id : RequestId} {before after : Correlator}
    {ruling : Option Ruling} (touches : Touches id before ruling after)
    (sound : before.Sound) {record : Record}
    (found : Records.find? id after.records = some record)
    (issued : record.cell < before.cells.issued) :
    ∃ old, Records.find? id before.records = some old ∧
      old.cell = record.cell ∧ old.createdAt = record.createdAt := by
  rcases touches.stored_cases found with
    stored | absent | ⟨old, stored, _, cell, created⟩
  · exact ⟨record, stored, rfl, rfl⟩
  · rcases (touches.here sound found).2 with isNew | ⟨old, stored, _⟩
    · exact (Nat.ne_of_lt issued isNew).elim
    · rw [absent] at stored
      cases stored
  · exact ⟨old, stored, cell, created⟩

end Correlator

namespace Session

/-! ## Records do not come back -/

private theorem act_stored_before {session : Session} (sound : session.Sound)
    (action : Action) {id : RequestId} {record : Record}
    (found : Records.find? id
      (session.act action).after.correlator.records = some record)
    (issued : record.cell < session.correlator.cells.issued) :
    ∃ old, Records.find? id session.correlator.records = some old ∧
      old.cell = record.cell ∧ old.createdAt = record.createdAt := by
  cases about : action.id? with
  | none =>
      have stored :=
        ((act_clears sound about).find?_eq_some_iff sound.correlator).mp found
      exact ⟨record, stored.1, rfl, rfl⟩
  | some touched =>
      have touches := act_touches sound about
      by_cases same : id = touched
      · subst same
        exact touches.stored_before sound.correlator found issued
      · rw [touches.elsewhere same] at found
        exact ⟨record, found, rfl, rfl⟩

/-- A record that is stored behind a run was stored before the run, unless its
cell was issued by the run. -/
theorem run_stored_before {session : Session} (sound : session.Sound)
    (actions : List Action) {id : RequestId} {record : Record}
    (found : Records.find? id
      (session.run actions).correlator.records = some record)
    (issued : record.cell < session.correlator.cells.issued) :
    ∃ old, Records.find? id session.correlator.records = some old ∧
      old.cell = record.cell ∧ old.createdAt = record.createdAt := by
  induction actions generalizing session with
  | nil => exact ⟨record, found, rfl, rfl⟩
  | cons action rest induction =>
      have carries := act_carries sound action
      obtain ⟨next, nextFound, nextCell, nextCreated⟩ :=
        induction (act_sound sound action) found
          (Nat.lt_of_lt_of_le issued carries.grows.issued)
      obtain ⟨old, oldFound, oldCell, oldCreated⟩ :=
        act_stored_before sound action nextFound (nextCell ▸ issued)
      exact ⟨old, oldFound, oldCell.trans nextCell,
        oldCreated.trans nextCreated⟩

theorem run_grows {session : Session} (sound : session.Sound)
    (actions : List Action) :
    session.correlator.cells.Grows
      (session.run actions).correlator.cells := by
  induction actions generalizing session with
  | nil => exact .refl _
  | cons action rest induction =>
      exact (act_carries sound action).grows.trans
        (induction (act_sound sound action))

/-! ## Waiters keep their records -/

private theorem waiter_of_enter
    {session : Session} {id : RequestId} {number : Nat}
    {waiter : Waiter}
    (present : (session.waiters id)[number]? = some waiter)
    (other : RequestId) (new : Option Waiter) :
    ((session.enter other new).waiters id)[number]? = some waiter := by
  obtain ⟨inside, _⟩ := List.getElem?_eq_some_iff.mp present
  by_cases same : id = other
  · subst same
    simpa [enter, setWaiters, List.getElem?_append_left inside] using present
  · simpa [enter, setWaiters, same] using present

private theorem waiter_of_replace {session : Session} {id other : RequestId}
    {number place : Nat} {waiter old : Waiter}
    (present : (session.waiters id)[number]? = some waiter)
    (replaced : (session.waiters other)[place]? = some old)
    (stage : Stage) :
    ∃ next,
      ((session.replace other place { old with stage := stage }).waiters
        id)[number]? = some next ∧
      next.origin = waiter.origin ∧
      (stage.cell? = old.stage.cell? ∨ ¬(id = other ∧ number = place) →
        next.stage.cell? = waiter.stage.cell?) := by
  by_cases here : id = other ∧ number = place
  · obtain ⟨rfl, rfl⟩ := here
    rw [present] at replaced
    cases replaced
    refine ⟨_, getElem?_replace_self present _, rfl, ?_⟩
    rintro (same | apart)
    · exact same
    · exact (apart ⟨rfl, rfl⟩).elim
  · exact ⟨waiter, (getElem?_replace here _).trans present, rfl,
      fun _ => rfl⟩

private theorem act_waiter {session : Session} {id : RequestId} {number : Nat}
    {waiter : Waiter}
    (present : (session.waiters id)[number]? = some waiter)
    (action : Action) :
    ∃ next,
      ((session.act action).after.waiters id)[number]? = some next ∧
      next.origin = waiter.origin ∧
      (action ≠ .poll id number →
        next.stage.cell? = waiter.stage.cell?) := by
  have unmoved : ∀ {after : Session},
      (after.waiters id)[number]? = some waiter →
        ∃ next, (after.waiters id)[number]? = some next ∧
          next.origin = waiter.origin ∧
          (action ≠ .poll id number →
            next.stage.cell? = waiter.stage.cell?) :=
    fun stayed => ⟨waiter, stayed, rfl, fun _ => rfl⟩
  cases action with
  | wait other timeout => exact unmoved (waiter_of_enter present other _)
  | waitDefault other => exact unmoved (waiter_of_enter present other _)
  | openHandle other => exact unmoved (waiter_of_enter present other _)
  | limit other place timeout =>
      simp only [act, limit]
      split
      · rename_i origin handle found
        obtain ⟨next, stayed, same, waits⟩ :=
          waiter_of_replace present found
            (.limited handle (session.now + timeout))
        exact ⟨next, stayed, same, fun _ => waits (.inl rfl)⟩
      · exact unmoved present
  | poll other place =>
      cases found : (session.waiters other)[place]? with
      | none =>
          simp only [act, poll, found]
          exact unmoved present
      | some old =>
          simp only [act, after_poll found]
          obtain ⟨next, stayed, same, waits⟩ :=
            waiter_of_replace present found
              (old.stage.behind
                (session.correlator.pollStage session.rung
                  old.stage).answer)
          refine ⟨next, stayed, same, fun apart => waits (.inr ?_)⟩
          rintro ⟨rfl, rfl⟩
          exact apart rfl
  | complete other payload => exact unmoved present
  | cancel other => exact unmoved present
  | _ =>
      rw [session.waiters_act rfl]
      exact unmoved present

theorem run_waiter {session : Session} {id : RequestId} {number : Nat}
    {waiter : Waiter}
    (present : (session.waiters id)[number]? = some waiter)
    (actions : List Action) :
    ∃ next,
      ((session.run actions).waiters id)[number]? = some next ∧
      next.origin = waiter.origin ∧
      (.poll id number ∉ actions →
        next.stage.cell? = waiter.stage.cell?) := by
  induction actions generalizing session waiter with
  | nil => exact ⟨waiter, present, rfl, fun _ => rfl⟩
  | cons action rest induction =>
      obtain ⟨next, stayed, same, waits⟩ := act_waiter present action
      obtain ⟨last, lastStayed, lastSame, lastWaits⟩ := induction stayed
      refine ⟨last, lastStayed, lastSame.trans same, fun unpolled => ?_⟩
      rw [List.mem_cons, not_or] at unpolled
      exact (lastWaits unpolled.2).trans (waits (Ne.symm unpolled.1))

/-- A waiter on a settled cell gets its outcome at the next poll, whatever
happens in between. -/
theorem answer_next_poll_of_settled {session : Session}
    (sound : session.Sound) {id : RequestId} {number : Nat}
    {waiter : Waiter} {cell : CellId} {settlement : Settlement}
    (present : (session.waiters id)[number]? = some waiter)
    (waits : waiter.stage.cell? = some cell)
    (settled :
      session.correlator.cells.settlement? cell = some settlement)
    {later : List Action} (unpolled : .poll id number ∉ later) :
    ((session.run later).act (.poll id number)).answer =
      .polled (some settlement.outcome) := by
  obtain ⟨next, stayed, _, same⟩ := run_waiter present later
  exact answer_poll_of_settled (run_sound sound later) stayed
    ((same unpolled).trans waits)
    ((run_grows sound later).settled settled)

end Session

end Switchboard
