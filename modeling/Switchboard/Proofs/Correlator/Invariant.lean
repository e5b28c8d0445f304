import Switchboard.Proofs.Correlator.Attaching

/-!
# The invariant of sessions

In every session that a run reaches, the correlator is sound and every waiter
who waits on a cell is attached to it.  So no waiter is ever orphaned, a
waiter whose time is up finds its own record, and a sweep or a shutdown
reaches every waiter that is still blocked.
-/

namespace Switchboard

/-- What holds of a waiter on an id. -/
structure Waiter.Sound (correlator : Correlator) (id : RequestId)
    (waiter : Waiter) : Prop where
  mine : waiter.stage.IsFor id
  origin : ∀ {cell : CellId},
    waiter.stage.cell? = some cell → waiter.origin = some cell
  issued : ∀ {cell : CellId},
    waiter.origin = some cell → cell < correlator.cells.issued
  attached : ∀ {cell : CellId},
    waiter.stage.cell? = some cell → correlator.Attached id cell

theorem Waiter.Sound.carry {before after : Correlator} {id : RequestId}
    {waiter : Waiter} (sound : waiter.Sound before id)
    (carries : before.Carries after) : waiter.Sound after id :=
  ⟨sound.mine, sound.origin,
    fun own => Nat.lt_of_lt_of_le (sound.issued own) carries.grows.issued,
    fun waits => carries.attached (sound.attached waits)⟩

theorem Waiter.Sound.move {correlator : Correlator} {id : RequestId}
    {waiter : Waiter} (sound : waiter.Sound correlator id) {stage : Stage}
    (mine : stage.IsFor id)
    (fewer : ∀ {cell : CellId},
      stage.cell? = some cell → waiter.stage.cell? = some cell) :
    Waiter.Sound correlator id { waiter with stage := stage } :=
  ⟨mine, fun waits => sound.origin (fewer waits), sound.issued,
    fun waits => sound.attached (fewer waits)⟩

namespace Session

/-- What a step decides about a record: a reply that is taken, a cancellation
that goes through, or a deadline that ends the wait for a pending record. -/
def ruling? (session : Session) : Action → Option Ruling
  | .complete id payload =>
      session.correlator.replyRuling id payload
        (session.correlator.complete session.now id payload).answer
  | .cancel id =>
      session.correlator.cancelRuling id
        (session.correlator.cancel id).answer
  | .poll id number =>
      session.correlator.lapseRuling
        (session.poll id number).after.correlator id
  | _ => none

structure Sound (session : Session) : Prop where
  correlator : session.correlator.Sound
  waiters : ∀ {id : RequestId} {waiter : Waiter},
    waiter ∈ session.waiters id → waiter.Sound session.correlator id

theorem Sound.carry {session : Session} (sound : session.Sound)
    {after : Correlator} (carries : session.correlator.Carries after) :
    Sound { session with correlator := after } :=
  ⟨carries.sound, fun member => (sound.waiters member).carry carries⟩

theorem sound_start (defaultTimeout maxRecordAge : Nat) :
    (start defaultTimeout maxRecordAge).Sound := by
  refine ⟨Correlator.sound_new defaultTimeout maxRecordAge, ?_⟩
  intro id waiter member
  cases member

/-! ## What a step does to the correlator -/

@[simp]
theorem correlator_setWaiters (session : Session) (id : RequestId)
    (waiters : List Waiter) :
    (session.setWaiters id waiters).correlator = session.correlator := rfl

theorem correlator_startWait (session : Session) (id : RequestId)
    (timeout : Nat) :
    (session.startWait id timeout).after.correlator =
      (session.correlator.startWait session.now id timeout).after := rfl

theorem startWait_touches (session : Session) (id : RequestId)
    (timeout : Nat) :
    session.correlator.Touches id none
      (session.startWait id timeout).after.correlator := by
  rw [correlator_startWait]
  unfold Correlator.startWait
  split
  · exact .unchanged
  · exact session.correlator.attach_touches session.now id

theorem correlator_limit (session : Session) (id : RequestId)
    (number timeout : Nat) :
    (session.limit id number timeout).after.correlator =
      session.correlator := by
  unfold limit
  split <;> rfl

theorem correlator_poll (session : Session) {id : RequestId} {number : Nat}
    {waiter : Waiter} (present : (session.waiters id)[number]? = some waiter) :
    (session.poll id number).after.correlator =
      (session.correlator.pollStage session.rung waiter.stage).after := by
  simp [poll, present, onCorrelator]

theorem poll_touches {session : Session} (sound : session.Sound)
    (id : RequestId) (number : Nat) :
    session.correlator.Touches id
      (session.correlator.lapseRuling
        (session.poll id number).after.correlator id)
      (session.poll id number).after.correlator := by
  cases present : (session.waiters id)[number]? with
  | none =>
      simp only [poll, present, Correlator.lapseRuling_self]
      exact .unchanged
  | some waiter =>
      have waiterSound := sound.waiters (List.mem_of_getElem? present)
      rw [session.correlator_poll present]
      cases waits : waiter.stage.cell? with
      | none =>
          rw [session.correlator.after_pollStage_of_free session.rung waits,
            Correlator.lapseRuling_self]
          exact .unchanged
      | some cell =>
          exact
            (Correlator.pollStage_polls sound.correlator session.rung
              waiterSound.mine waits (waiterSound.attached waits)).touches

/-- A step that is about an id touches the correlator in one of the six ways,
and decides what that way decides. -/
theorem act_touches {session : Session} (sound : session.Sound)
    {action : Action} {id : RequestId} (about : action.id? = some id) :
    session.correlator.Touches id (session.ruling? action)
      (session.act action).after.correlator := by
  cases action with
  | wait own timeout =>
      cases about
      exact session.startWait_touches id timeout
  | waitDefault own =>
      cases about
      exact session.startWait_touches id _
  | openHandle own =>
      cases about
      exact session.correlator.attach_touches session.now id
  | limit own number timeout =>
      cases about
      simp only [act, correlator_limit]
      exact .unchanged
  | poll own number =>
      cases about
      exact poll_touches sound id number
  | complete own payload =>
      cases about
      exact session.correlator.complete_touches session.now id payload
  | cancel own =>
      cases about
      exact session.correlator.cancel_touches id
  | dropCompleted => cases about
  | sweep time => cases about
  | shutDown => cases about
  | advance millis => cases about
  | ring => cases about

/-- The records that a step about all ids keeps. -/
def keeps (session : Session) : Action → Record → Bool
  | .dropCompleted, record => record.state ≠ .completed
  | .sweep time, record => session.correlator.keeps time record
  | .shutDown, _ => false
  | _, _ => true

/-- What such a step settles the cells of the other records with. -/
def Action.reason : Action → Settlement
  | .shutDown => .shutdown
  | _ => .expired

theorem act_clears {session : Session} (sound : session.Sound)
    {action : Action} (aboutAll : action.id? = none) :
    session.correlator.Clears (session.keeps action) action.reason
      (session.act action).after.correlator := by
  cases action with
  | dropCompleted => exact Correlator.dropCompleted_clears sound.correlator
  | sweep time => exact Correlator.sweep_clears sound.correlator time
  | shutDown => exact session.correlator.shutDown_clears
  | advance millis => exact Correlator.clears_refl sound.correlator
  | ring => exact Correlator.clears_refl sound.correlator
  | _ => cases aboutAll

theorem act_carries {session : Session} (sound : session.Sound)
    (action : Action) :
    session.correlator.Carries (session.act action).after.correlator := by
  cases about : action.id? with
  | some id => exact (act_touches sound about).carries sound.correlator
  | none => exact (act_clears sound about).carries sound.correlator

/-- Only a shutdown closes a correlator, and nothing opens it again. -/
theorem closed_act_eq {session : Session} (sound : session.Sound)
    (action : Action) :
    (session.act action).after.correlator.closed =
      (session.correlator.closed || decide (action = .shutDown)) := by
  cases about : action.id? with
  | some id =>
      have other : action ≠ .shutDown := by
        rintro rfl
        cases about
      rw [(act_touches sound about).closed_eq, decide_eq_false other,
        Bool.or_false]
  | none =>
      rw [(act_clears sound about).closed]
      cases action <;> rfl

/-! ## What a step does to the waiters -/

/-- How a waiter on an id can have come to be there behind a step, given what
the step decides and the correlator behind it. -/
inductive Arrives (session : Session) (ruling : Option Ruling)
    (after : Correlator) (id : RequestId) : Waiter → Prop where
  | stayed (waiter : Waiter) :
      waiter ∈ session.waiters id → Arrives session ruling after id waiter
  | joined (attachment : Attachment) (origin : Option CellId)
      (stage : Stage) :
      ruling = none →
      session.correlator.Attaches session.now id attachment origin after →
      stage.IsFor id →
      stage.ComesFrom attachment →
      Arrives session ruling after id { origin := origin, stage := stage }
  | limited (origin : Option CellId) (handle : Handle) (deadline : Instant) :
      { origin := origin, stage := .holding handle } ∈ session.waiters id →
      Arrives session ruling after id
        { origin := origin, stage := .limited handle deadline }
  | polled (waiter : Waiter) :
      waiter ∈ session.waiters id →
      ruling = session.correlator.lapseRuling after id →
      after =
        (session.correlator.pollStage session.rung waiter.stage).after →
      Arrives session ruling after id
        { waiter with
          stage := waiter.stage.behind
            (session.correlator.pollStage session.rung
              waiter.stage).answer }

theorem mem_setWaiters {session : Session} {id other : RequestId}
    {waiters : List Waiter} {waiter : Waiter}
    (member : waiter ∈ (session.setWaiters id waiters).waiters other) :
    other = id ∧ waiter ∈ waiters ∨ waiter ∈ session.waiters other := by
  by_cases same : other = id
  · subst same
    exact .inl ⟨rfl, by simpa [setWaiters] using member⟩
  · exact .inr (by simpa [setWaiters, same] using member)

theorem startWait_arrives {session : Session} {id other : RequestId}
    {timeout : Nat} {waiter : Waiter}
    (member : waiter ∈ (session.startWait id timeout).after.waiters other) :
    session.Arrives none (session.startWait id timeout).after.correlator
      other waiter := by
  rcases mem_setWaiters member with ⟨same, inside⟩ | outside
  · subst same
    rcases List.mem_append.mp inside with old | new
    · exact .stayed waiter old
    · obtain ⟨stage, started, equal⟩ :=
        Option.map_eq_some_iff.mp (Option.mem_toList.mp new)
      subst equal
      obtain ⟨after, mine, comes⟩ :=
        session.correlator.comesFrom_startWait session.now other timeout
          started
      have attaches :=
        session.correlator.attach_attaches session.now other
      rw [← after] at attaches
      exact .joined _ _ stage rfl attaches mine comes
  · exact .stayed waiter outside

theorem openHandle_arrives {session : Session} {id other : RequestId}
    {waiter : Waiter}
    (member : waiter ∈ (session.openHandle id).after.waiters other) :
    session.Arrives none (session.openHandle id).after.correlator other
      waiter := by
  rcases mem_setWaiters member with ⟨same, inside⟩ | outside
  · subst same
    rcases List.mem_append.mp inside with old | new
    · exact .stayed waiter old
    · cases Option.mem_toList.mp new
      obtain ⟨mine, comes⟩ :=
        session.correlator.comesFrom_openHandle session.now other
      exact .joined _ _ _ rfl
        (session.correlator.attach_attaches session.now other) mine comes
  · exact .stayed waiter outside

theorem limit_arrives {session : Session} {id other : RequestId}
    {number timeout : Nat} {waiter : Waiter}
    (member : waiter ∈
      (session.limit id number timeout).after.waiters other) :
    session.Arrives none session.correlator other waiter := by
  unfold limit at member
  split at member
  · rename_i origin handle present
    rcases mem_setWaiters member with ⟨same, inside⟩ | outside
    · subst same
      rcases List.mem_or_eq_of_mem_set inside with old | new
      · exact .stayed waiter old
      · rw [new]
        exact .limited origin handle _ (List.mem_of_getElem? present)
    · exact .stayed waiter outside
  · exact .stayed waiter member

theorem poll_arrives {session : Session} {id other : RequestId}
    {number : Nat} {waiter : Waiter}
    (member : waiter ∈ (session.poll id number).after.waiters other) :
    session.Arrives
      (session.correlator.lapseRuling
        (session.poll id number).after.correlator id)
      (session.poll id number).after.correlator other waiter := by
  cases present : (session.waiters id)[number]? with
  | none =>
      simp only [poll, present] at member ⊢
      exact .stayed waiter member
  | some old =>
      simp only [poll, present] at member ⊢
      rcases mem_setWaiters member with ⟨same, inside⟩ | outside
      · subst same
        rcases List.mem_or_eq_of_mem_set inside with stayed | new
        · exact .stayed waiter stayed
        · rw [new]
          exact .polled old (List.mem_of_getElem? present) rfl rfl
      · exact .stayed waiter outside

theorem waiters_act (session : Session) {action : Action}
    (aboutAll : action.id? = none) :
    (session.act action).after.waiters = session.waiters := by
  cases action with
  | dropCompleted => rfl
  | sweep time => rfl
  | shutDown => rfl
  | advance millis => rfl
  | ring => rfl
  | _ => cases aboutAll

/-- A waiter behind a step was there before, has joined, was given a deadline,
or was polled. -/
theorem act_arrives {session : Session} {action : Action} {id : RequestId}
    {waiter : Waiter}
    (member : waiter ∈ (session.act action).after.waiters id) :
    session.Arrives (session.ruling? action)
      (session.act action).after.correlator id waiter := by
  cases action with
  | wait other timeout => exact startWait_arrives member
  | waitDefault other => exact startWait_arrives member
  | openHandle other => exact openHandle_arrives member
  | limit other number timeout =>
      simp only [act, correlator_limit]
      exact limit_arrives member
  | poll other number => exact poll_arrives member
  | complete other payload => exact .stayed waiter member
  | cancel other => exact .stayed waiter member
  | _ =>
      rw [session.waiters_act rfl] at member
      exact .stayed waiter member

theorem newcomer_sound {now : Instant} {id : RequestId}
    {before after : Correlator} {attachment : Attachment}
    {origin : Option CellId} {stage : Stage} (sound : before.Sound)
    (attaches : before.Attaches now id attachment origin after)
    (mine : stage.IsFor id) (comes : stage.ComesFrom attachment) :
    Waiter.Sound after id { origin := origin, stage := stage } :=
  ⟨mine, fun seen => (attaches.attached sound (comes.waiting seen)).1,
    fun own => attaches.origin_issued sound own,
    fun seen => (attaches.attached sound (comes.waiting seen)).2⟩

theorem Arrives.sound {session : Session} {ruling : Option Ruling}
    {after : Correlator} {id : RequestId} {waiter : Waiter}
    (arrives : session.Arrives ruling after id waiter)
    (sound : session.Sound) (carries : session.correlator.Carries after) :
    waiter.Sound after id := by
  cases arrives with
  | stayed old member => exact (sound.waiters member).carry carries
  | joined attachment origin stage unruled attaches mine comes =>
      exact newcomer_sound sound.correlator attaches mine comes
  | limited origin handle deadline member =>
      have held := (sound.waiters member).carry carries
      exact held.move held.mine fun seen => seen
  | polled old member ruled equal =>
      have held := (sound.waiters member).carry carries
      exact held.move (held.mine.behind _) Stage.cell?_of_behind

theorem act_sound {session : Session} (sound : session.Sound)
    (action : Action) : (session.act action).after.Sound := by
  have carries := act_carries sound action
  exact ⟨carries.sound,
    fun member => (act_arrives member).sound sound carries⟩

theorem run_sound {session : Session} (sound : session.Sound)
    (actions : List Action) : (session.run actions).Sound := by
  induction actions generalizing session with
  | nil => exact sound
  | cons action rest induction => exact induction (act_sound sound action)

theorem answer_poll_of_settled {session : Session} (sound : session.Sound)
    {id : RequestId} {number : Nat} {waiter : Waiter} {cell : CellId}
    {settlement : Settlement}
    (present : (session.waiters id)[number]? = some waiter)
    (waits : waiter.stage.cell? = some cell)
    (settled :
      session.correlator.cells.settlement? cell = some settlement) :
    (session.act (.poll id number)).answer =
      .polled (some settlement.outcome) := by
  have waiterSound := sound.waiters (List.mem_of_getElem? present)
  simp [act, poll, present, onCorrelator,
    session.correlator.pollStage_of_settled session.rung waiterSound.mine
      waits settled]

private theorem released_of_clears {session : Session} (sound : session.Sound)
    {id : RequestId} {number : Nat} {waiter : Waiter} {cell : CellId}
    (present : (session.waiters id)[number]? = some waiter)
    (waits : waiter.stage.cell? = some cell)
    (unsettled : session.correlator.cells.settlement? cell = none)
    {record : Record}
    (found : Records.find? id session.correlator.records = some record)
    (owned : record.cell = cell) (action : Action)
    (aboutAll : action.id? = none)
    (dropped : session.keeps action record = false) :
    ((session.act action).after.act (.poll id number)).answer =
      .polled (some action.reason.outcome) := by
  have settled :=
    (act_clears sound aboutAll).settlement?_of_dropped found dropped
  rw [owned, unsettled] at settled
  refine answer_poll_of_settled (act_sound sound action) ?_ waits settled
  rw [session.waiters_act aboutAll]
  exact present

/-- In every session that a run reaches, records are sound and every waiter's
cell is settled or that of the record under its id.  So polls never find a
dropped cell, and sweeps and shutdowns reach every waiter. -/
theorem reachable_waiter_not_orphaned (defaultTimeout maxRecordAge : Nat)
    (actions : List Action) :
    let session := (start defaultTimeout maxRecordAge).run actions
    let correlator := session.correlator
    (∀ id record, (id, record) ∈ correlator.records →
      record.id = id ∧
      (record.state = .pending ∨ record.state = .timedOut →
        record.payload = none ∧
          correlator.cells.settlement? record.cell = none) ∧
      (record.state = .completed →
        ∃ payload, record.payload = some payload ∧
          correlator.cells.settlement? record.cell =
            some (.reply payload)) ∧
      record.state ≠ .cancelled) ∧
    (∀ now id,
      (correlator.attach now id).answer ≠ .resolved .cancelled ∧
      ∀ payload,
        (correlator.attach now id).answer = .resolved (.completed payload) →
          ∃ record, (id, record) ∈ correlator.records ∧
            record.payload = some payload) ∧
    (∀ id number waiter cell,
      (session.waiters id)[number]? = some waiter →
      waiter.stage.cell? = some cell →
        ((∃ settlement,
            correlator.cells.settlement? cell = some settlement) ∨
          ∃ record, (id, record) ∈ correlator.records ∧
            record.cell = cell) ∧
        correlator.view cell ≠ .orphaned ∧
        (correlator.view cell = .unsettled →
          ((session.act .shutDown).after.act (.poll id number)).answer =
            .polled (some .abandoned) ∧
          ∃ record, Records.find? id correlator.records = some record ∧
            record.cell = cell ∧
            (record.state = .pending ∨ record.state = .timedOut) ∧
            ∀ time,
              correlator.maxRecordAge < record.age time ∨
                record.state ≠ .pending →
              ((session.act (.sweep time)).after.act
                (.poll id number)).answer = .polled (some .abandoned))) := by
  intro session correlator
  have sound : session.Sound :=
    run_sound (sound_start defaultTimeout maxRecordAge) actions
  refine ⟨?_, ?_, ?_⟩
  · intro id record member
    have recordSound := sound.correlator.records
      (Records.find?_of_mem sound.correlator.keyed member)
    exact ⟨recordSound.ownId, recordSound.unsettled, recordSound.completed,
      recordSound.uncancelled⟩
  · intro now id
    have attaches := correlator.attach_attaches now id
    exact ⟨attaches.answer_ne_cancelled sound.correlator,
      fun payload handed => attaches.payload_of_completed sound.correlator
        handed⟩
  · intro id number waiter cell present waits
    have waiterSound := sound.waiters (List.mem_of_getElem? present)
    have attached := waiterSound.attached waits
    refine ⟨?_, sound.correlator.view_ne_orphaned attached, ?_⟩
    · rcases attached.reachable with settled | ⟨record, found, owned⟩
      · exact .inl settled
      · exact .inr ⟨record, Records.mem_of_find? found, owned⟩
    · intro blocked
      have unsettled := Correlator.settlement?_of_view blocked
      obtain ⟨record, found, owned, undecided⟩ :=
        sound.correlator.record_of_attached attached unsettled
      have reached :=
        released_of_clears sound present waits unsettled found owned
      refine ⟨reached .shutDown rfl rfl, record, found, owned, undecided, ?_⟩
      intro time gone
      apply reached (.sweep time) rfl
      rcases gone with overAge | terminal
      · simp [keeps, Correlator.keeps, correlator, Nat.not_le_of_gt overAge]
      · simp [keeps, Correlator.keeps, terminal]

/-- The waiter of a second record under an id, while the first record's waiter
has not been polled. -/
theorem second_waiter_not_orphaned :
    let session := (start 5000 300000).run
      [.openHandle 1, .complete 1 "first", .dropCompleted, .openHandle 1]
    session.correlator.view 1 = .unsettled ∧
      ((session.act .shutDown).after.act (.poll 1 1)).answer =
        .polled (some .abandoned) := by
  intro session
  have blocked : session.correlator.view 1 = .unsettled := by decide
  have waits := (reachable_waiter_not_orphaned 5000 300000
    [.openHandle 1, .complete 1 "first", .dropCompleted, .openHandle 1]).2.2
      1 1 ⟨some 1, .holding ⟨1, .waiting 1⟩⟩ 1 (by decide) rfl
  exact ⟨blocked, (waits.2.2 blocked).1⟩

end Session

end Switchboard
