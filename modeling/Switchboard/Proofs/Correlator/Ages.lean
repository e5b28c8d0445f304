import Mathlib.Data.List.Chain
import Mathlib.Data.List.Induction
import Switchboard.Proofs.Correlator.Invariant

/-!
# Ages of records

A sweep keeps pending records that are not over age, and nothing else.  So what
is held between two sweeps was within the age bound at the first of them or
came later, and no record has been out of the pending state since before that
sweep.  If sweeps come often enough, all ages are bounded, however the records
came to be there.
-/

namespace Switchboard

namespace Correlator

/-- A record that is stored behind an operation on its id was stored before,
is new, or has just come out of the pending state. -/
theorem Touches.stored_cases {id : RequestId} {before after : Correlator}
    {ruling : Option Ruling} (touches : Touches id before ruling after)
    {record : Record}
    (found : Records.find? id after.records = some record) :
    Records.find? id before.records = some record ∨
      Records.find? id before.records = none ∨
      ∃ old, Records.find? id before.records = some old ∧
        old.state = .pending ∧ old.cell = record.cell ∧
        old.createdAt = record.createdAt := by
  cases touches with
  | unchanged => exact .inl found
  | registered now opened absent => exact .inr (.inl absent)
  | fulfilled old payload oldFound pending =>
      have equal :
          { old with state := .completed, payload := some payload } =
            record := by
        simpa [store, Records.find?_put_self] using found
      subst equal
      exact .inr (.inr ⟨old, oldFound, pending, rfl, rfl⟩)
  | cancelled old oldFound pending =>
      simp [remove, Records.find?_erase_self] at found
  | timedOut old oldFound pending =>
      have equal : { old with state := .timedOut } = record := by
        simpa [store, Records.find?_put_self] using found
      subst equal
      exact .inr (.inr ⟨old, oldFound, pending, rfl, rfl⟩)
  | collected old oldFound completed =>
      simp [remove, Records.find?_erase_self] at found

theorem Attaches.registered_of_absent {now : Instant} {id : RequestId}
    {before after : Correlator} {attachment : Attachment}
    {origin : Option CellId}
    (attaches : Attaches now id before attachment origin after)
    (absent : Records.find? id before.records = none) {record : Record}
    (found : Records.find? id after.records = some record) :
    record = .fresh id now before.cells.issued := by
  cases attaches with
  | closed _ => simp [absent] at found
  | joined old oldFound _ => simp [absent] at oldFound
  | collected old oldFound _ => simp [absent] at oldFound
  | late old oldFound _ => simp [absent] at oldFound
  | cancelled old oldFound _ => simp [absent] at oldFound
  | registered _ _ =>
      simpa [store, Records.find?_put_self] using found.symm

end Correlator

namespace Session

theorem now_le_act (session : Session) (action : Action) :
    session.now ≤ (session.act action).after.now := by
  cases action with
  | advance millis => exact Nat.le_add_right _ _
  | limit id number timeout =>
      simp only [act, limit]
      split <;> exact Nat.le_refl _
  | poll id number =>
      simp only [act, poll]
      split <;> exact Nat.le_refl _
  | _ => exact Nat.le_refl _

/-- No timer goes off before its time. -/
theorem rung_le_now_act {session : Session}
    (ordered : session.rung ≤ session.now) (action : Action) :
    (session.act action).after.rung ≤ (session.act action).after.now := by
  cases action with
  | advance millis => exact Nat.le_trans ordered (Nat.le_add_right _ _)
  | limit id number timeout =>
      simp only [act, limit]
      split <;> exact ordered
  | poll id number =>
      simp only [act, poll]
      split <;> exact ordered
  | ring => exact Nat.le_refl _
  | _ => exact ordered

theorem rung_le_now_run {session : Session}
    (ordered : session.rung ≤ session.now) (actions : List Action) :
    (session.run actions).rung ≤ (session.run actions).now := by
  induction actions generalizing session with
  | nil => exact ordered
  | cons action rest induction =>
      exact induction (rung_le_now_act ordered action)

theorem maxRecordAge_act {session : Session} (sound : session.Sound)
    (action : Action) :
    (session.act action).after.correlator.maxRecordAge =
      session.correlator.maxRecordAge := by
  cases about : action.id? with
  | some id => exact (act_touches sound about).maxRecordAge_eq
  | none => exact (act_clears sound about).maxRecordAge

theorem maxRecordAge_run {session : Session} (sound : session.Sound)
    (actions : List Action) :
    (session.run actions).correlator.maxRecordAge =
      session.correlator.maxRecordAge := by
  induction actions generalizing session with
  | nil => rfl
  | cons action rest induction =>
      exact (induction (act_sound sound action)).trans
        (maxRecordAge_act sound action)

/-! ## New records -/

private theorem absent_poll {session : Session} (sound : session.Sound)
    {id : RequestId} (number : Nat)
    (absent : Records.find? id session.correlator.records = none) :
    (session.poll id number).after.correlator = session.correlator := by
  cases present : (session.waiters id)[number]? with
  | none => simp [poll, present]
  | some waiter =>
      have waiterSound := sound.waiters (List.mem_of_getElem? present)
      rw [session.correlator_poll present]
      cases waits : waiter.stage.cell? with
      | none =>
          exact session.correlator.after_pollStage_of_free session.rung waits
      | some cell =>
          -- Without a record of its own the caller's cell is settled.
          rcases (waiterSound.attached waits).reachable with
            ⟨settlement, settled⟩ | ⟨record, found, _⟩
          · rw [session.correlator.pollStage_of_settled session.rung
              waiterSound.mine waits settled, Step.after_map]
            cases settlement with
            | reply payload =>
                simp [Correlator.collect, Correlator.state?, absent]
            | _ => rfl
          · rw [absent] at found
            cases found

private theorem startWait_cases (session : Session) (id : RequestId)
    (timeout : Nat) :
    (session.startWait id timeout).after.correlator = session.correlator ∨
      (session.startWait id timeout).after.correlator =
        (session.correlator.attach session.now id).after := by
  rw [correlator_startWait]
  unfold Correlator.startWait
  split
  · exact .inl rfl
  · exact .inr rfl

private theorem act_of_absent {session : Session} (sound : session.Sound)
    {action : Action} {id : RequestId} (about : action.id? = some id)
    (absent : Records.find? id session.correlator.records = none) :
    (session.act action).after.correlator = session.correlator ∨
      (session.act action).after.correlator =
        (session.correlator.attach session.now id).after := by
  cases action with
  | wait own timeout =>
      cases about
      exact session.startWait_cases id timeout
  | waitDefault own =>
      cases about
      exact session.startWait_cases id _
  | openHandle own =>
      cases about
      exact .inr rfl
  | limit own number timeout =>
      cases about
      exact .inl (session.correlator_limit id number timeout)
  | poll own number =>
      cases about
      exact .inl (absent_poll sound number absent)
  | complete own payload =>
      cases about
      left
      simp only [act, onCorrelator, Step.after_map, Step.after_lift,
        Correlator.complete, absent]
      split <;> rfl
  | cancel own =>
      cases about
      left
      simp [act, onCorrelator, Correlator.cancel, absent]
  | _ => cases about

/-- A record that appears with a step is pending, and as old as the step. -/
theorem fresh_of_absent {session : Session} (sound : session.Sound)
    {action : Action} {id : RequestId} {record : Record}
    (absent : Records.find? id session.correlator.records = none)
    (found : Records.find? id
      (session.act action).after.correlator.records = some record) :
    record = .fresh id session.now session.correlator.cells.issued := by
  cases about : action.id? with
  | none =>
      have stored :=
        ((act_clears sound about).find?_eq_some_iff sound.correlator).mp found
      rw [absent] at stored
      cases stored.1
  | some touched =>
      by_cases same : id = touched
      · subst same
        rcases act_of_absent sound about absent with idle | attached
        · rw [idle, absent] at found
          cases found
        · rw [attached] at found
          have attaches :=
            session.correlator.attach_attaches session.now id
          exact attaches.registered_of_absent absent found
      · rw [(act_touches sound about).elsewhere same, absent] at found
        cases found

/-! ## Sweeps -/

/-- The times at which a run sweeps by the clock. -/
def sweepTimes (session : Session) : List Action → List Instant
  | [] => []
  | action :: rest =>
      let later := (session.act action).after.sweepTimes rest
      if action = .sweep session.now then session.now :: later else later

/-- The time of the last sweep of a run, or else of its start. -/
def lastSweep (session : Session) (actions : List Action) : Instant :=
  (session.sweepTimes actions).getLast?.getD session.now

/-- The first sweep of a run comes at most one interval after its start, the
others at most one interval after each other, and none is missing at the
end. -/
def Punctual (session : Session) (interval : Nat)
    (actions : List Action) : Prop :=
  List.IsChain (fun earlier later => later ≤ earlier + interval)
    (session.now :: session.sweepTimes actions ++
      [(session.run actions).now])

theorem sweepTimes_snoc (session : Session) (actions : List Action)
    (action : Action) :
    session.sweepTimes (actions ++ [action]) =
      session.sweepTimes actions ++
        if action = .sweep (session.run actions).now then
          [(session.run actions).now]
        else
          [] := by
  induction actions generalizing session with
  | nil => rfl
  | cons first rest induction =>
      simp only [List.cons_append, sweepTimes, induction, run]
      split <;> rfl

theorem lastSweep_snoc (session : Session) (actions : List Action)
    (action : Action) :
    session.lastSweep (actions ++ [action]) =
      if action = .sweep (session.run actions).now then
        (session.run actions).now
      else
        session.lastSweep actions := by
  unfold lastSweep
  rw [sweepTimes_snoc]
  split <;> simp

theorem getLast?_sweepTimes (session : Session) (actions : List Action) :
    (session.now :: session.sweepTimes actions).getLast? =
      some (session.lastSweep actions) := by
  rw [List.getLast?_cons]
  rfl

theorem lastSweep_le_now (session : Session) (actions : List Action) :
    session.lastSweep actions ≤ (session.run actions).now := by
  induction actions using List.reverseRecOn with
  | nil => exact Nat.le_refl _
  | append_singleton actions action induction =>
      have onward := (session.run actions).now_le_act action
      rw [lastSweep_snoc, run_snoc]
      split
      · exact onward
      · exact Nat.le_trans induction onward

theorem lastSweep_le_snoc (session : Session) (actions : List Action)
    (action : Action) :
    session.lastSweep actions ≤ session.lastSweep (actions ++ [action]) := by
  rw [lastSweep_snoc]
  split
  · exact session.lastSweep_le_now actions
  · exact Nat.le_refl _

theorem now_le_lastSweep (session : Session) (actions : List Action) :
    session.now ≤ session.lastSweep actions := by
  induction actions using List.reverseRecOn with
  | nil => exact Nat.le_refl _
  | append_singleton actions action induction =>
      exact Nat.le_trans induction (session.lastSweep_le_snoc actions action)

/-- A run is punctual if its sweeps are and the last one is not longer ago than
one interval. -/
theorem punctual_iff_isChain (session : Session) (interval : Nat)
    (actions : List Action) :
    session.Punctual interval actions ↔
      List.IsChain (fun earlier later => later ≤ earlier + interval)
          (session.now :: session.sweepTimes actions) ∧
        (session.run actions).now ≤
          session.lastSweep actions + interval := by
  rw [Punctual, List.isChain_append, getLast?_sweepTimes]
  simp

theorem punctual_snoc (session : Session) (interval : Nat)
    (actions : List Action) (action : Action) :
    session.Punctual interval (actions ++ [action]) ↔
      session.Punctual interval actions ∧
        (session.run (actions ++ [action])).now ≤
          session.lastSweep (actions ++ [action]) + interval := by
  rw [punctual_iff_isChain, punctual_iff_isChain, lastSweep_snoc,
    sweepTimes_snoc]
  have onward := (session.run actions).now_le_act action
  rw [← run_snoc] at onward
  by_cases sweeps : action = .sweep (session.run actions).now
  · have still : (session.run (actions ++ [action])).now =
        (session.run actions).now := by
      rw [run_snoc, sweeps]
      rfl
    rw [if_pos sweeps, if_pos sweeps, still, ← List.cons_append,
      List.isChain_append, getLast?_sweepTimes]
    simp
  · rw [if_neg sweeps, if_neg sweeps, List.append_nil]
    constructor
    · rintro ⟨chain, bound⟩
      exact ⟨⟨chain, Nat.le_trans onward bound⟩, bound⟩
    · rintro ⟨⟨chain, _⟩, bound⟩
      exact ⟨chain, bound⟩

theorem punctual_iff (session : Session) (interval : Nat)
    (actions : List Action) :
    session.Punctual interval actions ↔
      ∀ earlier, earlier <+: actions →
        (session.run earlier).now ≤
          session.lastSweep earlier + interval := by
  induction actions using List.reverseRecOn with
  | nil =>
      simp [punctual_iff_isChain, sweepTimes, lastSweep, run]
  | append_singleton actions action induction =>
      rw [punctual_snoc, induction]
      simp only [List.prefix_concat_iff]
      constructor
      · rintro ⟨inside, whole⟩ earlier (rfl | shorter)
        · exact whole
        · exact inside earlier shorter
      · intro all
        exact ⟨fun earlier inside => all earlier (.inr inside),
          all _ (.inl rfl)⟩

/-- A step of the run, at a time, took the record of an id out of the pending
state and made it what it is. -/
def Turned (session : Session) (actions : List Action) (id : RequestId)
    (record : Record) (time : Instant) : Prop :=
  ∃ earlier action later old,
    actions = earlier ++ action :: later ∧
    (session.run earlier).now = time ∧
    Records.find? id (session.run earlier).correlator.records = some old ∧
    old.cell = record.cell ∧
    old.state = .pending ∧
    Records.find? id
      ((session.run earlier).act action).after.correlator.records =
        some record

theorem Turned.snoc {session : Session} {actions : List Action}
    {id : RequestId} {record : Record} {time : Instant}
    (turned : session.Turned actions id record time) (action : Action) :
    session.Turned (actions ++ [action]) id record time := by
  obtain ⟨earlier, step, later, old, split, rest⟩ := turned
  refine ⟨earlier, step, later ++ [action], old, ?_, rest⟩
  rw [split, List.append_assoc, List.cons_append]

/-- What holds of a record that is stored behind a run. -/
structure Recent (session : Session) (maxAge : Nat)
    (actions : List Action) (id : RequestId) (record : Record) :
    Prop where
  created : session.lastSweep actions ≤ record.createdAt + maxAge
  turned : record.state ≠ .pending →
    ∃ time, session.lastSweep actions ≤ time ∧
      session.Turned actions id record time

section Steps

variable {session : Session} {maxAge : Nat} {actions : List Action}
  {action : Action} {id : RequestId} {record : Record}

/-- Without a sweep by the clock a record stays recent. -/
theorem Recent.snoc (recent : session.Recent maxAge actions id record)
    (quiet : action ≠ .sweep (session.run actions).now) :
    session.Recent maxAge (actions ++ [action]) id record := by
  have same := session.lastSweep_snoc actions action
  rw [if_neg quiet] at same
  constructor
  · rw [same]
    exact recent.created
  · intro decided
    obtain ⟨time, bound, turned⟩ := recent.turned decided
    exact ⟨time, by rw [same]; exact bound, turned.snoc action⟩

theorem recent_of_kept (sound : session.Sound)
    (kept : (session.run actions).correlator.keeps
      (session.run actions).now record = true) :
    session.Recent session.correlator.maxRecordAge
      (actions ++ [.sweep (session.run actions).now]) id record := by
  have bound := maxRecordAge_run sound actions
  simp only [Correlator.keeps, Record.age, bound, Bool.and_eq_true,
    decide_eq_true_eq] at kept
  constructor
  · rw [lastSweep_snoc, if_pos rfl]
    exact Nat.sub_le_iff_le_add'.mp kept.1
  · intro decided
    exact (decided kept.2).elim

private theorem recent_of_fresh (cell : CellId)
    (quiet : action ≠ .sweep (session.run actions).now) :
    session.Recent maxAge (actions ++ [action]) id
      (.fresh id (session.run actions).now cell) := by
  constructor
  · rw [lastSweep_snoc, if_neg quiet]
    exact Nat.le_trans (session.lastSweep_le_now actions)
      (Nat.le_add_right _ _)
  · intro decided
    exact (decided rfl).elim

private theorem Recent.decided {old : Record}
    (recent : session.Recent maxAge actions id old)
    (quiet : action ≠ .sweep (session.run actions).now)
    (stored : Records.find? id
      (session.run actions).correlator.records = some old)
    (pending : old.state = .pending) (cell : old.cell = record.cell)
    (created : old.createdAt = record.createdAt)
    (found : Records.find? id
      ((session.run actions).act action).after.correlator.records =
        some record) :
    session.Recent maxAge (actions ++ [action]) id record := by
  have same := session.lastSweep_snoc actions action
  rw [if_neg quiet] at same
  constructor
  · rw [same, ← created]
    exact recent.created
  · intro _
    refine ⟨(session.run actions).now, ?_, actions, action, [], old, rfl, rfl,
      stored, cell, pending, found⟩
    rw [same]
    exact session.lastSweep_le_now actions

end Steps

theorem recent_of_find? {session : Session} (sound : session.Sound)
    (empty : session.correlator.records = []) (actions : List Action)
    {id : RequestId} {record : Record}
    (found : Records.find? id
      (session.run actions).correlator.records = some record) :
    session.Recent session.correlator.maxRecordAge actions id record := by
  induction actions using List.reverseRecOn generalizing record with
  | nil =>
      rw [run, empty] at found
      cases found
  | append_singleton actions action induction =>
      have reached := run_sound sound actions
      rw [run_snoc] at found
      cases about : action.id? with
      | none =>
          obtain ⟨stored, kept⟩ :=
            ((act_clears reached about).find?_eq_some_iff
              reached.correlator).mp found
          by_cases sweeps : action = .sweep (session.run actions).now
          · subst sweeps
            exact recent_of_kept sound kept
          · exact (induction stored).snoc sweeps
      | some own =>
          have quiet : action ≠ .sweep (session.run actions).now := by
            rintro rfl
            cases about
          have touches := act_touches reached about
          by_cases here : id = own
          · subst here
            rcases touches.stored_cases found with
              stored | absent | ⟨old, stored, pending, cell, created⟩
            · exact (induction stored).snoc quiet
            · rw [fresh_of_absent reached absent found]
              exact recent_of_fresh _ quiet
            · exact (induction stored).decided quiet stored pending cell
                created found
          · rw [touches.elsewhere here] at found
            exact (induction found).snoc quiet

/-- A recent record is not old as long as the last sweep is not long ago. -/
theorem Recent.bounded {session : Session} {maxAge interval : Nat}
    {actions : List Action} {id : RequestId} {record : Record}
    (recent : session.Recent maxAge actions id record)
    (swept : (session.run actions).now ≤
      session.lastSweep actions + interval) :
    record.age (session.run actions).now ≤ maxAge + interval ∧
      (record.state ≠ .pending →
        ∃ time, (session.run actions).now ≤ time + interval ∧
          session.Turned actions id record time) := by
  constructor
  · apply Nat.sub_le_iff_le_add'.mpr
    calc (session.run actions).now
        ≤ session.lastSweep actions + interval := swept
      _ ≤ record.createdAt + maxAge + interval :=
          Nat.add_le_add_right recent.created interval
      _ = record.createdAt + (maxAge + interval) := Nat.add_assoc _ _ _
  · intro decided
    obtain ⟨time, bound, turned⟩ := recent.turned decided
    exact ⟨time, Nat.le_trans swept (Nat.add_le_add_right bound interval),
      turned⟩

end Session

end Switchboard
