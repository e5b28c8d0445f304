import Switchboard.Proofs.Dispatcher.Desk
import Switchboard.Proofs.Engine.Adequacy

/-!
# No lost wake-up

A drain that is about to park finds a permit, or someone still owes it a
wake-up, if there is anything to take.  A drain that is parked has a wake-up
that it has not seen, or there is nothing to take, or someone still owes it
one.
-/

namespace Switchboard

namespace Wake

/-- No task waits. -/
structure Calm (wake : Wake) : Prop where
  parked : wake.parked = []
  woken : wake.woken = []

/-- One task waits, and there is no wake-up for it. -/
structure Holds (wake : Wake) (task : TaskId) : Prop where
  parked : wake.parked = [task]
  woken : wake.woken = []

/-- One task waits that has not seen its wake-up. -/
structure Rouses (wake : Wake) (task : TaskId) : Prop where
  parked : wake.parked = []
  woken : ∃ kind, wake.woken = [(task, kind)]

variable {wake : Wake} {task : TaskId}

theorem Calm.notifyOne (calm : wake.Calm) :
    wake.notifyOne.Calm ∧ wake.notifyOne.permit = true := by
  obtain ⟨permit, parked, woken⟩ := wake
  obtain ⟨rfl, rfl⟩ := calm
  exact ⟨⟨rfl, rfl⟩, rfl⟩

theorem Holds.notifyOne (holds : wake.Holds task) :
    wake.notifyOne.Rouses task := by
  obtain ⟨permit, parked, woken⟩ := wake
  obtain ⟨rfl, rfl⟩ := holds
  exact ⟨rfl, .one, rfl⟩

theorem Rouses.notifyOne (rouses : wake.Rouses task) :
    wake.notifyOne.Rouses task := by
  obtain ⟨permit, parked, woken⟩ := wake
  obtain ⟨rfl, kind, rfl⟩ := rouses
  exact ⟨rfl, kind, rfl⟩

theorem Calm.notifyAll (calm : wake.Calm) : wake.notifyAll.Calm := by
  obtain ⟨permit, parked, woken⟩ := wake
  obtain ⟨rfl, rfl⟩ := calm
  exact ⟨rfl, rfl⟩

theorem Holds.notifyAll (holds : wake.Holds task) :
    wake.notifyAll.Rouses task := by
  obtain ⟨permit, parked, woken⟩ := wake
  obtain ⟨rfl, rfl⟩ := holds
  exact ⟨rfl, .all, rfl⟩

theorem Rouses.notifyAll (rouses : wake.Rouses task) :
    wake.notifyAll.Rouses task := by
  obtain ⟨permit, parked, woken⟩ := wake
  obtain ⟨rfl, kind, rfl⟩ := rouses
  exact ⟨rfl, kind, rfl⟩

theorem answer_enter_of_permit (permitted : wake.permit = true)
    (task : TaskId) : (wake.enter task).1 = true := by
  simp [enter, permitted]

theorem Calm.enter_of_permit (calm : wake.Calm) (task : TaskId)
    (permitted : wake.permit = true) : (wake.enter task).2.Calm := by
  obtain ⟨permit, parked, woken⟩ := wake
  obtain ⟨rfl, rfl⟩ := calm
  cases permitted
  exact ⟨rfl, rfl⟩

theorem Calm.enter_of_no_permit (calm : wake.Calm) (task : TaskId)
    (unpermitted : wake.permit = false) :
    (wake.enter task).1 = false ∧ (wake.enter task).2.Holds task := by
  obtain ⟨permit, parked, woken⟩ := wake
  obtain ⟨rfl, rfl⟩ := calm
  cases unpermitted
  exact ⟨rfl, rfl, rfl⟩

theorem Holds.pending?_eq_none (holds : wake.Holds task) :
    wake.pending? task = none := by
  simp [pending?, holds.woken]

theorem Rouses.isSome_pending? (rouses : wake.Rouses task) :
    (wake.pending? task).isSome = true := by
  obtain ⟨kind, woken⟩ := rouses.woken
  simp [pending?, woken]

theorem Rouses.consume (rouses : wake.Rouses task) :
    (wake.consume task).Calm := by
  obtain ⟨kind, woken⟩ := rouses.woken
  exact ⟨rouses.parked, by simp [Wake.consume, woken]⟩

/-- No task waits once the only one has left. -/
theorem calm_leave (parked : wake.parked = [] ∨ wake.parked = [task])
    (woken : wake.woken = [] ∨ ∃ kind, wake.woken = [(task, kind)]) :
    (wake.leave task).Calm := by
  have left :
      Calm
        { wake.consume task with
          parked := wake.parked.filter (· ≠ task) } := by
    constructor
    · rcases parked with none | one
      · simp [none]
      · simp [one]
    · rcases woken with none | ⟨kind, one⟩
      · simp [Wake.consume, none]
      · simp [Wake.consume, one]
  unfold Wake.leave
  dsimp only
  split
  · exact left.notifyOne.1
  · exact left

end Wake

namespace Desk

/-- How the wake-ups stand for a drain in each phase. -/
def Watches (desk : Desk) (task : TaskId) : DrainPhase → Prop
  | .parking =>
      desk.wake.Calm ∧
        (desk.queue ≠ [] → desk.wake.permit = true ∨ 0 < desk.owed)
  | .parked =>
      desk.wake.Holds task ∧ (desk.queue ≠ [] → 0 < desk.owed) ∨
        desk.wake.Rouses task
  | _ => desk.wake.Calm

/-- The drain does not miss what waits. -/
def Alert (desk : Desk) : Prop :=
  match desk.drain with
  | none => desk.wake.Calm
  | some drain => desk.Watches drain.task drain.phase

variable {before after : Desk} {drain : Drain}

theorem alert_iff (present : before.drain = some drain) :
    before.Alert ↔ before.Watches drain.task drain.phase := by
  simp [Alert, present]

theorem Alert.calm_of_busy (alert : before.Alert)
    (present : before.drain = some drain)
    (busy : drain.phase.isBusy = true) : before.wake.Calm := by
  rw [alert_iff present] at alert
  cases phase : drain.phase with
  | created => rwa [phase] at alert
  | taking => rwa [phase] at alert
  | dispatching rest size delivered => rwa [phase] at alert
  | _ => simp [phase, DrainPhase.isBusy] at busy

theorem watches_of_busy (calm : before.wake.Calm) (task : TaskId)
    {phase : DrainPhase} (busy : phase.isBusy = true) :
    before.Watches task phase := by
  cases phase with
  | parking => cases busy
  | parked => cases busy
  | stopped => cases busy
  | _ => exact calm

/-- What others do leaves the drain alert if each phase bears it. -/
theorem Alert.elsewhere (alert : before.Alert)
    (same : after.drain = before.drain)
    (calm : before.wake.Calm → after.wake.Calm)
    (ahead : before.wake.Calm →
      (before.queue ≠ [] → before.wake.permit = true ∨ 0 < before.owed) →
      (after.queue ≠ [] → after.wake.permit = true ∨ 0 < after.owed))
    (asleep : ∀ task, before.wake.Holds task →
      (before.queue ≠ [] → 0 < before.owed) →
      after.wake.Holds task ∧ (after.queue ≠ [] → 0 < after.owed) ∨
        after.wake.Rouses task)
    (roused : ∀ task, before.wake.Rouses task → after.wake.Rouses task) :
    after.Alert := by
  cases present : before.drain with
  | none =>
      simp only [Alert, same, present] at alert ⊢
      exact calm alert
  | some drain =>
      -- Others do not move the drain, so its phase is the same behind.
      rw [alert_iff present] at alert
      rw [alert_iff (same.trans present)]
      cases phase : drain.phase with
      | parking =>
          rw [phase] at alert
          exact ⟨calm alert.1, ahead alert.1 alert.2⟩
      | parked =>
          rw [phase] at alert
          rcases alert with ⟨holds, covered⟩ | rouses
          · exact asleep drain.task holds covered
          · exact .inr (roused drain.task rouses)
      | _ =>
          rw [phase] at alert
          exact calm alert

theorem Alert.pushed (alert : before.Alert) (queue : List String)
    (owed : Nat) :
    Alert { before with queue := queue, owed := owed + 1 } :=
  alert.elsewhere rfl id (fun _ _ _ => .inr (Nat.succ_pos owed))
    (fun _ holds _ => .inl ⟨holds, fun _ => Nat.succ_pos owed⟩)
    (fun _ => id)

theorem Alert.notified (alert : before.Alert) (owed : Nat) :
    Alert { before with wake := before.wake.notifyOne, owed := owed } :=
  alert.elsewhere rfl (fun calm => calm.notifyOne.1)
    (fun calm _ _ => .inl calm.notifyOne.2)
    (fun _ holds _ => .inr holds.notifyOne) (fun _ => .notifyOne)

theorem Alert.cleared (alert : before.Alert) :
    Alert { before with queue := [], closed := true } :=
  alert.elsewhere rfl id (fun _ _ waiting => (waiting rfl).elim)
    (fun _ holds _ => .inl ⟨holds, fun waiting => (waiting rfl).elim⟩)
    (fun _ => id)

theorem Alert.announced (alert : before.Alert) :
    Alert { before with wake := before.wake.notifyAll } :=
  alert.elsewhere rfl .notifyAll (fun _ covered => covered)
    (fun _ holds _ => .inr holds.notifyAll) (fun _ => .notifyAll)

theorem Alert.entered (alert : before.Alert)
    (present : before.drain = some drain) (phase : drain.phase = .parking) :
    Alert
      { before with
        wake := (before.wake.enter drain.task).2
        drain := some
          (drain.enter
            (if (before.wake.enter drain.task).1 then .taking
            else .parked)) } := by
  rw [alert_iff present, phase] at alert
  obtain ⟨calm, covered⟩ := alert
  cases permit : before.wake.permit with
  | true =>
      rw [Wake.answer_enter_of_permit permit]
      exact calm.enter_of_permit drain.task permit
  | false =>
      -- With no permit, whatever waits must still be owed for.
      obtain ⟨refused, holds⟩ := calm.enter_of_no_permit drain.task permit
      rw [refused]
      refine .inl ⟨holds, fun waiting => ?_⟩
      rcases covered waiting with permitted | owes
      · rw [permit] at permitted
        cases permitted
      · exact owes

private theorem Alert.woke (alert : before.Alert)
    (present : before.drain = some drain) (phase : drain.phase = .parked)
    (woken : (before.wake.pending? drain.task).isSome = true) :
    (before.wake.consume drain.task).Calm := by
  rw [alert_iff present, phase] at alert
  rcases alert with ⟨holds, _⟩ | rouses
  · rw [holds.pending?_eq_none] at woken
    cases woken
  · exact rouses.consume

private theorem Alert.left (alert : before.Alert)
    (present : before.drain = some drain)
    (waits : drain.phase = .parking ∨ drain.phase = .parked) :
    (before.wake.leave drain.task).Calm := by
  rw [alert_iff present] at alert
  rcases waits with parking | parked
  · rw [parking] at alert
    exact Wake.calm_leave (.inl alert.1.parked) (.inl alert.1.woken)
  · rw [parked] at alert
    rcases alert with ⟨holds, _⟩ | rouses
    · exact Wake.calm_leave (.inr holds.parked) (.inl holds.woken)
    · exact Wake.calm_leave (.inl rouses.parked) (.inr rouses.woken)

private theorem Moves.alert {event : Option Event}
    (moves : before.Moves event after) (alert : before.Alert) :
    after.Alert := by
  cases moves with
  | unchanged => exact alert
  | pushed raw opened => exact alert.pushed _ _
  | notified owed owes => exact alert.notified owed
  | cleared => exact alert.cleared
  | announced => exact alert.announced
  | arrived drain absent phase =>
      have calm : before.wake.Calm := by simpa [Alert, absent] using alert
      exact watches_of_busy calm _ (by rw [phase]; rfl)
  | continued drain phase present busy busyAfter same =>
      exact watches_of_busy (alert.calm_of_busy present busy) _ busyAfter
  | took drain size delivered present phase =>
      exact alert.calm_of_busy present (by rw [phase]; rfl)
  | idled drain present phase empty =>
      exact ⟨alert.calm_of_busy present (by rw [phase]; rfl),
        fun waiting => (waiting rfl).elim⟩
  | dispatched drain raw rest size delivered present phase =>
      exact alert.calm_of_busy present (by rw [phase]; rfl)
  | entered drain present phase => exact alert.entered present phase
  | woke drain present phase woken => exact alert.woke present phase woken
  | left drain seen phase present waits next =>
      have calm := alert.left present waits
      rcases next with rfl | rfl <;> exact calm

end Desk

namespace Service

theorem run_alert {service : Service} (orderly : service.Orderly)
    (alert : service.desk.Alert) (actions : List Action) :
    (service.run actions).desk.Alert := by
  have both : (service.run actions).Orderly ∧
      (service.run actions).desk.Alert := by
    refine run_keeps (fun service => service.Orderly ∧ service.desk.Alert)
      ?_ ⟨orderly, alert⟩ actions
    rintro service action ⟨orderly, alert⟩
    exact ⟨act_orderly orderly action, (act_moves orderly action).alert alert⟩
  exact both.2

theorem leads_take {service : Service} {drain : Drain}
    (present : service.drain = some drain) (idle : service.call = none)
    (phase : drain.phase = .taking) :
    ∃ taken, Leads false service taken ∧
      taken.desk.inHand = service.dispatcher.queue := by
  refine ⟨service.advance (drain.take service.hub), ?_, ?_⟩
  · refine .step ?_
    simp only [act, turn, present, idle, phase]
    exact .refl false _
  · rw [Desk.inHand_of_eq rfl]
    let batch := service.dispatcher.queue
    change
      (if batch.isEmpty then drain.enter .parking
        else drain.enter (.dispatching batch batch.length 0)).phase.inHand =
          batch
    split
    · rename_i empty
      exact (List.isEmpty_iff.mp empty).symm
    · rfl

private theorem leads_take_of_woken {service : Service} {drain : Drain}
    (present : service.drain = some drain) (idle : service.call = none)
    (phase : drain.phase = .parked)
    (woken : drain.isWoken service.hub = true) :
    ∃ taken, Leads false service taken ∧
      taken.desk.inHand = service.dispatcher.queue := by
  let awake := service.advance (drain.wakeUp service.hub)
  have attended : awake.drain = some (drain.wakeUp service.hub).answer := rfl
  obtain ⟨taken, leads, inHand⟩ := leads_take attended idle rfl
  refine ⟨taken, .step ?_, inHand⟩
  simpa [act, turn, present, idle, phase, woken] using leads

private theorem leads_take_of_permit {service : Service} {drain : Drain}
    (present : service.drain = some drain) (idle : service.call = none)
    (phase : drain.phase = .parking)
    (permitted : service.dispatcher.wake.permit = true) :
    ∃ taken, Leads false service taken ∧
      taken.desk.inHand = service.dispatcher.queue := by
  let awake := service.advance (drain.park service.hub)
  have taken := Wake.answer_enter_of_permit permitted drain.task
  have taking : (drain.park service.hub).answer.phase = .taking := by
    change
      (drain.enter
        (if (service.dispatcher.wake.enter drain.task).1 then .taking
        else .parked)).phase = .taking
    rw [taken]
    rfl
  have attended : awake.drain = some (drain.park service.hub).answer := rfl
  obtain ⟨behind, leads, inHand⟩ := leads_take attended idle taking
  refine ⟨behind, .step ?_, inHand⟩
  simpa [act, turn, present, idle, phase] using leads

/-- No wake-up is lost: nothing waits while the drain is parked, unless a
wake-up for it is there or owed.  What waits is taken by the drain's own turns
as soon as nobody owes it a wake-up. -/
theorem queue_eq_nil_of_parked (config : EngineConfig)
    (actions : List Action) (drain : Drain)
    (present : ((ofConfig config).run actions).drain = some drain)
    (paid : ((ofConfig config).run actions).owed = 0) :
    let last := (ofConfig config).run actions
    (drain.phase = .parked → drain.isWoken last.hub = false →
        last.dispatcher.queue = []) ∧
      (drain.phase = .parking ∨ drain.phase = .parked →
        last.dispatcher.queue ≠ [] →
        ∃ taken, Leads false last taken ∧
          taken.desk.inHand = last.dispatcher.queue) := by
  intro last
  have orderly : last.Orderly := run_orderly (orderly_ofConfig config) actions
  have new : (ofConfig config).desk.Alert := ⟨rfl, rfl⟩
  have alert : last.desk.Alert :=
    run_alert (orderly_ofConfig config) new actions
  rw [Desk.alert_iff present] at alert
  have nothingOwed : last.call = none → ¬ 0 < last.desk.owed := by
    intro idle
    simp [desk, paid, idle, last]
  have roused : last.call = none → drain.phase = .parked →
      last.dispatcher.queue ≠ [] → drain.isWoken last.hub = true := by
    intro idle parked waiting
    rw [parked] at alert
    rcases alert with ⟨_, owes⟩ | rouses
    · exact (nothingOwed idle (owes waiting)).elim
    · exact rouses.isSome_pending?
  constructor
  · intro parked unwoken
    have idle := orderly.idle present (by simp [parked])
    by_contra waiting
    have woken := roused idle parked waiting
    rw [unwoken] at woken
    cases woken
  · intro waits waiting
    rcases waits with parking | parked
    · have idle := orderly.idle present (by simp [parking])
      rw [parking] at alert
      rcases alert.2 waiting with permitted | owes
      · exact leads_take_of_permit present idle parking permitted
      · exact (nothingOwed idle owes).elim
    · have idle := orderly.idle present (by simp [parked])
      exact leads_take_of_woken present idle parked
        (roused idle parked waiting)

/-- A drain that heeds its signal while it has a wake-up passes that on to
itself: it takes what waits, and parks again only when nothing does. -/
theorem queue_eq_nil_after_heeding :
    let actions : List Action :=
      [.start 0, .drain false, .drain false, .drain false, .push "first",
        .notify, .signal false, .drain true] ++
        List.replicate 7 (.drain false)
    let last := (ofConfig {}).run actions
    last.drain = some { task := 0, seen := 1, phase := .parked } ∧
      last.owed = 0 ∧ last.dispatcher.queue = [] := by
  intro actions last
  have present :
      last.drain = some { task := 0, seen := 1, phase := .parked } := by
    decide +kernel
  have paid : last.owed = 0 := by decide +kernel
  have unwoken :
      Drain.isWoken { task := 0, seen := 1, phase := .parked } last.hub =
        false := by
    decide +kernel
  exact ⟨present, paid,
    (queue_eq_nil_of_parked {} actions _ present paid).1 rfl unwoken⟩

end Service

end Switchboard
