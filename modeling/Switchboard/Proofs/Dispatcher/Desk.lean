import Switchboard.Proofs.Engine.Service

/-!
# The desk

The desk is what the queue, the wake-ups and the drain of a service come to,
with the programs of the listeners and all else left out.  `Moves` lists the
ways in which one step can change it, and what happens to notifications in
each.  The laws on the order of notifications and on wake-ups use nothing but
this list.
-/

namespace Switchboard

/-- Something that happens to notifications. -/
inductive Event where
  | accepted (raw : String)
  | dispatched (raw : String)
  /-- A closing discards what waits, and tells how many that were. -/
  | closed (discarded : List String) (told : Nat)
  deriving Repr, DecidableEq

structure Desk where
  queue : List String
  closed : Bool
  wake : Wake
  drain : Option Drain
  /-- How many have pushed and have yet to wake the drain, be they producers
  or the listener that the drain is calling. -/
  owed : Nat
  deriving Repr, DecidableEq

/-- The rest of the batch that a drain has taken. -/
def DrainPhase.inHand : DrainPhase → List String
  | .dispatching rest _ _ => rest
  | _ => []

/-- Whether a drain neither waits nor has stopped. -/
def DrainPhase.isBusy : DrainPhase → Bool
  | .created => true
  | .taking => true
  | .dispatching _ _ _ => true
  | .parking => false
  | .parked => false
  | .stopped => false

namespace Desk

/-- The rest of the batch in hand. -/
def inHand (desk : Desk) : List String :=
  (desk.drain.map (·.phase.inHand)).getD []

theorem inHand_of_eq {desk : Desk} {drain : Drain}
    (present : desk.drain = some drain) :
    desk.inHand = drain.phase.inHand := by
  simp [inHand, present]

/-- The ways in which one step can change a desk. -/
inductive Moves (before : Desk) : Option Event → Desk → Prop where
  | unchanged : Moves before none before
  | pushed (raw : String) :
      before.closed = false →
      Moves before (some (.accepted raw))
        { before with
          queue := before.queue ++ [raw]
          owed := before.owed + 1 }
  | notified (owed : Nat) :
      before.owed = owed + 1 →
      Moves before none
        { before with wake := before.wake.notifyOne, owed := owed }
  | cleared :
      Moves before (some (.closed before.queue before.queue.length))
        { before with queue := [], closed := true }
  | announced :
      Moves before none { before with wake := before.wake.notifyAll }
  /-- The drain comes into being. -/
  | arrived (drain : Drain) :
      before.drain = none →
      drain.phase = .created →
      Moves before none { before with drain := some drain }
  /-- The drain goes on with the batch it has, if any. -/
  | continued (drain : Drain) (phase : DrainPhase) :
      before.drain = some drain →
      drain.phase.isBusy = true →
      phase.isBusy = true →
      phase.inHand = drain.phase.inHand →
      Moves before none
        { before with drain := some (drain.enter phase) }
  | took (drain : Drain) (size delivered : Nat) :
      before.drain = some drain →
      drain.phase = .taking →
      Moves before none
        { before with
          queue := []
          drain := some
            (drain.enter (.dispatching before.queue size delivered)) }
  /-- The drain finds nothing to take. -/
  | idled (drain : Drain) :
      before.drain = some drain →
      drain.phase = .taking →
      before.queue = [] →
      Moves before none
        { before with queue := [], drain := some (drain.enter .parking) }
  | dispatched (drain : Drain) (raw : String) (rest : List String)
      (size delivered : Nat) :
      before.drain = some drain →
      drain.phase = .dispatching (raw :: rest) size delivered →
      Moves before (some (.dispatched raw))
        { before with
          drain := some
            (drain.enter (.dispatching rest size delivered)) }
  /-- The drain takes a permit, or parks. -/
  | entered (drain : Drain) :
      before.drain = some drain →
      drain.phase = .parking →
      Moves before none
        { before with
          wake := (before.wake.enter drain.task).2
          drain := some
            (drain.enter
              (if (before.wake.enter drain.task).1 then .taking
              else .parked)) }
  | woke (drain : Drain) :
      before.drain = some drain →
      drain.phase = .parked →
      (before.wake.pending? drain.task).isSome = true →
      Moves before none
        { before with
          wake := before.wake.consume drain.task
          drain := some (drain.enter .taking) }
  /-- The drain heeds its signal. -/
  | left (drain : Drain) (seen : Nat) (phase : DrainPhase) :
      before.drain = some drain →
      drain.phase = .parking ∨ drain.phase = .parked →
      phase = .taking ∨ phase = .stopped →
      Moves before none
        { before with
          wake := before.wake.leave drain.task
          drain := some { drain with seen := seen, phase := phase } }

end Desk

def Dispatcher.acceptance? (dispatcher : Dispatcher) (raw : String) :
    Option Event :=
  if (dispatcher.push raw).answer then some (.accepted raw) else none

def Dispatcher.closing (dispatcher : Dispatcher) : Event :=
  .closed dispatcher.queue dispatcher.close.answer

namespace Performance

/-- How many wake-ups a listener owes. -/
def debt : Performance → Nat
  | .pushed _ => 1
  | _ => 0

/-- What a listener's next deed does to notifications. -/
def event? (dispatcher : Dispatcher) : Performance → Option Event
  | .ready (.enqueue raw _) => dispatcher.acceptance? raw
  | .ready (.close _) => some dispatcher.closing
  | _ => none

theorem debt_of_ended {performance : Performance} {finished : Bool}
    (ended : performance.ended? = some finished) :
    performance.debt = 0 ∧
      ∀ dispatcher, performance.event? dispatcher = none := by
  cases performance with
  | ready program =>
      cases program with
      | finish => exact ⟨rfl, fun _ => rfl⟩
      | fail failure => exact ⟨rfl, fun _ => rfl⟩
      | _ => cases ended
  | _ => cases ended

end Performance

/-- The notification that a drain takes out of its batch. -/
def Drain.event? (drain : Drain) : Option Event :=
  match drain.phase with
  | .dispatching (raw :: _) _ _ => some (.dispatched raw)
  | _ => none

namespace Service

def desk (service : Service) : Desk where
  queue := service.dispatcher.queue
  closed := service.dispatcher.closed
  wake := service.dispatcher.wake
  drain := service.drain
  owed := service.owed + (service.call.map (·.debt)).getD 0

/-- What a step does to notifications. -/
def event? (service : Service) : Action → Option Event
  | .push raw => service.dispatcher.acceptance? raw
  | .clear => some service.dispatcher.closing
  | .drain _ =>
      service.drain.bind fun drain =>
        match service.call with
        | some performance => performance.event? service.dispatcher
        | none => drain.event?
  | _ => none

/-- What has happened to notifications in a run. -/
def history (service : Service) : List Action → List Event
  | [] => []
  | action :: rest =>
      (service.event? action).toList ++ (service.act action).history rest

theorem deed_moves (service : Service) (hub : Hub)
    (performance : Performance) :
    (service.during hub performance).desk.Moves
      (performance.event? hub.dispatcher)
      (service.during (hub.deed service.now performance).2
        (hub.deed service.now performance).1).desk := by
  cases performance with
  | pushed rest => exact .notified service.owed rfl
  | cleared rest => exact .announced
  | ready program =>
      cases program with
      | enqueue raw next =>
          cases closed : hub.dispatcher.closed with
          | true =>
              obtain ⟨refused, same⟩ :=
                Dispatcher.push_of_closed closed raw
              rw [hub.deed_enqueue_of_refused service.now next refused, same]
              simp only [Performance.event?, Dispatcher.acceptance?, refused]
              exact .unchanged
          | false =>
              obtain ⟨accepted, queued⟩ :=
                Dispatcher.push_of_open closed raw
              rw [hub.deed_enqueue_of_accepted service.now next accepted,
                queued]
              simp only [Performance.event?, Dispatcher.acceptance?, accepted]
              exact .pushed raw closed
      | close next => exact .cleared
      | _ => exact .unchanged

private theorem take_moves {service : Service} {drain : Drain}
    (present : service.drain = some drain) (phase : drain.phase = .taking) :
    service.desk.Moves none
      (service.advance (drain.take service.hub)).desk := by
  let batch := service.dispatcher.queue
  have taken :
      (service.advance (drain.take service.hub)).desk =
        { service.desk with
          queue := []
          drain := some
            (if batch.isEmpty then drain.enter .parking
            else drain.enter (.dispatching batch batch.length 0)) } := rfl
  rw [taken]
  split
  · rename_i empty
    exact .idled drain present phase (List.isEmpty_iff.mp empty)
  · exact .took drain batch.length 0 present phase

private theorem leave_moves {service : Service} {drain : Drain}
    (present : service.drain = some drain)
    (waits : drain.phase = .parking ∨ drain.phase = .parked) :
    service.desk.Moves none
      (service.advance
        (drain.heed service.engine.signal service.hub)).desk := by
  unfold Drain.heed
  dsimp only
  split
  · exact .left drain drain.seen .stopped present waits (.inr rfl)
  · exact .left drain service.engine.signal.version .taking present waits
      (.inl rfl)

private theorem turn_moves {service : Service} {drain : Drain}
    (present : service.drain = some drain) (idle : service.call = none)
    (heeds : Bool) :
    service.desk.Moves drain.event? (service.turn heeds drain).desk := by
  cases phase : drain.phase with
  | created =>
      simp only [turn, idle, phase, Drain.event?]
      exact .continued drain .taking present (by rw [phase]; rfl) rfl
        (by rw [phase]; rfl)
  | taking =>
      simp only [turn, idle, phase, Drain.event?]
      exact take_moves present phase
  | dispatching batch size delivered =>
      cases batch with
      | nil =>
          simp only [turn, idle, phase, Drain.event?]
          exact .continued drain .taking present (by rw [phase]; rfl) rfl
            (by rw [phase]; rfl)
      | cons raw rest =>
          simp only [turn, idle, phase, Drain.event?]
          have taken : service.desk.Moves _ _ :=
            .dispatched drain raw rest size delivered present phase
          cases called : service.hub.call? raw <;>
            simpa [desk, setDrain, dispatcher, hub, idle, Performance.debt]
              using taken
  | parking =>
      simp only [turn, idle, phase, Drain.event?]
      split
      · exact leave_moves present (.inl phase)
      · exact .entered drain present phase
  | parked =>
      simp only [turn, idle, phase, Drain.event?]
      split
      · exact leave_moves present (.inr phase)
      · split
        · rename_i woken
          exact .woke drain present phase woken
        · exact .unchanged
  | stopped =>
      simp only [turn, idle, phase, Drain.event?]
      exact .unchanged

private theorem call_moves {service : Service} {drain : Drain}
    {performance : Performance} (present : service.drain = some drain)
    (calling : service.call = some performance) (heeds : Bool) :
    service.desk.Moves (performance.event? service.dispatcher)
      (service.turn heeds drain).desk := by
  cases ended : performance.ended? with
  | none =>
      have moves := service.deed_moves service.hub performance
      rw [during_self calling] at moves
      simp only [turn, calling, ended]
      exact moves
  | some finished =>
      obtain ⟨paid, silent⟩ := Performance.debt_of_ended ended
      have behind :
          (service.turn heeds drain).desk =
            { service.desk with drain := some (drain.tally finished) } := by
        simp only [turn, calling, ended]
        simp [desk, setDrain, dispatcher, hub, calling, paid]
      rw [behind, silent]
      unfold Drain.tally
      split
      · rename_i rest size delivered phase
        exact .continued drain _ present (by rw [phase]; rfl) rfl
          (by rw [phase]; rfl)
      · rw [← present]
        exact .unchanged

theorem act_moves {service : Service} (orderly : service.Orderly)
    (action : Action) :
    service.desk.Moves (service.event? action)
      (service.act action).desk := by
  cases action with
  | start task =>
      rw [act_start]
      split
      · rename_i created
        exact .arrived _ (orderly.unstarted created) rfl
      · exact .unchanged
  | push raw =>
      cases closed : service.dispatcher.closed with
      | true =>
          obtain ⟨refused, same⟩ := Dispatcher.push_of_closed closed raw
          simp only [act, event?, Dispatcher.acceptance?, refused, same]
          exact .unchanged
      | false =>
          obtain ⟨accepted, queued⟩ := Dispatcher.push_of_open closed raw
          have pushed : service.desk.Moves _ _ := .pushed raw closed
          simp only [act, event?, Dispatcher.acceptance?, accepted, queued]
          simpa [desk, setDispatcher, setHub, dispatcher, hub,
            Hub.setDispatcher, Nat.add_right_comm] using pushed
  | notify =>
      simp only [act, event?]
      split
      · exact .unchanged
      · rename_i owed owes
        refine .notified (owed + (service.call.map (·.debt)).getD 0) ?_
        simp only [desk, owes]
        omega
  | clear => exact .cleared
  | notifyAll => exact .announced
  | drain heeds =>
      cases present : service.drain with
      | none =>
          simp only [act, event?, present]
          exact .unchanged
      | some drain =>
          cases calling : service.call with
          | none =>
              simp only [act, event?, present, calling, Option.bind_some]
              exact turn_moves present calling heeds
          | some performance =>
              simp only [act, event?, present, calling, Option.bind_some]
              exact call_moves present calling heeds
  | _ => exact .unchanged

end Service

end Switchboard
