import Switchboard.Proofs.Correlator.Decisions
import Switchboard.Proofs.Correlator.Tallies
import Switchboard.Proofs.Dispatcher.Order

/-!
# Shutdown is final

The correlator of a service goes through a session, whatever the dispatcher and
the drain do beside it.  So a shutdown finds every record in some state that a
session can reach, and every waiter either gets what was decided about its
record or is let go.  What is closed stays closed, and nothing is held by a
closed correlator or a closed dispatcher.
-/

namespace Switchboard

/-- What a listener's next deed does to the correlator. -/
def Performance.share? : Performance → Option Session.Action
  | .ready (.complete id payload _) => some (.complete id payload)
  | .ready (.cancel id _) => some (.cancel id)
  | _ => none

namespace Service

/-- What a step does to the correlator. -/
def share? (service : Service) : Action → Option Session.Action
  | .correlate action => some action
  | .drain _ =>
      service.drain.bind fun _ =>
        service.call.bind fun performance => performance.share?
  | _ => none

/-- What a run does to the correlator. -/
def trace (service : Service) : List Action → List Session.Action
  | [] => []
  | action :: rest =>
      (service.share? action).toList ++ (service.act action).trace rest

theorem session_deed (service : Service) (performance : Performance) :
    (service.during (service.hub.deed service.now performance).2
        (service.hub.deed service.now performance).1).session =
      service.session.run performance.share?.toList := by
  cases performance with
  | ready program =>
      cases program with
      | enqueue raw next =>
          cases accepted : (service.hub.dispatcher.push raw).answer with
          | true =>
              rw [service.hub.deed_enqueue_of_accepted _ next accepted]
              rfl
          | false =>
              rw [service.hub.deed_enqueue_of_refused _ next accepted]
              rfl
      | _ => rfl
  | _ => rfl

private theorem share?_of_ended {performance : Performance} {finished : Bool}
    (ended : performance.ended? = some finished) :
    performance.share? = none := by
  cases performance with
  | ready program =>
      cases program with
      | finish => rfl
      | fail failure => rfl
      | _ => cases ended
  | _ => rfl

private theorem session_heed (service : Service) (drain : Drain) :
    (service.advance
      (drain.heed service.engine.signal service.hub)).session =
        service.session := by
  unfold Drain.heed
  dsimp only
  split <;> rfl

private theorem session_turn
    (service : Service) (heeds : Bool) (drain : Drain) :
    (service.turn heeds drain).session =
      service.session.run
        (service.call.bind fun performance =>
          performance.share?).toList := by
  cases calling : service.call with
  | some performance =>
      simp only [turn, calling, Option.bind_some]
      cases ended : performance.ended? with
      | some finished =>
          rw [share?_of_ended ended]
          rfl
      | none => exact service.session_deed performance
  | none =>
      simp only [turn, calling, Option.bind_none]
      cases phase : drain.phase with
      | dispatching batch size delivered => cases batch <;> rfl
      | parking =>
          dsimp only
          split
          · exact session_heed service drain
          · rfl
      | parked =>
          dsimp only
          split
          · exact session_heed service drain
          · split <;> rfl
      | _ => rfl

/-- A step on the service is at most one step of the session. -/
theorem session_act (service : Service) (action : Action) :
    (service.act action).session =
      service.session.run (service.share? action).toList := by
  cases action with
  | start task =>
      rw [act_start]
      split <;> rfl
  | notify =>
      simp only [act]
      split <;> rfl
  | drain heeds =>
      cases present : service.drain with
      | none => simp [act, share?, present, Session.run]
      | some drain =>
          simp only [act, share?, present, Option.bind_some]
          exact service.session_turn heeds drain
  | _ => rfl

theorem session_run (service : Service) (actions : List Action) :
    (service.run actions).session =
      service.session.run (service.trace actions) := by
  induction actions generalizing service with
  | nil => rfl
  | cons action rest induction =>
      rw [run, induction, session_act]
      cases shared : service.share? action with
      | none => simp [trace, shared, Session.run]
      | some own => simp [trace, shared, Session.run]

/-! ## What stays as it is -/

/-- What one action brings about and every action keeps holds behind every run
with that action. -/
theorem run_of_mem (sound goal : Service → Prop)
    (carries : ∀ {service : Service} (action : Action),
      sound service → sound (service.act action))
    (keeps : ∀ {service : Service} (action : Action),
      sound service → goal service → goal (service.act action))
    {action : Action}
    (makes : ∀ {service : Service},
      sound service → goal (service.act action))
    {service : Service} (begun : sound service) {actions : List Action}
    (member : action ∈ actions) : goal (service.run actions) := by
  obtain ⟨first, rest, rfl⟩ := List.append_of_mem member
  rw [run_append]
  have before : sound (service.run first) :=
    run_keeps sound carries begun first
  have both : sound ((service.run first).run (action :: rest)) ∧
      goal ((service.run first).run (action :: rest)) := by
    refine run_keeps (fun service => sound service ∧ goal service) ?_
      ⟨carries action before, makes before⟩ rest
    rintro service action ⟨held, reached⟩
    exact ⟨carries action held, keeps action held reached⟩
  exact both.2

theorem stopped_act {service : Service} (action : Action)
    (stopped : service.engine.lifecycle = .stopped) :
    (service.act action).engine.lifecycle = .stopped := by
  cases action with
  | start task =>
      rw [act_start, if_neg (by simp [stopped])]
      exact stopped
  | stop => rfl
  | notify =>
      simp only [act]
      split <;> exact stopped
  | drain heeds =>
      simp only [act]
      split
      · exact stopped
      · rw [lifecycle_turn]
        exact stopped
  | _ => exact stopped

end Service

theorem Session.closed_act {session : Session} (sound : session.Sound)
    (action : Session.Action) (closed : session.correlator.closed = true) :
    (session.act action).after.correlator.closed = true := by
  rw [closed_act_eq sound action, closed, Bool.true_or]

theorem Desk.Moves.closed {before after : Desk} {event : Option Event}
    (moves : before.Moves event after) (closed : before.closed = true) :
    after.closed = true := by
  cases moves with
  | cleared => rfl
  | _ => exact closed

namespace Service

theorem act_sound {service : Service} (action : Action)
    (sound : service.session.Sound) :
    (service.act action).session.Sound := by
  rw [session_act]
  exact Session.run_sound sound _

theorem correlator_closed_act {service : Service} (action : Action)
    (sound : service.session.Sound)
    (closed : service.session.correlator.closed = true) :
    (service.act action).session.correlator.closed = true := by
  rw [session_act]
  cases service.share? action with
  | none => exact closed
  | some own => exact Session.closed_act sound own closed

structure Shut (service : Service) : Prop where
  lifecycle : service.engine.lifecycle = .stopped
  correlator : service.hub.correlator.closed = true
  dispatcher : service.dispatcher.closed = true

theorem shut_of_sublist {service : Service} (orderly : service.Orderly)
    (sound : service.session.Sound) {actions : List Action}
    (shutdown : Action.shutdown.Sublist actions) :
    (service.run actions).Shut := by
  have stop : Action.stop ∈ actions :=
    shutdown.subset (by simp [Action.shutdown])
  have shutDown : Action.correlate .shutDown ∈ actions :=
    shutdown.subset (by simp [Action.shutdown])
  have clear : Action.clear ∈ actions :=
    shutdown.subset (by simp [Action.shutdown])
  constructor
  · exact run_of_mem Orderly (·.engine.lifecycle = .stopped)
      (fun action held => act_orderly held action)
      (fun action _ stopped => stopped_act action stopped)
      (fun _ => rfl) orderly stop
  · exact run_of_mem (·.session.Sound) (·.hub.correlator.closed = true)
      (fun action held => act_sound action held)
      (fun action held closed => correlator_closed_act action held closed)
      (fun _ => rfl) sound shutDown
  · exact run_of_mem Orderly (·.desk.closed = true)
      (fun action held => act_orderly held action)
      (fun action held closed => (act_moves held action).closed closed)
      (fun _ => rfl) orderly clear

end Service

/-! ## What an engine does that has been shut down -/

namespace Correlator

variable {correlator : Correlator}

theorem attach_of_closed (closed : correlator.closed = true)
    (now : Instant) (id : RequestId) :
    correlator.attach now id =
      { answer := .resolved .abandoned, after := correlator } := by
  simp [attach, closed]

theorem startWait_of_closed (closed : correlator.closed = true)
    (now : Instant) (id : RequestId) {timeout : Nat}
    (positive : timeout ≠ 0) :
    (correlator.startWait now id timeout).answer = .resolved .abandoned := by
  simp [startWait, positive, attach_of_closed closed]

theorem openHandle_of_closed (closed : correlator.closed = true)
    (now : Instant) (id : RequestId) :
    (correlator.openHandle now id).answer =
      { id := id, source := .ready (some .abandoned) } := by
  simp [openHandle, attach_of_closed closed]

theorem complete_of_closed (closed : correlator.closed = true)
    (now : Instant) (id : RequestId) (payload : String) :
    (correlator.complete now id payload).answer = false := by
  simp [complete, closed]

theorem cancel_of_empty (empty : correlator.records = [])
    (id : RequestId) : (correlator.cancel id).answer = false := by
  simp [cancel, empty, Records.find?]

theorem Counted.tallies_of_empty (counted : correlator.Counted)
    (empty : correlator.records = []) :
    correlator.pending = 0 ∧ correlator.completed = 0 := by
  have none : ∀ state, Records.countIn state correlator.records = 0 := by
    intro state
    rw [empty]
    rfl
  have pending := @counted .pending _ rfl
  have completed := @counted .completed _ rfl
  rw [none] at pending completed
  exact ⟨pending, completed⟩

end Correlator

theorem Dispatcher.enqueue_of_closed {dispatcher : Dispatcher}
    (closed : dispatcher.closed = true) (raw : String) :
    (dispatcher.enqueue raw).answer = false := by
  rw [answer_enqueue]
  exact (push_of_closed closed raw).1

/-- An engine that holds nothing and takes on nothing. -/
structure Engine.Final (engine : Engine) : Prop where
  records : engine.hub.correlator.records = []
  pending : engine.hub.correlator.pending = 0
  completed : engine.hub.correlator.completed = 0
  queue : engine.hub.dispatcher.queue = []
  start : engine.start.answer = .error .shuttingDown
  wait : ∀ (now : Instant) (id : RequestId) (timeout : Nat), timeout ≠ 0 →
    (engine.hub.correlator.startWait now id timeout).answer =
      .resolved .abandoned
  handle : ∀ (now : Instant) (id : RequestId),
    (engine.hub.correlator.openHandle now id).answer =
      { id := id, source := .ready (some .abandoned) }
  complete : ∀ (now : Instant) (id : RequestId) (payload : String),
    (engine.hub.correlator.complete now id payload).answer = false
  cancel : ∀ id : RequestId,
    (engine.hub.correlator.cancel id).answer = false
  enqueue : ∀ raw : String,
    (engine.hub.dispatcher.enqueue raw).answer = false
  route : ∀ (now : Instant) (raw : String),
    (engine.hub.route now raw).answer = .lateReply ∨
      (engine.hub.route now raw).answer = .dropped

private theorem Hub.route_of_closed {hub : Hub}
    (correlator : hub.correlator.closed = true)
    (dispatcher : hub.dispatcher.closed = true) (now : Instant)
    (raw : String) :
    (hub.route now raw).answer = .lateReply ∨
      (hub.route now raw).answer = .dropped := by
  unfold route
  split
  · rename_i id _
    have refused := Correlator.complete_of_closed correlator now id raw
    exact .inl (by simp [onCorrelator, refused])
  · have refused := Dispatcher.enqueue_of_closed dispatcher raw
    exact .inr (by simp [onDispatcher, refused])
  · exact .inr rfl

namespace Service

theorem Shut.final {service : Service} (shut : service.Shut)
    (empty : service.hub.correlator.records = [])
    (counted : service.hub.correlator.Counted)
    (queue : service.dispatcher.queue = []) : service.engine.Final := by
  obtain ⟨pending, completed⟩ := counted.tallies_of_empty empty
  exact
    { records := empty
      pending := pending
      completed := completed
      queue := queue
      start := by simp [Engine.start, shut.lifecycle]
      wait := fun now id _ positive =>
        Correlator.startWait_of_closed shut.correlator now id positive
      handle := Correlator.openHandle_of_closed shut.correlator
      complete := Correlator.complete_of_closed shut.correlator
      cancel := Correlator.cancel_of_empty empty
      enqueue := Dispatcher.enqueue_of_closed shut.dispatcher
      route := Hub.route_of_closed shut.correlator shut.dispatcher }

end Service

/-! ## What waiters get -/

/-- What waiters get once a shutdown has let them go, given the decisions on
their record. -/
def Outcome.atShutdown : List Decision → Outcome
  | [.completed payload] => .completed payload
  | [.cancelled] => .cancelled
  | _ => .abandoned

private theorem Settlement.Tells.outcome {decisions : List Decision}
    {settlement : Settlement} (tells : Tells decisions (some settlement)) :
    settlement.outcome = .atShutdown decisions := by
  cases settlement with
  | reply payload =>
      cases tells
      rfl
  | cancelled =>
      cases tells
      rfl
  | expired => rcases tells with rfl | rfl <;> rfl
  | shutdown => rcases tells with rfl | rfl <;> rfl

namespace Session

/-- No one is left blocked by an empty correlator. -/
theorem answer_poll_of_empty {session : Session} (sound : session.Sound)
    {ledger : List Ruling} (fits : session.correlator.Fits ledger)
    (empty : session.correlator.records = []) {id : RequestId}
    {number : Nat} {waiter : Waiter} {cell : CellId}
    (present : (session.waiters id)[number]? = some waiter)
    (waits : waiter.stage.cell? = some cell) :
    (session.act (.poll id number)).answer =
      .polled (some (.atShutdown (decisionsOn cell ledger))) := by
  have waiterSound := sound.waiters (List.mem_of_getElem? present)
  -- A cell without a settlement would belong to a record in the map.
  rcases (waiterSound.attached waits).reachable with
    ⟨settlement, settled⟩ | ⟨record, found, _⟩
  · have tells := fits.tells cell
    rw [settled] at tells
    rw [answer_poll_of_settled sound present waits settled, tells.outcome]
  · rw [empty] at found
    cases found

theorem answer_poll_of_known {session : Session} {id : RequestId}
    {number : Nat} {waiter : Waiter} {outcome : Outcome}
    (present : (session.waiters id)[number]? = some waiter)
    (active : waiter.stage.isEnded = false)
    (known : waiter.stage.known? = some outcome) :
    (session.act (.poll id number)).answer = .polled (some outcome) := by
  simp [act, poll, present, onCorrelator,
    session.correlator.pollStage_of_known session.rung active known]

end Session

namespace Service

/-! ## What is called -/

/-- The listener that a step calls. -/
def called? (service : Service) : Action → Option ListenerCall
  | .drain _ =>
      service.drain.bind fun drain =>
        match service.call, drain.phase with
        | none, .dispatching (raw :: _) _ _ => service.hub.call? raw
        | _, _ => none
  | _ => none

/-- The listeners that a run calls, in order. -/
def calls (service : Service) : List Action → List ListenerCall
  | [] => []
  | action :: rest =>
      (service.called? action).toList ++ (service.act action).calls rest

/-- The drain of an engine that is stopped has ended, if there was one. -/
structure Silent (service : Service) : Prop where
  lifecycle : service.engine.lifecycle = .stopped
  drain : ∀ drain, service.drain = some drain → drain.phase = .stopped

private theorem Silent.called?_eq_none
    {service : Service} (silent : service.Silent)
    (action : Action) : service.called? action = none := by
  cases action with
  | drain heeds =>
      cases present : service.drain with
      | none => simp [called?, present]
      | some drain => simp [called?, present, silent.drain drain present]
  | _ => rfl

theorem Silent.act {service : Service} (silent : service.Silent)
    (orderly : service.Orderly) (action : Action) :
    (service.act action).Silent := by
  cases action with
  | start task =>
      rw [act_start, if_neg (by simp [silent.lifecycle])]
      exact silent
  | stop => exact ⟨rfl, silent.drain⟩
  | notify =>
      simp only [Service.act]
      split
      · exact silent
      · exact ⟨silent.lifecycle, silent.drain⟩
  | drain heeds =>
      cases present : service.drain with
      | none =>
          simp only [Service.act, present]
          exact silent
      | some drain =>
          have ended := silent.drain drain present
          have idle := orderly.idle present (by simp [ended])
          simp only [Service.act, present, turn, idle, ended]
          exact silent
  | _ => exact ⟨silent.lifecycle, silent.drain⟩

theorem Silent.calls_eq_nil {service : Service} (silent : service.Silent)
    (orderly : service.Orderly) (actions : List Action) :
    service.calls actions = [] := by
  induction actions generalizing service with
  | nil => rfl
  | cons action rest induction =>
      rw [calls, silent.called?_eq_none,
        induction (silent.act orderly action) (act_orderly orderly action)]
      rfl

/-- Behind a shutdown, whatever comes between its deeds, waiters are let go at
their next poll, with their reply if there is one.  The engine is empty and
takes on nothing, and no listener is called once the drain has ended. -/
theorem final_of_shutdown (config : EngineConfig) (actions : List Action)
    (shutdown : Action.shutdown.Sublist actions) :
    let begun := ofConfig config
    let last := begun.run actions
    let ledger := begun.session.rulings (begun.trace actions)
    (∀ id number waiter,
        (last.session.waiters id)[number]? = some waiter →
        (∀ cell, waiter.stage.cell? = some cell →
          (last.session.act (.poll id number)).answer =
            .polled (some (.atShutdown (decisionsOn cell ledger)))) ∧
        (waiter.stage.isEnded = false →
          ∀ outcome, waiter.stage.known? = some outcome →
            (last.session.act (.poll id number)).answer =
              .polled (some outcome) ∧
            ∀ cell, waiter.origin = some cell →
              outcome.Agrees (decisionsOn cell ledger))) ∧
      last.engine.Final ∧
      ((∀ drain, last.drain = some drain → drain.phase = .stopped) →
        ∀ later, last.calls later = []) := by
  intro begun last ledger
  have orderly : begun.Orderly := orderly_ofConfig config
  have sound : begun.session.Sound := Session.sound_start _ _
  have shut : last.Shut := shut_of_sublist orderly sound shutdown
  have session : last.session = begun.session.run (begun.trace actions) :=
    session_run begun actions
  have lastSound : last.session.Sound := by
    rw [session]
    exact Session.run_sound sound _
  have empty : last.session.correlator.records = [] :=
    lastSound.correlator.emptied shut.correlator
  have consistent : last.session.Consistent ledger := by
    rw [session]
    exact Session.run_consistent sound (Session.consistent_start _ _) _
  have counted : last.session.correlator.Counted := by
    rw [session]
    exact Session.run_counted sound (Session.counted_start _ _) _
  have queue : last.dispatcher.queue = [] :=
    (run_accounts orderly (accounts_ofConfig config) actions).emptied
      shut.dispatcher
  refine ⟨?_, shut.final empty counted queue, ?_⟩
  · intro id number waiter present
    have member := List.mem_of_getElem? present
    refine ⟨?_, ?_⟩
    · intro cell waits
      exact Session.answer_poll_of_empty lastSound consistent.fits empty
        present waits
    · intro active outcome known
      exact ⟨Session.answer_poll_of_known present active known,
        fun cell own => (consistent.informed member own known).1⟩
  · intro ended later
    have silent : last.Silent := ⟨shut.lifecycle, ended⟩
    exact silent.calls_eq_nil (run_orderly orderly actions) later

/-- A shutdown, with a push between its deeds, of an engine that holds a reply
that was taken, a record that has timed out for one of two waiters, and a
notification. -/
theorem final_of_shutdown_with_three_waiters :
    let earlier : List Action :=
      [.start 0, .correlate (.openHandle 1),
        .correlate (.complete 1 "reply"), .correlate (.openHandle 2),
        .correlate (.limit 2 0 0), .correlate (.wait 2 1000),
        .correlate (.poll 2 0), .push "first", .notify]
    let last := (ofConfig {}).run
      (earlier ++
        [.stop, .signal true, .correlate .shutDown, .push "second", .clear,
          .notifyAll])
    (last.session.act (.poll 1 0)).answer =
        .polled (some (.completed "reply")) ∧
      (last.session.act (.poll 2 1)).answer = .polled (some .abandoned) ∧
      last.engine.start.answer = .error .shuttingDown ∧
      last.dispatcher.queue = [] := by
  intro earlier last
  have inside : Action.shutdown.Sublist
      [.stop, .signal true, .correlate .shutDown, .push "second", .clear,
        .notifyAll] :=
    .cons_cons _ (.cons_cons _ (.cons_cons _ (.cons _
      (.cons_cons _ (.cons_cons _ .slnil)))))
  obtain ⟨waiters, final, _⟩ :=
    final_of_shutdown {} _ (inside.trans (List.sublist_append_right earlier _))
  have replied :=
    (waiters 1 0 ⟨some 0, .holding ⟨1, .waiting 0⟩⟩ (by decide +kernel)).1 0 rfl
  have released :=
    (waiters 2 1 ⟨some 1, .waiting ⟨2, 1, 1000⟩⟩ (by decide +kernel)).1 1 rfl
  refine ⟨replied.trans ?_, released.trans ?_, final.start, final.queue⟩
  · decide +kernel
  · decide +kernel

end Service

end Switchboard
