import Switchboard.Engine.Basic
import Switchboard.Proofs.Correlator.Session
import Switchboard.Proofs.Dispatcher.Deeds

/-!
# An engine in service

A service is an engine with its drain, everyone who waits for a reply, and all
who have pushed a notification and have yet to wake the drain.  Its actions are
the smallest steps that others can come between, in any order: the operations
of the correlator and the polls, the two halves of taking on a notification and
of closing, the deeds of a shutdown, and the turns of the drain, of which each
deed of a listener is one.  The reaper is not singled out, for it only sweeps,
and sweeps come at any time.  Neither is a listener of the connection: it runs
outside the drain and does nothing that others cannot do.
-/

namespace Switchboard

structure Service where
  engine : Engine
  now : Instant := 0
  /-- The time up to which timers have gone off. -/
  rung : Instant := 0
  waiters : RequestId → List Waiter := fun _ => []
  /-- The drain, once the engine has been started. -/
  drain : Option Drain := none
  /-- The listener that the drain has called and that has not returned. -/
  call : Option Performance := none
  /-- How many producers have pushed and have yet to wake the drain. -/
  owed : Nat := 0

/-- A drain that has heard back from a listener. -/
def Drain.tally (drain : Drain) (finished : Bool) : Drain :=
  match drain.phase with
  | .dispatching rest size delivered =>
      drain.enter
        (.dispatching rest size
          (if finished then delivered + 1 else delivered))
  | _ => drain

namespace Service

/-- An engine that has just been made. -/
def ofConfig (config : EngineConfig) : Service where
  engine := { config := config, hub := .ofConfig config }

inductive Action where
  /-- Starts the engine, with its drain as a task. -/
  | start (task : TaskId)
  /-- Marks the engine as stopped. -/
  | stop
  | signal (value : Bool)
  | dropSender
  | correlate (action : Session.Action)
  | push (raw : String)
  /-- A producer that has pushed wakes the drain. -/
  | notify
  | clear
  | notifyAll
  | listen (slot : Slot) (listener : Option Listener)
  /-- The drain goes on.  Where it waits, it heeds its signal or looks for a
  wake-up. -/
  | drain (heeds : Bool)

/-- The deeds of a shutdown. -/
def Action.shutdown : List Action :=
  [.stop, .signal true, .correlate .shutDown, .clear, .notifyAll]

def hub (service : Service) : Hub :=
  service.engine.hub

def dispatcher (service : Service) : Dispatcher :=
  service.hub.dispatcher

/-- The correlator of a service, its time and its waiters. -/
def session (service : Service) : Session where
  correlator := service.hub.correlator
  now := service.now
  rung := service.rung
  waiters := service.waiters

def setHub (service : Service) (hub : Hub) : Service :=
  { service with engine := { service.engine with hub := hub } }

def setDispatcher (service : Service) (dispatcher : Dispatcher) : Service :=
  service.setHub (service.hub.setDispatcher dispatcher)

def setSession (service : Service) (session : Session) : Service :=
  { service.setHub { service.hub with correlator := session.correlator } with
    now := session.now
    rung := session.rung
    waiters := session.waiters }

def setSignal (service : Service) (signal : Signal) : Service :=
  { service with engine := { service.engine with signal := signal } }

def setDrain (service : Service) (drain : Drain) : Service :=
  { service with drain := some drain }

/-- The drain does something to the hub. -/
def advance (service : Service) (step : Step Hub Drain) : Service :=
  (service.setHub step.after).setDrain step.answer

/-- What the drain does next. -/
def turn (service : Service) (heeds : Bool) (drain : Drain) : Service :=
  match service.call with
  | some performance =>
      match performance.ended? with
      | some finished =>
          { service.setDrain (drain.tally finished) with call := none }
      | none =>
          let (next, hub) := service.hub.deed service.now performance
          { service.setHub hub with call := some next }
  | none =>
      let signal := service.engine.signal
      match drain.phase with
      | .created => service.setDrain (drain.enter .taking)
      | .taking => service.advance (drain.take service.hub)
      | .dispatching [] _ _ => service.setDrain (drain.enter .taking)
      | .dispatching (raw :: rest) size delivered =>
          { service.setDrain
              (drain.enter (.dispatching rest size delivered)) with
            call :=
              (service.hub.call? raw).map fun call => .ready call.program }
      | .parking =>
          if heeds && drain.isSignalled signal then
            service.advance (drain.heed signal service.hub)
          else
            service.advance (drain.park service.hub)
      | .parked =>
          if heeds && drain.isSignalled signal then
            service.advance (drain.heed signal service.hub)
          else if drain.isWoken service.hub then
            service.advance (drain.wakeUp service.hub)
          else
            service
      | .stopped => service

/-- Takes one step. -/
def act (service : Service) : Action → Service
  | .start task =>
      let started := service.engine.start
      { service with
        engine := started.after
        drain :=
          if started.answer.isOk then
            some (service.engine.drain task)
          else
            service.drain }
  | .stop =>
      { service with engine := { service.engine with lifecycle := .stopped } }
  | .signal value => service.setSignal (service.engine.signal.set value)
  | .dropSender => service.setSignal service.engine.signal.dropSender
  | .correlate action =>
      service.setSession (service.session.act action).after
  | .push raw =>
      let pushed := service.dispatcher.push raw
      { service.setDispatcher pushed.after with
        owed := if pushed.answer then service.owed + 1 else service.owed }
  | .notify =>
      match service.owed with
      | 0 => service
      | owed + 1 =>
          { service.setDispatcher service.dispatcher.notify with owed := owed }
  | .clear => service.setDispatcher service.dispatcher.clear
  | .notifyAll => service.setDispatcher service.dispatcher.notifyAll
  | .listen slot listener =>
      service.setHub (service.hub.setListener slot listener)
  | .drain heeds =>
      match service.drain with
      | none => service
      | some drain => service.turn heeds drain

/-- The service behind a run. -/
def run (service : Service) : List Action → Service
  | [] => service
  | action :: rest => (service.act action).run rest

theorem run_append (service : Service) (first second : List Action) :
    service.run (first ++ second) = (service.run first).run second := by
  induction first generalizing service with
  | nil => rfl
  | cons action rest induction => exact induction (service.act action)

theorem run_keeps (holds : Service → Prop)
    (keeps : ∀ {service : Service} (action : Action),
      holds service → holds (service.act action))
    {service : Service} (begun : holds service) (actions : List Action) :
    holds (service.run actions) := by
  induction actions generalizing service with
  | nil => exact begun
  | cons action rest induction => exact induction (keeps action begun)

/-- Only an engine that has never been started or stopped starts. -/
theorem act_start (service : Service) (task : TaskId) :
    service.act (.start task) =
      if service.engine.lifecycle = .created then
        { service with
          engine := { service.engine with lifecycle := .running }
          drain := some (service.engine.drain task) }
      else
        service := by
  cases lifecycle : service.engine.lifecycle with
  | created =>
      simp only [act, Engine.start, lifecycle]
      rfl
  | running =>
      simp only [act, Engine.start, lifecycle]
      rfl
  | stopped =>
      simp only [act, Engine.start, lifecycle]
      rfl

/-- The service while the drain is in a call. -/
def during (service : Service) (hub : Hub) (performance : Performance) :
    Service :=
  { service.setHub hub with call := some performance }

theorem during_self {service : Service} {performance : Performance}
    (calling : service.call = some performance) :
    service.during service.hub performance = service := by
  simp only [during, setHub, hub, ← calling]

/-! ## Orderly services -/

/-- The drain comes into being by the one start of the engine, and calls
listeners only while it has a batch. -/
structure Orderly (service : Service) : Prop where
  unstarted : service.engine.lifecycle = .created → service.drain = none
  calling : ∀ performance, service.call = some performance →
    ∃ drain rest size delivered, service.drain = some drain ∧
      drain.phase = .dispatching rest size delivered

theorem orderly_ofConfig (config : EngineConfig) :
    (ofConfig config).Orderly := by
  refine ⟨fun _ => rfl, ?_⟩
  intro performance inCall
  cases inCall

theorem lifecycle_turn (service : Service) (heeds : Bool) (drain : Drain) :
    (service.turn heeds drain).engine.lifecycle =
      service.engine.lifecycle := by
  unfold turn
  split
  · split <;> rfl
  · dsimp only
    split
    · rfl
    · rfl
    · rfl
    · rfl
    · split <;> rfl
    · split
      · rfl
      · split <;> rfl
    · rfl

private theorem call_turn {service : Service} (idle : service.call = none)
    (heeds : Bool) (drain : Drain) :
    (service.turn heeds drain).call = none ∨
      ∃ behind rest size delivered,
        (service.turn heeds drain).drain = some behind ∧
          behind.phase = .dispatching rest size delivered := by
  simp only [turn, idle]
  split
  · exact .inl idle
  · exact .inl idle
  · exact .inl idle
  · rename_i raw rest size delivered phase
    exact .inr ⟨_, rest, size, delivered, rfl, rfl⟩
  · split <;> exact .inl idle
  · split
    · exact .inl idle
    · split <;> exact .inl idle
  · exact .inl idle

private theorem turn_calling {service : Service} (orderly : service.Orderly)
    {drain : Drain} (heeds : Bool) {performance : Performance}
    (calling : (service.turn heeds drain).call = some performance) :
    ∃ behind rest size delivered,
      (service.turn heeds drain).drain = some behind ∧
        behind.phase = .dispatching rest size delivered := by
  cases before : service.call with
  | none =>
      rcases call_turn before heeds drain with none | batch
      · rw [none] at calling
        cases calling
      · exact batch
  | some earlier =>
      simp only [turn, before] at calling ⊢
      cases ended : earlier.ended? with
      | some finished =>
          simp only [ended] at calling
          cases calling
      | none => exact orderly.calling earlier before

theorem act_orderly {service : Service} (orderly : service.Orderly)
    (action : Action) : (service.act action).Orderly := by
  cases action with
  | start task =>
      rw [act_start]
      split
      · rename_i created
        refine ⟨by simp, ?_⟩
        intro performance calling
        obtain ⟨drain, _, _, _, present, _⟩ :=
          orderly.calling performance calling
        rw [orderly.unstarted created] at present
        cases present
      · exact orderly
  | stop => exact ⟨by simp [act], orderly.calling⟩
  | notify =>
      simp only [act]
      split
      · exact orderly
      · exact ⟨orderly.unstarted, orderly.calling⟩
  | drain heeds =>
      cases present : service.drain with
      | none =>
          simp only [act, present]
          exact orderly
      | some drain =>
          simp only [act, present]
          refine ⟨?_, fun _ => turn_calling orderly heeds⟩
          intro created
          rw [lifecycle_turn] at created
          rw [orderly.unstarted created] at present
          cases present
  | _ => exact ⟨orderly.unstarted, orderly.calling⟩

theorem run_orderly {service : Service} (orderly : service.Orderly)
    (actions : List Action) : (service.run actions).Orderly :=
  run_keeps Orderly (fun action held => act_orderly held action) orderly
    actions

theorem Orderly.idle {service : Service} (orderly : service.Orderly)
    {drain : Drain} (present : service.drain = some drain)
    (apart : ∀ rest size delivered,
      drain.phase ≠ .dispatching rest size delivered) :
    service.call = none := by
  cases calling : service.call with
  | none => rfl
  | some performance =>
      obtain ⟨other, rest, size, delivered, same, phase⟩ :=
        orderly.calling performance calling
      cases present.symm.trans same
      exact (apart rest size delivered phase).elim

end Service

end Switchboard
