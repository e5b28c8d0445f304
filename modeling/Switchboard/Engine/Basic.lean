import Switchboard.Engine.Config
import Switchboard.Engine.Drain
import Switchboard.Engine.Reaper

/-!
# The engine

An engine owns a hub and the two tasks that serve it: one drains the
dispatcher, the other sweeps the correlator.  It is started at most once.
Shutting it down lets every waiter go, discards what is queued, and tells both
tasks to stop.
-/

namespace Switchboard

inductive Lifecycle where
  | created
  | running
  | stopped
  deriving Repr, DecidableEq

structure Engine where
  config : EngineConfig
  hub : Hub
  lifecycle : Lifecycle := .created
  /-- Tells both tasks to stop. -/
  signal : Signal := {}

/-- A hub for a configuration that need not be valid. -/
def Hub.ofConfig (config : EngineConfig) : Hub where
  correlator :=
    { defaultTimeout := config.defaultTimeoutMs.toNat
      maxRecordAge := config.maxRecordAgeMs.toNat }
  dispatcher := {}

namespace Engine

/-- An engine for a valid configuration. -/
def create (config : EngineConfig) : Except ConfigError Engine := do
  config.validate
  pure { config := config, hub := .ofConfig config }

/-- Starts the engine, once. -/
def start (engine : Engine) :
    Step Engine (Except CorrelationError Unit) :=
  match engine.lifecycle with
  | .running => { answer := .error .alreadyStarted, after := engine }
  | .stopped => { answer := .error .shuttingDown, after := engine }
  | .created =>
      { answer := .ok ()
        after := { engine with lifecycle := .running }
        reports :=
          [.logged
            (.engineStarted engine.config.reaperIntervalMs.toNat
              engine.config.maxRecordAgeMs.toNat
              engine.config.defaultTimeoutMs.toNat)] }

def drain (engine : Engine) (task : TaskId) : Drain :=
  { task := task, seen := engine.signal.version }

def reaper (engine : Engine) : Reaper :=
  { interval := engine.config.reaperIntervalMs.toNat
    seen := engine.signal.version }

/-- The part of a shutdown that comes before both tasks have ended.  The answer
is how many waiters were let go and how many notifications discarded. -/
def beginShutdown (engine : Engine) : Step Engine (Nat × Nat) :=
  let released := engine.hub.onCorrelator (·.shutDown)
  let closed := released.after.onDispatcher (·.close)
  { answer := (released.answer, closed.answer)
    after :=
      { engine with
        hub := closed.after
        lifecycle := .stopped
        signal := engine.signal.set true }
    reports :=
      .logged .engineStopping :: (released.reports ++ closed.reports) }

/-- The signal that the tasks of an engine see once it is gone. -/
def dropped (engine : Engine) : Signal :=
  (engine.signal.set true).dropSender

def isRunning (engine : Engine) : Bool :=
  engine.lifecycle = .running

def describe (engine : Engine) : String :=
  let config := engine.config
  "CorrelationEngine \x7b config: EngineConfig \x7b reaper_interval_ms: " ++
    toString config.reaperIntervalMs.toNat ++ ", max_record_age_ms: " ++
    toString config.maxRecordAgeMs.toNat ++ ", default_timeout_ms: " ++
    toString config.defaultTimeoutMs.toNat ++ " \x7d, running: " ++
    toString engine.isRunning ++ ", correlator: " ++
    engine.hub.correlator.describe ++ ", dispatcher: " ++
    engine.hub.dispatcher.describe ++ " \x7d"

end Engine

end Switchboard
