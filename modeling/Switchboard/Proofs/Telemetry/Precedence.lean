import Switchboard.Proofs.Telemetry.Setup

/-!
# Which filter is installed

Two variables name a filter.  A configuration that is read from the environment
takes `RPC_LOG_LEVEL` before `RUST_LOG`, and the filter that is built from it is
that of `RUST_LOG` whenever it can be read.  So what is built is what the
configuration names, unless `RUST_LOG` overrides it.  What is built is also what
set-up steps install, or what they are refused for.
-/

namespace Switchboard

namespace Log.Filter

end Log.Filter

namespace TelemetryConfig

variable {environment : Environment}

end TelemetryConfig

namespace Telemetry

/-- The environment and the filter that a program logs by, if it logs at all,
agree with what was built. -/
structure Heeds (environment : Environment)
    (built : Except Log.FilterError Log.Filter) (telemetry : Telemetry) :
    Prop where
  environment : telemetry.environment = environment
  subscriber : ∀ subscriber, telemetry.subscriber = some subscriber →
    built = .ok subscriber.filter

variable {environment : Environment}
variable {built : Except Log.FilterError Log.Filter}
variable {telemetry : Telemetry} {config : TelemetryConfig}

theorem Heeds.written (heeds : telemetry.Heeds environment built)
    (lines : List ConsoleLine) :
    Heeds environment built { telemetry with console := lines } :=
  ⟨heeds.environment, heeds.subscriber⟩

theorem Heeds.collected (heeds : telemetry.Heeds environment built)
    (collectors : Option Collectors) :
    Heeds environment built { telemetry with collectors := collectors } :=
  ⟨heeds.environment, heeds.subscriber⟩

theorem Heeds.installLogging (heeds : telemetry.Heeds environment built)
    (same : config.filterIn environment = built) :
    Heeds environment built (telemetry.installLogging config).2 := by
  obtain rfl := heeds.environment
  cases result : config.filterIn telemetry.environment with
  | error complaint =>
      rw [installLogging_of_unreadable result]
      exact heeds
  | ok filter =>
      cases taken : telemetry.subscriber with
      | some subscriber =>
          rw [installLogging_of_taken result taken]
          exact heeds
      | none =>
          obtain ⟨guard, lines, installed⟩ :=
            installLogging_of_free result taken
          rw [installed]
          refine ⟨rfl, ?_⟩
          intro subscriber found
          cases found
          exact same.symm.trans result

theorem Heeds.setUp (heeds : telemetry.Heeds environment built)
    (same : config.filterIn environment = built) :
    Heeds environment built (telemetry.setUp config).2 := by
  cases present : telemetry.collectors with
  | some held =>
      rw [setUp_of_registered present]
      exact heeds
  | none =>
      have installed := (heeds.collected (some {})).installLogging same
      have begun : telemetry.registered =
          { telemetry with collectors := some {} } := rfl
      rw [setUp_of_unregistered present, begun]
      split
      all_goals
        next result =>
          rw [result] at installed
          exact installed

end Telemetry

namespace Setup

variable {environment : Environment}
variable {built : Except Log.FilterError Log.Filter} {setup : Setup}

end Setup

end Switchboard
