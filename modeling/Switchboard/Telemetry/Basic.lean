import Switchboard.Metrics.Collectors
import Switchboard.Telemetry.Config

/-!
# Telemetry

A program has one registry of collectors and at most one log subscriber, and
both stay once they are there.  Setting up telemetry registers the collectors
before it installs the subscriber.  The guards it gives out log when they are
dropped.
-/

namespace Switchboard

/-- Why telemetry cannot be set up. -/
inductive TelemetryError where
  | subscriberInstalled
  | collectorsRegistered
  | invalidFilter (error : Log.FilterError)
  deriving Repr, DecidableEq

def TelemetryError.message : TelemetryError → String
  | .subscriberInstalled =>
      "Failed to install tracing subscriber: " ++
        "a global default trace dispatcher has already been set"
  | .collectorsRegistered =>
      "Failed to initialize Prometheus metrics: " ++
        "Duplicate metrics collector registration attempted"
  | .invalidFilter error => "Invalid configuration: " ++ error.message

/-- A line written to the console. -/
inductive ConsoleLine where
  | json (target : String) (entry : Log.Entry)
  | readable
  deriving Repr, DecidableEq

/-- What was set up, and logs when it is dropped. -/
structure Guard where
  serviceName : String
  /-- Whether the guard also holds the recorder of the metrics. -/
  metered : Bool
  deriving Repr, DecidableEq

/-- The one log subscriber. -/
structure Subscriber where
  filter : Log.Filter
  consoleOutput : Bool
  jsonLogs : Bool
  deriving Repr

structure Telemetry where
  environment : Environment
  collectors : Option Collectors := none
  subscriber : Option Subscriber := none
  console : List ConsoleLine := []

namespace Telemetry

/-- Where the set-up itself logs. -/
def setupTarget : String := "rpc_telemetry::tracing_setup"

/-- Where guards of telemetry log. -/
def telemetryTarget : String := "rpc_telemetry"

/-- Logs an entry to whatever subscriber there is. -/
def log (telemetry : Telemetry) (target : String)
    (entry : Log.Entry) : Telemetry :=
  match telemetry.subscriber with
  | none => telemetry
  | some subscriber =>
      if subscriber.consoleOutput &&
          subscriber.filter.passes target entry then
        let lines :=
          if subscriber.jsonLogs then
            [ConsoleLine.json target entry]
          else
            List.replicate entry.lineCount .readable
        { telemetry with console := telemetry.console ++ lines }
      else
        telemetry

/-- Installs the log subscriber. -/
def installLogging (telemetry : Telemetry) (config : TelemetryConfig) :
    Except TelemetryError Guard × Telemetry :=
  match config.filterIn telemetry.environment with
  | .error error => (.error (.invalidFilter error), telemetry)
  | .ok filter =>
      match telemetry.subscriber with
      | some _ => (.error .subscriberInstalled, telemetry)
      | none =>
          let installed :=
            { telemetry with
              subscriber :=
                some
                  { filter := filter
                    consoleOutput := config.consoleOutput
                    jsonLogs := config.jsonLogs } }
          let logged := installed.log setupTarget
            { level := .info
              message := "Tracing initialized"
              fields :=
                [("service", .text config.serviceName),
                  ("json_logs", .flag config.jsonLogs)] }
          (.ok { serviceName := config.serviceName, metered := false }, logged)

def register (telemetry : Telemetry) :
    Except TelemetryError Unit × Telemetry :=
  match telemetry.collectors with
  | some _ => (.error .collectorsRegistered, telemetry)
  | none => (.ok (), { telemetry with collectors := some {} })

/-- Registers the collectors, then installs the log subscriber. -/
def setUp (telemetry : Telemetry) (config : TelemetryConfig) :
    Except TelemetryError Guard × Telemetry :=
  match telemetry.register with
  | (.error error, telemetry) => (.error error, telemetry)
  | (.ok (), registered) =>
      match registered.installLogging config with
      | (.error error, telemetry) => (.error error, telemetry)
      | (.ok guard, telemetry) =>
          (.ok { guard with metered := true }, telemetry)

/-- Hands a measurement to the registered collectors. -/
def record (telemetry : Telemetry) (measurement : Measurement) : Telemetry :=
  { telemetry with
    collectors := telemetry.collectors.map (·.record measurement) }

def release (telemetry : Telemetry) (guard : Guard) : Telemetry :=
  let ended :=
    if guard.metered then
      telemetry.log telemetryTarget
        { level := .info, message := "Shutting down telemetry..." }
    else
      telemetry
  ended.log setupTarget
    { level := .debug
      message := "Tracing guard dropped"
      fields := [("service", .text guard.serviceName)] }

def exposition (telemetry : Telemetry) : List String :=
  (telemetry.collectors.map Collectors.expose).getD []

end Telemetry

/-- One step in setting up telemetry. -/
inductive SetupStep where
  | logging (config : TelemetryConfig)
  | telemetry (config : TelemetryConfig)
  | drop
  | encode
  /-- Someone hands a measurement to a recorder. -/
  | measure (measurement : Measurement)
  deriving Repr

/-- What a step answers, if it answers anything. -/
inductive SetupAnswer where
  | installed (config : TelemetryConfig)
  | refused (error : TelemetryError)
  | dropped (held : Bool)
  | exposed (lines : List String)
  deriving Repr, DecidableEq

/-- The telemetry and the guards held of it, the newest first. -/
structure Setup where
  telemetry : Telemetry
  guards : List Guard := []

namespace Setup

/-- Takes one step.  A measurement is taken without an answer. -/
def step (setup : Setup) : SetupStep → Option SetupAnswer × Setup
  | .logging config =>
      match setup.telemetry.installLogging config with
      | (.ok guard, telemetry) =>
          (some (.installed config), ⟨telemetry, guard :: setup.guards⟩)
      | (.error error, telemetry) =>
          (some (.refused error), ⟨telemetry, setup.guards⟩)
  | .telemetry config =>
      match setup.telemetry.setUp config with
      | (.ok guard, telemetry) =>
          (some (.installed config), ⟨telemetry, guard :: setup.guards⟩)
      | (.error error, telemetry) =>
          (some (.refused error), ⟨telemetry, setup.guards⟩)
  | .drop =>
      match setup.guards with
      | [] => (some (.dropped false), setup)
      | guard :: rest =>
          (some (.dropped true), ⟨setup.telemetry.release guard, rest⟩)
  | .encode => (some (.exposed setup.telemetry.exposition), setup)
  | .measure measurement =>
      (none, ⟨setup.telemetry.record measurement, setup.guards⟩)

def takeAll (setup : Setup) :
    List SetupStep → List (Option SetupAnswer) × Setup
  | [] => ([], setup)
  | next :: rest =>
      let (answer, after) := setup.step next
      let (answers, final) := after.takeAll rest
      (answer :: answers, final)

/-- The step that a script takes behind a step of its own: a request is
registered with the recorder that was just given out. -/
def sequel : SetupStep → Option SetupAnswer → List SetupStep
  | .telemetry _, some (.installed _) => [.measure .registered]
  | _, _ => []

/-- Takes the steps of a script, and what follows each of them. -/
def run (setup : Setup) : List SetupStep → List SetupAnswer × Setup
  | [] => ([], setup)
  | next :: rest =>
      let (answer, after) := setup.step next
      let (answers, final) := (after.takeAll (sequel next answer)).2.run rest
      (answer.toList ++ answers, final)

/-- Drops the guards that are left, the newest first. -/
def finish (setup : Setup) : Telemetry :=
  setup.guards.foldl Telemetry.release setup.telemetry

end Setup

end Switchboard
