import Switchboard.Json.Shape
import Switchboard.Request.Basic
import Switchboard.Span
import Switchboard.Text.Numeral

/-!
# Configuration of an engine

Three lengths of time in milliseconds, read from JSON or from the environment.
None of them may be zero.  The errors of the engine follow.
-/

namespace Switchboard

/-- The variables that are set, and their texts. -/
abbrev Environment := String → Option String

/-- The environment with exactly these variables. -/
def Environment.ofList (entries : List (String × String)) : Environment :=
  fun name => entries.lookup name

structure EngineConfig where
  reaperIntervalMs : UInt64 := 30000
  maxRecordAgeMs : UInt64 := 300000
  defaultTimeoutMs : UInt64 := 5000
  deriving Repr, DecidableEq

/-- Which length of time is zero. -/
inductive ConfigError where
  | invalidInterval
  | invalidAge
  | invalidTimeout
  deriving Repr, DecidableEq

def ConfigError.message : ConfigError → String
  | .invalidInterval =>
      "invalid interval: reaper_interval_ms must be greater than zero"
  | .invalidAge =>
      "invalid age: max_record_age_ms must be greater than zero"
  | .invalidTimeout =>
      "invalid timeout: default_timeout_ms must be greater than zero"

namespace EngineConfig

/-- The three fields as a record to read. -/
def shape : Json.Shape EngineConfig where
  title := "struct EngineConfig"
  start := {}
  fields :=
    [field "reaper_interval_ms" fun value config =>
        { config with reaperIntervalMs := value },
      field "max_record_age_ms" fun value config =>
        { config with maxRecordAgeMs := value },
      field "default_timeout_ms" fun value config =>
        { config with defaultTimeoutMs := value }]
where
  field (name : String) (set : UInt64 → EngineConfig → EngineConfig) :
      Json.Field EngineConfig :=
    { name := name
      read := fun text => do
        let (value, left) ← Json.readUnsigned64 text
        pure (set value, left) }

def parse (text : String) : Except Json.Complaint EngineConfig :=
  shape.parse text

def encode (config : EngineConfig) : String :=
  let member := fun (name : String) (value : UInt64) =>
    (name, Json.Value.number (.integer value.toNat))
  (Json.Value.object
    [member "reaper_interval_ms" config.reaperIntervalMs,
      member "max_record_age_ms" config.maxRecordAgeMs,
      member "default_timeout_ms" config.defaultTimeoutMs]).compact

/-- The milliseconds that a variable holds.  One that is not set or holds
something else gives the default. -/
def millisIn (environment : Environment) (name : String)
    (fallback : UInt64) : UInt64 :=
  ((environment name).bind fun text =>
    Text.unsigned64? (Text.trim text.toList)).getD fallback

/-- The configuration that the environment asks for. -/
def ofEnvironment (environment : Environment) : EngineConfig :=
  let fallback : EngineConfig := {}
  { reaperIntervalMs :=
      millisIn environment "RPC_REAPER_INTERVAL_MS" fallback.reaperIntervalMs
    maxRecordAgeMs :=
      millisIn environment "RPC_MAX_RECORD_AGE_MS" fallback.maxRecordAgeMs
    defaultTimeoutMs :=
      millisIn environment "RPC_DEFAULT_TIMEOUT_MS"
        fallback.defaultTimeoutMs }

/-- Refuses a configuration with a zero in it, telling the first one. -/
def validate (config : EngineConfig) : Except ConfigError Unit :=
  if config.reaperIntervalMs = 0 then
    .error .invalidInterval
  else if config.maxRecordAgeMs = 0 then
    .error .invalidAge
  else if config.defaultTimeoutMs = 0 then
    .error .invalidTimeout
  else
    .ok ()

/-- Whether records may outlive their age bound for want of a sweep. -/
def sweepsLate (config : EngineConfig) : Bool :=
  config.maxRecordAgeMs < config.reaperIntervalMs

def reaperInterval (config : EngineConfig) : Span :=
  .ofMillis config.reaperIntervalMs.toNat

def maxRecordAge (config : EngineConfig) : Span :=
  .ofMillis config.maxRecordAgeMs.toNat

def defaultTimeout (config : EngineConfig) : Span :=
  .ofMillis config.defaultTimeoutMs.toNat

end EngineConfig

inductive CorrelationError where
  | shuttingDown
  | alreadyStarted
  | invalidTimeout
  | config (error : ConfigError)
  | transport (reason : String)
  | malformedReply (malformed : MalformedReply)
  deriving Repr

def CorrelationError.message : CorrelationError → String
  | .shuttingDown => "shutdown in progress"
  | .alreadyStarted => "engine already started"
  | .invalidTimeout => "invalid timeout: must be greater than zero"
  | .config error => "configuration error: " ++ error.message
  | .transport reason => "transport error: " ++ reason
  | .malformedReply malformed => "malformed reply: " ++ malformed.message

end Switchboard
