import Switchboard.Engine.Config
import Switchboard.Log.Filter
import Switchboard.Text.Numeral

/-!
# Configuration of telemetry

The configuration is read from the environment, and the log filter is built
from it.  A filter in the environment comes before the configured one as long
as it can be read.
-/

namespace Switchboard

structure TelemetryConfig where
  serviceName : String := "rpc-correlation"
  logLevel : String := "info"
  consoleOutput : Bool := true
  jsonLogs : Bool := false
  deriving Repr, DecidableEq

namespace TelemetryConfig

/-- Reads a flag.  Blanks at its ends and the case of its letters do not
matter, and a word that is not known leaves the default. -/
def flag (fallback : Bool) (text : String) : Bool :=
  let word := (Text.trim text.toList).map Char.toLower
  if ["true", "1", "yes", "on"].any (·.toList = word) then
    true
  else if ["false", "0", "no", "off"].any (·.toList = word) then
    false
  else
    fallback

/-- Whether the environment is that of a container. -/
def inContainer (environment : Environment) : Bool :=
  (environment "KUBERNETES_SERVICE_HOST").isSome ||
    (environment "DOCKER_CONTAINER").isSome

/-- The configuration that the environment asks for. -/
def ofEnvironment (environment : Environment) : TelemetryConfig where
  serviceName := (environment "RPC_SERVICE_NAME").getD "rpc-correlation"
  logLevel :=
    ((environment "RPC_LOG_LEVEL").or (environment "RUST_LOG")).getD "info"
  consoleOutput :=
    ((environment "RPC_CONSOLE_OUTPUT").map (flag true)).getD true
  jsonLogs :=
    ((environment "RPC_JSON_LOGS").map (flag false)).getD
      (inContainer environment)

/-- The filter that holds in an environment. -/
def filterIn (environment : Environment) (config : TelemetryConfig) :
    Except Log.FilterError Log.Filter :=
  let configured := Log.Filter.parse config.logLevel
  match environment "RUST_LOG" with
  | none => configured
  | some text =>
      match Log.Filter.parse text with
      | .ok filter => .ok filter
      | .error _ => configured

end TelemetryConfig

end Switchboard
