import WorkspaceSession.ErrorChain
import WorkspaceSession.Log
import WorkspaceSession.Settings

/-! Telemetry as the environment asks for it. A start that succeeds gives a hook to end it. -/
namespace WorkspaceSession

inductive TelemetryLevel where
  | off | trace | metrics | all
deriving DecidableEq

structure TelemetryEnv where
  disable : Option String := none
  level : Option String := none

/-- What shutting down writes to the log. -/
structure TelemetryHook where
  farewell : List LogLine := []

namespace TelemetryLevel

def envName : String := "MODINIT_OTEL_LEVEL"

def parse (raw : String) : Except ErrorChain TelemetryLevel :=
  let word := Text.lowercase (Text.trim raw)
  if word = "" || word = "none" then .ok .off
  else if word = "trace" then .ok .trace
  else if word = "metrics" then .ok .metrics
  else if word = "all" then .ok .all
  else .error ⟨"invalid telemetry level '" ++ word ++ "' in " ++ TelemetryLevel.envName ++
    ": expected one of none, trace, metrics, all", []⟩

def name : TelemetryLevel → String
  | .off => "None"
  | .trace => "Trace"
  | .metrics => "Metrics"
  | .all => "All"

end TelemetryLevel

namespace TelemetryEnv

def disableEnvName : String := "MODINIT_DISABLE_TELEMETRY"

def enabled (env : TelemetryEnv) : Bool := !(env.disable.map isYes).getD false

def wantedLevel (env : TelemetryEnv) : Except ErrorChain TelemetryLevel :=
  match env.level with
  | some raw => TelemetryLevel.parse raw
  | none => .ok .off

/-- The lines logged, and the hook; `elapsed` is how the time until the shutdown is written. -/
def start (env : TelemetryEnv) (elapsed app : String) :
    Except ErrorChain (List LogLine × TelemetryHook) :=
  if env.enabled then
    match env.wantedLevel with
    | .error e => .error e
    | .ok .off => .ok ([], {})
    | .ok level =>
      .ok ([.info ("Telemetry started for " ++ app ++ " (level " ++ level.name ++ ")")],
        ⟨[.info ("Telemetry for " ++ app ++ " shut down after " ++ elapsed)]⟩)
  else .ok ([], {})

end TelemetryEnv
end WorkspaceSession
