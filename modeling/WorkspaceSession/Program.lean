import WorkspaceSession.Client.Connection
import WorkspaceSession.CommandLine.Parser
import WorkspaceSession.Export.File
import WorkspaceSession.Session.Cleanup
import WorkspaceSession.Workspace.Location

/-! The program: one session over the workspace that the command line names, and a report of it.
Everything asked of the machine goes through a host. -/
namespace WorkspaceSession

structure Report where
  output : String
  failure : Option String
  log : List LogLine

def Report.exitCode (r : Report) : Nat := if r.failure.isSome then 1 else 0

namespace Program

def elapsed : String := "the run"

def options : ClientOptions := { applicationName := some Session.appName }

def services (env : TelemetryEnv) (answers : (address : String) → Except HostError Unit) :
    Services where
  reporter := .log
  telemetry _ app := env.service elapsed app
  installer _ w force cancelled := w.installService force cancelled
  connector _ connectionString cancelled callback _ :=
    Endpoint.connect answers (fun _ => .ok ()) connectionString cancelled callback

def initialise (c : CommandLine) (services : Services) (s : Session) : Session :=
  let s := ({ s with services := some services }.register Exporter.json).init c.invoker options
  s.checkRequirements s.lockedPlugins

def dialled? (s : Session) : Option String :=
  s.trace.findSome? fun
    | .connect target false _ => (Endpoint.parse target).toOption.map Endpoint.address
    | _ => none

section

variable [Monad m]

def findWorkspace (host : Host m) (given : Option String) : m (Except ErrorChain Workspace) := do
  match ← Workspace.resolve host given with
  | .ok path => Workspace.load host path
  | .error e => return .error e

/-- The session before anything is started. Without a workspace it holds an error already. -/
def prepare (host : Host m) (c : CommandLine) : m Session := do
  match ← findWorkspace host c.workspace with
  | .ok w =>
    return { settings := c.settings, workspace := some w, log := [w.loadedLine] }
  | .error cause => return (Session.ofError (.workspace cause)).write [.error cause.full]

def telemetryEnv (host : Host m) : m TelemetryEnv := do
  return {
    disable := ← host.environment TelemetryEnv.disableEnvName
    level := ← host.environment TelemetryLevel.envName }

/-- Dials at most once, and only if a session to which nobody answers gets that far. -/
def initialiseOn (host : Host m) (c : CommandLine) (s : Session) : m Session := do
  let env ← telemetryEnv host
  match dialled? (initialise c (services env fun _ => .error .unreachable) s) with
  | none => return initialise c (services env fun _ => .error .unreachable) s
  | some address =>
    let answer ← host.dial address
    return initialise c (services env fun _ => answer) s

def exportSummary (host : Host m) (s : Session) : Option String → m (String × List LogLine)
  | none => return ("", [])
  | some destination => do
    let summary := s.result.summary (some (← host.timestamp))
    match ← s.exporters.write host summary destination with
    | .ok _ => return ("📄 Summary written to " ++ destination ++ "\n", [])
    | .error cause => return ("", [.warn ("Failed to export summary: " ++ cause.full)])

def run (host : Host m) (c : CommandLine) : m Report := do
  let s ← prepare host c
  let s ← if s.result.hasError then pure s else initialiseOn host c s
  let (written, log) ← exportSummary host s c.destination
  let (s, _) := (s.write log).cleanup
  return {
    output := s.result.display ++ written ++
      (if s.result.hasError then "" else "✅ Initialisation complete\n")
    failure := s.result.error.map SessionError.message
    log := s.log }

def start (host : Host m) (args : List String) : m (Except ArgumentError Report) := do
  match CommandLine.parse args (← CommandLine.Variables.read host.environment) with
  | .ok c => return .ok (← run host c)
  | .error e => return .error e

end

end Program
end WorkspaceSession
