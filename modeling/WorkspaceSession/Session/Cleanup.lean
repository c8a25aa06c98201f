import WorkspaceSession.Session.Stages

/-! Checking the needs of mods, releasing what a session holds, and runs of such steps. -/
namespace WorkspaceSession
namespace Session

/-- Holds the plugin needs of the whole mod tree against installed versions. A session that has
failed already is left alone. -/
def checkRequirements (plugins : Table String) (s : Session) : Session :=
  if s.result.hasError then s
  else match s.workspace with
    | none => s.setError (.invalidState "mod requirements checked before setting up workspace")
    | some w =>
      let violations := w.root.treeMessages plugins
      if violations = [] then s
      else
        let count := Text.naturalText violations.length
        (s.write [.warn (count ++ " mod requirement violation(s)")]).setError
          (.modRequirements violations)

def lockedPlugins (s : Session) : Table String :=
  match s.workspace with
  | some w => w.pluginVersions
  | none => .empty

/-- Closes the client, which is let go before. A close that fails is only logged. -/
def releaseClient (s : Session) : Session × Option Payload :=
  match s.client with
  | none => (s, none)
  | some client =>
    let reply := client.spec.close s.moment
    let s := ({ s with client := none }.record (.clientClose client.number)).absorb
      reply.toConduct
    match reply.outcome with
    | .done () => (s, none)
    | .failed cause => (s.write [.warn ("Failed to close database client: " ++ cause.full)], none)
    | .panicked payload => (s, some payload)

def releaseTelemetry (s : Session) : Session :=
  match s.telemetry with
  | none => s
  | some held =>
    ({ s with telemetry := none }.record (.telemetryShutdown held.number)).write held.hook.farewell

def closeWorkspace (s : Session) : Session :=
  match s.workspace with
  | none => s
  | some w =>
    let (w, handlers) := w.close
    { s with workspace := some w, trace := s.trace ++ handlers.map Event.handler }

/-- Releases the client, the telemetry and the workspace in this order. A panic in closing the
client leaves the others for the next time. -/
def cleanup (s : Session) : Session × Option Payload :=
  match s.releaseClient with
  | (s, some payload) => (s, some payload)
  | (s, none) => (s.releaseTelemetry.closeWorkspace, none)

inductive Step where
  | init (invoker : Invoker) (options : ClientOptions)
  | cancel
  | checkRequirements (plugins : Table String)
  | cleanup

def step (s : Session) : Step → Session
  | .init invoker options => s.init invoker options
  | .cancel => s.cancel
  | .checkRequirements plugins => s.checkRequirements plugins
  | .cleanup => s.cleanup.1

def run (s : Session) (steps : List Step) : Session := steps.foldl step s

theorem run_append (s : Session) (steps more : List Step) :
    s.run (steps ++ more) = (s.run steps).run more := by
  unfold run
  rw [List.foldl_append]

theorem run_of_step (good : Session → Prop) (kept : ∀ t step, good t → good (t.step step))
    (s : Session) (start : good s) (steps : List Step) : good (s.run steps) := by
  induction steps generalizing s with
  | nil => exact start
  | cons step steps ih => exact ih (s.step step) (kept s step start)

end Session
end WorkspaceSession
