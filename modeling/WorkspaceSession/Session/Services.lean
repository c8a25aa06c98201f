import WorkspaceSession.Client.CacheCheck
import WorkspaceSession.Client.Options
import WorkspaceSession.Status
import WorkspaceSession.Telemetry
import WorkspaceSession.Workspace.Install

/-! The collaborators of a session. What a collaborator does in a call is given as a reply, so every
behaviour can be had, also one that changes from call to call. -/
namespace WorkspaceSession

inductive Payload where
  | text (text : String)
  | other
deriving DecidableEq

def Payload.message : Payload → String
  | .text s => s
  | .other => "unknown panic"

inductive Outcome (α : Type) where
  | done (value : α)
  | failed (cause : ErrorChain)
  | panicked (payload : Payload)

structure Conduct where
  log : List LogLine := []
  cancels : Bool := false

structure Reply (α : Type) extends Conduct where
  outcome : Outcome α

/-- The reply to a call that has no failure to give: it returns or panics. -/
structure Response (α : Type) extends Conduct where
  outcome : Except Payload α

/-- What telling a reporter leads to besides what it writes: a cancellation, a panic, or nothing. -/
structure Reaction where
  cancels : Bool := false
  panic : Option Payload := none

structure ClientSpec where
  serverSettings : (moment : Nat) → Response (Option ServerSettings) :=
    fun _ => { outcome := .ok none }
  close : (moment : Nat) → Reply Unit := fun _ => { outcome := .done () }

abbrev Callback := ClientSpec → Reaction

/-- The reply to a connect. In between the connector sends by its hooks, and it may call the
callback it was given when it is done. -/
structure Connection extends Reply ClientSpec where
  sends : List Notice := []
  callsBack : Bool := false

/-- Every call is told the moment, as the number of events before it. -/
structure Services where
  reporter : Reporter
  reaction : (moment : Nat) → Notice → Reaction := fun _ _ => {}
  telemetry : (moment : Nat) → (app : String) → Reply TelemetryHook
  installer : (moment : Nat) → Workspace → (force cancelled : Bool) → Reply InstallReport
  connector : (moment : Nat) → (connectionString : String) → (cancelled : Bool) →
    Option Callback → ClientOptions → Connection

structure Sending extends Reaction where
  sent : List Notice := []

/-- Sends notices by hooks. Those that the reporter is told of are told one after the other, the
first of them at the moment. -/
def Hooks.send (hooks : Hooks) (reaction : (moment : Nat) → Notice → Reaction) :
    (moment : Nat) → List Notice → Sending
  | _, [] => {}
  | moment, n :: rest =>
    if hooks.forwards n then
      if (reaction moment n).panic.isSome then { reaction moment n with sent := [n] }
      else
        let later := hooks.send reaction (moment + 1) rest
        { later with
          cancels := (reaction moment n).cancels || later.cancels
          sent := n :: later.sent }
    else
      let later := hooks.send reaction moment rest
      { later with sent := n :: later.sent }

/-- A connect with what its notices lead to: where the reporter panics at one, so does the
connect. -/
def Services.connect (services : Services) (hooks : Hooks) (callback : Option Callback)
    (moment : Nat) (connectionString : String) (cancelled : Bool) (options : ClientOptions) :
    Connection :=
  let reply := services.connector moment connectionString cancelled callback options
  let sending := hooks.send services.reaction (moment + 1) reply.sends
  { reply with
    cancels := reply.cancels || sending.cancels
    sends := sending.sent
    callsBack := reply.callsBack && callback.isSome && sending.panic.isNone
    outcome := (sending.panic.map .panicked).getD reply.outcome }

def TelemetryEnv.service (env : TelemetryEnv) (elapsed app : String) : Reply TelemetryHook :=
  match env.start elapsed app with
  | .ok (log, hook) => { log, outcome := .done hook }
  | .error cause => { outcome := .failed cause }

def Workspace.installService (w : Workspace) (force cancelled : Bool) : Reply InstallReport :=
  match w.install force cancelled with
  | .ok report => { log := report.logLines, outcome := .done report }
  | .error e => { outcome := .failed e.toChain }

end WorkspaceSession
