import WorkspaceSession.Export.Registry
import WorkspaceSession.Session.Result
import WorkspaceSession.Session.Services

/-! Sessions: what is held, what came out so far, and the history of calls. -/
namespace WorkspaceSession

inductive Invoker where
  | query | check | dashboard | server
deriving DecidableEq

def Invoker.name : Invoker → String
  | .query => "query"
  | .check => "check"
  | .dashboard => "dashboard"
  | .server => "server"

/-- Notices are relayed where a connector sends them by its hooks. -/
inductive Event where
  | notice (notice : Notice)
  | relayed (notice : Notice)
  | telemetryStart (app : String)
  | telemetryShutdown (hook : Nat)
  | install (root : String) (force cancelled : Bool)
  | connect (connectionString : String) (cancelled : Bool) (options : ClientOptions)
  | connected
  | clientClose (client : Nat)
  | handler (name : String)
deriving DecidableEq

/-- Clients are numbered in the order of their connects. -/
structure Client where
  number : Nat
  spec : ClientSpec

/-- A hook not yet called. Hooks are numbered in the order of their starts. -/
structure HeldHook where
  number : Nat
  hook : TelemetryHook

structure Session where
  settings : Settings := {}
  services : Option Services := none
  workspace : Option Workspace := none
  client : Option Client := none
  telemetry : Option HeldHook := none
  result : SessionResult := {}
  exporters : Registry := .empty
  cancelled : Bool := false
  clients : Nat := 0
  hooks : Nat := 0
  trace : List Event := []
  log : List LogLine := []

namespace Session

def appName : String := "modinit"

def ofError (error : SessionError) : Session := { result := .ofError error }

def moment (s : Session) : Nat := s.trace.length

def record (s : Session) (e : Event) : Session := { s with trace := s.trace ++ [e] }

def write (s : Session) (lines : List LogLine) : Session := { s with log := s.log ++ lines }

def cancel (s : Session) : Session := { s with cancelled := true }

def setError (s : Session) (e : SessionError) : Session := { s with result := s.result.setError e }

def addWarnings (s : Session) (texts : List String) : Session :=
  { s with result := s.result.addWarnings texts }

def addMessages (s : Session) (texts : List String) : Session :=
  { s with result := s.result.addMessages texts }

def tell (s : Session) (reporter : Reporter) (n : Notice) : Session :=
  (s.record (.notice n)).write (reporter.logLines n)

/-- Sends notices by hooks, those that are rendered into the channel. -/
def relay (reporter : Reporter) (hooks : Hooks) (rendered : Channel) (notices : List Notice)
    (s : Session) : Session × Channel :=
  let board := notices.foldl (Board.send hooks) { reporter, channel := rendered }
  ({ s with trace := s.trace ++ board.notices.map .relayed, log := s.log ++ board.log },
    board.channel)

def absorb (s : Session) (c : Conduct) : Session :=
  { s with log := s.log ++ c.log, cancelled := s.cancelled || c.cancels }

def accept (reporter : Reporter) (hooks : Hooks) (rendered : Channel) (c : Connection)
    (s : Session) : Session × Channel :=
  let (s, rendered) := (s.absorb c.toConduct).relay reporter hooks rendered c.sends
  (if c.callsBack then s.record .connected else s, rendered)

/-- Exporters of a name already taken are passed over. -/
def register (s : Session) (e : Exporter) : Session :=
  match s.exporters.register e with
  | .ok exporters => { s with exporters }
  | .error error => s.write [.warn error.message]

end Session
end WorkspaceSession
