import WorkspaceSession.Session.Basic

/-! The stages of an initialisation. Each takes a session to the session after it, and says what
halts the sequence, if it does. -/
namespace WorkspaceSession

inductive Halt where
  | fatal (error : SessionError)
  | panic (payload : Payload)
deriving DecidableEq

def Halt.toError : Halt → SessionError
  | .fatal error => error
  | .panic payload => .panicked payload.message

namespace Session

def thenStage (r : Session × Option Halt) (stage : Session → Session × Option Halt) :
    Session × Option Halt :=
  match r with
  | (s, none) => stage s
  | (s, some halt) => (s, some halt)

/-- Tells the user what goes on. A reporter that panics halts the sequence. -/
def announce (services : Services) (text : String) (s : Session) : Session × Option Halt :=
  let reaction := services.reaction s.moment (.status text)
  let s := s.tell services.reporter (.status text)
  ({ s with cancelled := s.cancelled || reaction.cancels }, reaction.panic.map .panic)

/-- A telemetry that does not start is worth a warning only. -/
def startTelemetry (services : Services) (s : Session) : Session × Option Halt :=
  let reply := services.telemetry s.moment appName
  let s := (s.record (.telemetryStart appName)).absorb reply.toConduct
  match reply.outcome with
  | .done hook => ({ s with telemetry := some ⟨s.hooks, hook⟩, hooks := s.hooks + 1 }, none)
  | .failed cause =>
    ((s.write [.warn ("Failed to start telemetry: " ++ cause.full)]).addWarnings [cause.outermost],
      none)
  | .panicked payload => (s, some (.panic payload))

/-- The install is forced, so that single failures are warnings. -/
def install (services : Services) (w : Workspace) (s : Session) : Session × Option Halt :=
  let s := s.write [.info "Installing workspace dependencies"]
  let reply := services.installer s.moment w true s.cancelled
  let s := (s.record (.install w.root.name true s.cancelled)).absorb reply.toConduct
  match reply.outcome with
  | .done report => (s.addWarnings report.failures, none)
  | .failed cause => (s, some (.fatal (.install cause)))
  | .panicked payload => (s, some (.panic payload))

def installDependencies (services : Services) (w : Workspace) (s : Session) :
    Session × Option Halt :=
  thenStage (s.announce services "Installing workspace dependencies") (install services w)

def setUp (services : Services) (w : Workspace) (s : Session) : Session × Option Halt :=
  let r := thenStage (s.announce services "Initializing") (startTelemetry services)
  if s.settings.getBool Settings.modInstall
  then thenStage r (installDependencies services w) else r

def dial (services : Services) (hooks : Hooks) (callback : Option Callback)
    (options : ClientOptions) (text : String) (rendered : Channel) (s : Session) :
    Session × Channel × Except Halt Client :=
  let s := s.write [.info "Connecting to remote database"]
  let reply := services.connect hooks callback s.moment text s.cancelled options
  let s := s.record (.connect text s.cancelled options)
  let (s, rendered) := s.accept services.reporter hooks rendered reply
  match reply.outcome with
  | .done spec => ({ s with clients := s.clients + 1 }, rendered, .ok ⟨s.clients, spec⟩)
  | .failed cause => (s, rendered, .error (.fatal (.connection cause)))
  | .panicked payload => (s, rendered, .error (.panic payload))

def thenOpen (r : Session × Option Halt) (rendered : Channel)
    (opening : Session → Session × Channel × Except Halt Client) :
    Session × Channel × Except Halt Client :=
  match r with
  | (s, none) => opening s
  | (s, some halt) => (s, rendered, .error halt)

/-- Connects to the database that the settings name; without a name nothing is called. -/
def openClient (services : Services) (hooks : Hooks) (callback : Option Callback)
    (options : ClientOptions) (rendered : Channel) (s : Session) :
    Session × Channel × Except Halt Client :=
  let text := s.settings.getText Settings.connectionString
  if text = "" then (s, rendered, .error (.fatal .noConnectionString))
  else thenOpen (s.announce services "Connecting to remote database") rendered
    (dial services hooks callback options text rendered)

def connect (services : Services) (options : ClientOptions) (rendered : Channel) (s : Session) :
    Session × Channel × Except Halt Client :=
  thenOpen (s.announce services "Connecting to database") rendered fun s =>
    (s.write [.info "Connecting to database"]).openClient services .rendering none options rendered

/-- Checks the cache settings, where the server of a client says something about its cache. The
session holds the client only once the client has told. -/
def checkCache (client : Client) (s : Session) : Session × Option Halt :=
  let s := s.write [.info "Validating client cache settings"]
  let response := client.spec.serverSettings s.moment
  let s := s.absorb response.toConduct
  match response.outcome with
  | .error payload => (s, some (.panic payload))
  | .ok server =>
    let findings := (server.map fun server => server.check s.settings).getD {}
    ({ s with client := some client }.addWarnings findings.warnings, findings.error.map .fatal)

/-- The messages of the connector are in the channel afterwards, whatever halted the stages. -/
def runStages (options : ClientOptions) (rendered : Channel) (s : Session) :
    Session × Channel × Option Halt :=
  match s.workspace, s.services with
  | none, _ =>
    (s, rendered, some (.fatal (.invalidState "init called before setting up workspace")))
  | some _, none =>
    (s, rendered,
      some (.fatal (.invalidState "init called on an instance that already failed")))
  | some w, some services =>
    match thenOpen (s.setUp services w) rendered (connect services options rendered) with
    | (s, rendered, .ok client) =>
      let (s, halt) := s.checkCache client
      (s, rendered, halt)
    | (s, rendered, .error halt) => (s, rendered, some halt)

def settle (s : Session) : Option Halt → Session
  | none => s
  | some (.fatal error) =>
    (s.write [.error ("Initialisation failed: " ++ error.message)]).setError error
  | some (.panic payload) =>
    (s.write [.error ("Initialisation panicked: " ++ payload.message)]).setError
      (.panicked payload.message)

/-- A cancellation counts as an error only when there is no other. -/
def noteCancellation (s : Session) : Session :=
  if s.cancelled && !s.result.hasError then s.setError .cancelled else s

def init (invoker : Invoker) (options : ClientOptions) (s : Session) : Session :=
  let s := s.write [.info ("Initializing (" ++ invoker.name ++ ")...")]
  let (s, rendered, halt) := s.runStages options {}
  ((s.addMessages rendered.drain.1).settle halt).noteCancellation

end Session
end WorkspaceSession
