import WorkspaceSession.Host.Machine
import WorkspaceSession.Program

/-! The program reads a machine before it writes to it. Until the export a run comes to what it
comes to on a host that gives the machine's answers and never changes. -/
namespace WorkspaceSession

namespace Machine

def still (m : Machine) : Host Id where
  currentDirectory := .ok (FileTree.placeText m.current)
  canonicalize path := m.files.canonicalize m.current path
  isDirectory path := m.files.isDirectory m.current path
  present path := m.files.present m.current path
  read path := m.files.read m.current path
  write path content := (m.write path content).1
  dial address := m.answers address
  environment name := m.environment name
  timestamp := m.time

theorem bind_of_run {x : StateM Machine α} {m n : Machine} {a : α} (hx : x m = (a, n))
    (f : α → StateM Machine β) : (x >>= f) m = f a n := by
  change f (x m).1 (x m).2 = f a n
  rw [hx]

theorem present_still (m : Machine) (path : String) :
    host.present path m = (m.still.present path, m) := rfl

theorem isDirectory_still (m : Machine) (path : String) :
    host.isDirectory path m = (m.still.isDirectory path, m) := rfl

theorem currentDirectory_still (m : Machine) :
    host.currentDirectory m = (m.still.currentDirectory, m) := rfl

theorem findRoot_still (m : Machine) (start : String) :
    Workspace.findRoot host.present start m = (Workspace.findRoot m.still.present start, m) := by
  unfold Workspace.findRoot
  -- on the paths still to look at; a look leaves the machine to the looks after it
  induction Path.ancestors start with
  | nil => rfl
  | cons path paths ih =>
    rw [List.findM?, bind_of_run (present_still m _)]
    change _ = ((match m.still.present (Path.join path Manifest.fileName) with
      | true => some path
      | false => paths.findM? (m := Id) fun path =>
        m.still.present (Path.join path Manifest.fileName)), m)
    cases m.still.present (Path.join path Manifest.fileName) with
    | true => rfl
    | false => exact ih

theorem resolve_still (m : Machine) (given : Option String) :
    Workspace.resolve host given m = (Workspace.resolve m.still given, m) := by
  cases given with
  | some path => rfl
  | none =>
    simp only [Workspace.resolve]
    rw [bind_of_run (currentDirectory_still m)]
    exact bind_of_run (findRoot_still m _) _

theorem load_still (m : Machine) (path : String) :
    Workspace.load host path m = (Workspace.load m.still path, m) := by
  have hmanifest : Workspace.manifestPath host path m =
      (Workspace.manifestPath m.still path, m) := by
    unfold Workspace.manifestPath
    exact bind_of_run (isDirectory_still m path) _
  exact bind_of_run hmanifest _

theorem findWorkspace_still (m : Machine) (given : Option String) :
    Program.findWorkspace host given m = (Program.findWorkspace m.still given, m) := by
  unfold Program.findWorkspace
  rw [bind_of_run (resolve_still m given)]
  change _ = ((match Workspace.resolve m.still given with
    | .ok path => Workspace.load m.still path
    | .error e => .error e : Except ErrorChain Workspace), m)
  cases (Workspace.resolve m.still given : Except ErrorChain String) with
  | error e => rfl
  | ok path => exact load_still m path

def workspace (m : Machine) (given : Option String) : Except ErrorChain Workspace :=
  (Program.findWorkspace host given m).1

def argumentVariables (m : Machine) : CommandLine.Variables :=
  (CommandLine.Variables.read host.environment m).1

def telemetryEnv (m : Machine) : TelemetryEnv := (Program.telemetryEnv host m).1

theorem findWorkspace_eq (m : Machine) (given : Option String) :
    Program.findWorkspace host given m = (m.workspace given, m) := by
  unfold workspace
  rw [findWorkspace_still]

theorem argumentVariables_eq (m : Machine) :
    CommandLine.Variables.read host.environment m = (m.argumentVariables, m) := rfl

theorem telemetryEnv_eq (m : Machine) : Program.telemetryEnv host m = (m.telemetryEnv, m) := rfl

theorem workspace_congr {m n : Machine} (files : m.files = n.files)
    (current : m.current = n.current) (given : Option String) :
    m.workspace given = n.workspace given := by
  unfold workspace
  rw [findWorkspace_still, findWorkspace_still]
  cases m
  cases n
  cases files
  cases current
  rfl

end Machine

namespace Program

def loaded (c : CommandLine) (w : Workspace) : Session :=
  { settings := c.settings, workspace := some w, log := [w.loadedLine] }

def unloaded (cause : ErrorChain) : Session :=
  (Session.ofError (.workspace cause)).write [.error cause.full]

def conclude (s : Session) (written : String) (log : List LogLine) : Report :=
  let s := (s.write log).cleanup.1
  { output := s.result.display ++ written ++
      (if s.result.hasError then "" else "✅ Initialisation complete\n")
    failure := s.result.error.map SessionError.message
    log := s.log }

end Program

namespace Machine

open Program

/-- A session initialised on the machine, which is asked at most once who answers. -/
def initialised (m : Machine) (c : CommandLine) (s : Session) : Session :=
  match dialled? (initialise c (services m.telemetryEnv fun _ => .error .unreachable) s) with
  | none => initialise c (services m.telemetryEnv fun _ => .error .unreachable) s
  | some address => initialise c (services m.telemetryEnv fun _ => m.answers address) s

def session (m : Machine) (c : CommandLine) : Session :=
  match m.workspace c.workspace with
  | .ok w => m.initialised c (loaded c w)
  | .error cause => unloaded cause

theorem initialiseOn_eq (m : Machine) (c : CommandLine) (s : Session) :
    initialiseOn host c s m = (m.initialised c s, m) := by
  unfold initialiseOn initialised
  rw [bind_of_run m.telemetryEnv_eq]
  cases dialled? (initialise c (services m.telemetryEnv fun _ => .error .unreachable) s) <;> rfl

theorem run_eq (m : Machine) (c : CommandLine) :
    run host c m =
      let exported := exportSummary host (m.session c) c.destination m
      (conclude (m.session c) exported.1.1 exported.1.2, exported.2) := by
  have hprepare : prepare host c m = (match m.workspace c.workspace with
      | .ok w => loaded c w
      | .error cause => unloaded cause, m) := by
    unfold prepare
    rw [bind_of_run (m.findWorkspace_eq c.workspace)]
    cases m.workspace c.workspace <;> rfl
  unfold run session
  rw [bind_of_run hprepare]
  cases m.workspace c.workspace with
  | error cause => rfl
  | ok w =>
    have hfresh : ¬ (loaded c w).result.hasError = true := Bool.false_ne_true
    dsimp only
    rw [if_neg hfresh, bind_of_run (m.initialiseOn_eq c (loaded c w))]
    -- no step from here on depends on what the session is, and `rfl` must not run it
    generalize m.initialised c (loaded c w) = s
    rfl

theorem start_eq (m : Machine) (args : List String) (c : CommandLine)
    (accepted : CommandLine.parse args m.argumentVariables = .ok c) :
    start host args m = (.ok (run host c m).1, (run host c m).2) := by
  unfold start
  rw [bind_of_run m.argumentVariables_eq, accepted]
  rfl

end Machine
end WorkspaceSession
