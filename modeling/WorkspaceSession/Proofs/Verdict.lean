import WorkspaceSession.Proofs.Dialling
import WorkspaceSession.Proofs.InitTexts
import WorkspaceSession.Proofs.Reading

/-! How a run ends. It succeeds when nothing stands against it, and else fails with the first of
what does: the workspace, its lock, the connection string, the endpoint, and the plugin needs. -/
namespace WorkspaceSession

namespace CommandLine

theorem get?_setIfGiven (s : Settings) (key other : String) (value : Option Setting) :
    (setIfGiven s key value).values.get? other =
      if other = key then value.or (s.values.get? other) else s.values.get? other := by
  cases value with
  | none => simp [setIfGiven]
  | some value => exact Table.get?_insert _ _ _ _

theorem getBool_modInstall (c : CommandLine) :
    c.settings.getBool Settings.modInstall = c.modInstall := by
  have hget : c.settings.values.get? Settings.modInstall = some (.boolean c.modInstall) := by
    simp [settings, get?_setIfGiven, Settings.set, Settings.modInstall, Settings.connectionString,
      Settings.cacheTtl, Settings.clientCacheEnabled]
  rw [Settings.getBool, hget]
  rfl

theorem getText_connectionString (c : CommandLine) :
    c.settings.getText Settings.connectionString = c.connectionString.getD "" := by
  have hget : c.settings.values.get? Settings.connectionString =
      c.connectionString.map Setting.text := by
    simp [settings, get?_setIfGiven, Settings.set, Settings.modInstall, Settings.connectionString,
      Settings.cacheTtl, Settings.clientCacheEnabled, Settings.empty]
  rw [Settings.getText, hget]
  cases c.connectionString <;> rfl

end CommandLine

theorem Endpoint.refusal?_eq_none_iff (e : Endpoint) (answer : Except HostError Unit) :
    e.refusal? answer = none ↔ answer = .ok () := by
  cases answer <;> simp [Endpoint.refusal?]

namespace Standing

def unmet? (st : Standing) : Option SessionError :=
  if st.violations = [] then none else some (.modRequirements st.violations)

theorem unmet?_eq_none_iff (st : Standing) : st.unmet? = none ↔ st.violations = [] := by
  unfold unmet?
  split <;> simp [*]

theorem obstacle?_eq_none_iff (st : Standing) (installs : Bool) (text : String)
    (answers : (address : String) → Except HostError Unit) :
    st.obstacle? installs text answers = none ↔ ∃ endpoint,
      (installs = false ∨ st.locked = true) ∧ text ≠ "" ∧ Endpoint.parse text = .ok endpoint ∧
      answers endpoint.address = .ok () := by
  unfold obstacle? Standing.endpoint
  cases installs <;> cases st.locked <;> by_cases htext : text = "" <;>
    cases Endpoint.parse text <;> simp [htext, mapError_error, mapError_ok,
      Endpoint.refusal?_eq_none_iff]

end Standing

structure Grounds where
  workspace : Except ErrorChain Standing
  installs : Bool
  connectionString : String
  dial : (address : String) → Except HostError Unit

def Grounds.failure? (g : Grounds) : Option SessionError :=
  match g.workspace with
  | .error cause => some (.workspace cause)
  | .ok st => (st.obstacle? g.installs g.connectionString g.dial).or st.unmet?

theorem Session.checkRequirements_error (s : Session) (w : Workspace) (plugins : Table String)
    (hworkspace : s.workspace = some w) :
    (s.checkRequirements plugins).result.error =
      s.result.error.or (if w.root.treeMessages plugins = [] then none
        else some (.modRequirements (w.root.treeMessages plugins))) := by
  unfold checkRequirements SessionResult.hasError
  rw [hworkspace]
  cases herror : s.result.error with
  | some e => simp [herror]
  | none =>
    simp only [Option.isSome_none, Bool.false_eq_true, ↓reduceIte, Option.none_or]
    split
    · exact herror
    · rfl

theorem Session.checkRequirements_trace (s : Session) (plugins : Table String) :
    (s.checkRequirements plugins).trace = s.trace := by
  obtain ⟨log, error, hcheck⟩ := s.checkRequirements_eq plugins
  rw [hcheck]
  rfl

theorem Mod.treeMessages_of_needless (root : Mod) (plugins : Table String)
    (hmods : root.mods = []) (hplugins : root.require.plugins = []) :
    root.treeMessages plugins = [] := by
  have hdependencies : root.dependencies = [] := by
    unfold dependencies
    rw [hmods]
    rfl
  have hviolations : root.violations plugins = [] := by
    unfold violations violationsOf
    rw [hplugins]
    rfl
  simp [treeMessages, treeViolations, walk, hdependencies, visitPending, hviolations]

namespace Program

section

variable (env : TelemetryEnv) (answers : (address : String) → Except HostError Unit)
  (c : CommandLine) (w : Workspace)

def equipped : Session :=
  ({ loaded c w with services := some (services env answers) }).register Exporter.json

theorem ready_equipped : Ready env answers w (equipped env answers c w) :=
  ⟨rfl, rfl, rfl, rfl, rfl⟩

theorem equipped_getBool :
    (equipped env answers c w).settings.getBool Settings.modInstall = c.modInstall :=
  c.getBool_modInstall

theorem equipped_getText :
    (equipped env answers c w).settings.getText Settings.connectionString =
      c.connectionString.getD "" :=
  c.getText_connectionString

theorem initialise_eq :
    initialise c (services env answers) (loaded c w) =
      ((equipped env answers c w).init c.invoker options).checkRequirements w.pluginVersions := by
  have hplugins : ((equipped env answers c w).init c.invoker options).lockedPlugins =
      w.pluginVersions := by
    have hworkspace := (equipped env answers c w).init_workspace c.invoker options
    rw [(ready_equipped env answers c w).workspace] at hworkspace
    unfold Session.lockedPlugins
    rw [hworkspace]
  rw [← hplugins]
  rfl

theorem initialise_error :
    (initialise c (services env answers) (loaded c w)).result.error =
      (w.standing.obstacle? c.modInstall (c.connectionString.getD "") answers).or
        w.standing.unmet? := by
  have hready := ready_equipped env answers c w
  have hworkspace := ((equipped env answers c w).init_workspace c.invoker options).trans
    hready.workspace
  rw [initialise_eq, Session.checkRequirements_error _ w _ hworkspace, hready.error_of_init,
    equipped_getBool, equipped_getText]
  rfl

theorem initialise_dialled :
    dialled? (initialise c (services env answers) (loaded c w)) =
      (w.standing.endpoint c.modInstall (c.connectionString.getD "")).toOption.map
        Endpoint.address := by
  have hdialled := (ready_equipped env answers c w).dialled_of_init c.invoker options
  rw [equipped_getBool, equipped_getText] at hdialled
  rw [← hdialled, initialise_eq]
  unfold dialled?
  rw [Session.checkRequirements_trace]

end

/-- Only who answers at the address dialled counts. -/
theorem initialised_error (m : Machine) (c : CommandLine) (w : Workspace) :
    (m.initialised c (loaded c w)).result.error =
      (w.standing.obstacle? c.modInstall (c.connectionString.getD "") m.answers).or
        w.standing.unmet? := by
  unfold Machine.initialised
  rw [initialise_dialled]
  cases hendpoint : w.standing.endpoint c.modInstall (c.connectionString.getD "") with
  | error e =>
    simp only [Except.toOption, Option.map_none]
    rw [initialise_error]
    unfold Standing.obstacle?
    rw [hendpoint]
  | ok endpoint =>
    simp only [Except.toOption, Option.map_some]
    rw [initialise_error]
    unfold Standing.obstacle?
    rw [hendpoint]

/-- What of a machine and a command line decides how the run ends. Neither telemetry, nor the cache,
nor the destination of the summary, nor the mod needs are among it. -/
def grounds (m : Machine) (c : CommandLine) : Grounds where
  workspace := (m.workspace c.workspace).map Workspace.standing
  installs := c.modInstall
  connectionString := c.connectionString.getD ""
  dial := m.answers

theorem session_error (m : Machine) (c : CommandLine) :
    (m.session c).result.error = (grounds m c).failure? := by
  unfold Machine.session grounds Grounds.failure?
  cases m.workspace c.workspace with
  | error cause => rfl
  | ok w => exact initialised_error m c w

theorem grounds_failure?_eq_none_iff (m : Machine) (c : CommandLine) :
    (grounds m c).failure? = none ↔ ∃ w endpoint, m.workspace c.workspace = .ok w ∧
      (c.modInstall = false ∨ w.lock.isSome = true) ∧
      c.connectionString.getD "" ≠ "" ∧
      Endpoint.parse (c.connectionString.getD "") = .ok endpoint ∧
      m.answers endpoint.address = .ok () ∧
      w.root.treeMessages w.pluginVersions = [] := by
  unfold Grounds.failure? grounds
  cases m.workspace c.workspace with
  | error cause => simp [Except.map]
  | ok w =>
    simp only [Except.map, Option.or_eq_none_iff, Standing.obstacle?_eq_none_iff,
      Standing.unmet?_eq_none_iff, Except.ok.injEq]
    constructor
    · rintro ⟨⟨endpoint, lock, given, names, answer⟩, met⟩
      exact ⟨w, endpoint, rfl, lock, given, names, answer, met⟩
    · rintro ⟨_, endpoint, rfl, lock, given, names, answer, met⟩
      exact ⟨⟨endpoint, lock, given, names, answer⟩, met⟩

theorem conclude_failure (s : Session) (written : String) (log : List LogLine) :
    (conclude s written log).failure = s.result.error.map SessionError.message := by
  simp only [conclude, Session.cleanup_result]
  rfl

theorem conclude_exitCode (s : Session) (written : String) (log : List LogLine) :
    (conclude s written log).exitCode = if s.result.hasError then 1 else 0 := by
  unfold Report.exitCode
  rw [conclude_failure, Option.isSome_map]
  rfl

theorem run_failure (m : Machine) (c : CommandLine) :
    (run Machine.host c m).1.failure = (grounds m c).failure?.map SessionError.message := by
  rw [m.run_eq, ← session_error]
  exact conclude_failure _ _ _

theorem run_exitCode (m : Machine) (c : CommandLine) :
    (run Machine.host c m).1.exitCode = if (grounds m c).failure?.isSome then 1 else 0 := by
  rw [m.run_eq, ← session_error]
  exact conclude_exitCode _ _ _

theorem argumentVariables_of_telemetry (m : Machine) (environment : String → Option String)
    (same : ∀ name, name ≠ TelemetryEnv.disableEnvName → name ≠ TelemetryLevel.envName →
      environment name = m.environment name) :
    { m with environment }.argumentVariables = m.argumentVariables := by
  change (⟨environment _, environment _, environment _, environment _⟩ : CommandLine.Variables) =
    ⟨m.environment _, m.environment _, m.environment _, m.environment _⟩
  rw [same, same, same, same] <;> decide

/-- A run on arguments that are accepted exits with zero where the workspace is found and loads, no
dependencies are to be installed or there is a lock, the connection string names an endpoint where
somebody answers, and the plugin needs of the mods are met. Where one of these fails it exits with
one and says why, by the first that does. -/
theorem start_exit (m : Machine) (args : List String) (c : CommandLine)
    (accepted : CommandLine.parse args m.argumentVariables = .ok c) :
    ∃ report after, start Machine.host args m = (.ok report, after) ∧
      (match (grounds m c).failure? with
        | none => report.exitCode = 0 ∧ report.failure = none
        | some e => report.exitCode = 1 ∧ report.failure = some e.message) ∧
      (report.exitCode = 0 ↔ ∃ w endpoint, m.workspace c.workspace = .ok w ∧
        (c.modInstall = false ∨ w.lock.isSome = true) ∧
        c.connectionString.getD "" ≠ "" ∧
        Endpoint.parse (c.connectionString.getD "") = .ok endpoint ∧
        m.answers endpoint.address = .ok () ∧
        w.root.treeMessages w.pluginVersions = []) ∧
      (∀ environment : String → Option String,
        (∀ name, name ≠ TelemetryEnv.disableEnvName → name ≠ TelemetryLevel.envName →
          environment name = m.environment name) →
        (start Machine.host args { m with environment }).1.map Report.exitCode =
          .ok report.exitCode) ∧
      ∀ files cacheTtl clientCacheEnabled destination,
        (grounds { m with files } c).workspace = (grounds m c).workspace →
        (run Machine.host { c with cacheTtl, clientCacheEnabled, destination }
          { m with files }).1.exitCode = report.exitCode := by
  refine ⟨_, _, m.start_eq args c accepted, ?_, ?_, ?_, ?_⟩
  · rw [run_exitCode, run_failure]
    cases (grounds m c).failure? <;> exact ⟨rfl, rfl⟩
  · refine Iff.trans ?_ (grounds_failure?_eq_none_iff m c)
    rw [run_exitCode]
    cases (grounds m c).failure? <;> simp
  · intro environment same
    have hgrounds : grounds { m with environment } c = grounds m c := by
      unfold grounds
      rw [Machine.workspace_congr (m := { m with environment }) (n := m) rfl rfl]
    rw [← argumentVariables_of_telemetry m environment same] at accepted
    rw [Machine.start_eq _ args c accepted, Except.map, run_exitCode, run_exitCode, hgrounds]
  · intro files cacheTtl clientCacheEnabled destination same
    have hgrounds : grounds { m with files } { c with cacheTtl, clientCacheEnabled, destination } =
        grounds m c := congrArg (fun workspace => { grounds m c with workspace }) same
    rw [run_exitCode, run_exitCode, hgrounds]

def served : Machine where
  files := ({} : FileTree).put ["mod.json"]
    (.file "\x7b\"mod\": \x7b\"name\": \"m\"\x7d\x7d".toUTF8)
  answers := fun _ => .ok ()

theorem exists_workspace_served : ∃ w, served.workspace (some ".") = .ok w ∧
    w.root.mods = [] ∧ w.root.require.plugins = [] := by
  have hread : (served.workspace (some ".")).toOption.any (fun w =>
      w.root.mods.isEmpty && w.root.require.plugins.isEmpty) = true := by decide +kernel
  cases hworkspace : served.workspace (some ".") with
  | error cause =>
    rw [hworkspace] at hread
    cases hread
  | ok w =>
    rw [hworkspace] at hread
    simp only [Except.toOption, Option.any_some, Bool.and_eq_true, List.isEmpty_iff] at hread
    exact ⟨w, rfl, hread⟩

theorem served_exit :
    CommandLine.parse ["--workspace", ".", "--connection-string", "postgres://db"]
        served.argumentVariables =
      .ok { workspace := some ".", connectionString := some "postgres://db" } ∧
    ∃ report after, start Machine.host
        ["--workspace", ".", "--connection-string", "postgres://db"] served = (.ok report, after) ∧
      report.exitCode = 0 := by
  refine ⟨rfl, ?_⟩
  obtain ⟨w, hworkspace, hmods, hplugins⟩ := exists_workspace_served
  obtain ⟨report, after, hstart, -, hexit, -⟩ := start_exit served
    ["--workspace", ".", "--connection-string", "postgres://db"]
    { workspace := some ".", connectionString := some "postgres://db" } rfl
  refine ⟨report, after, hstart, hexit.mpr ⟨w, ⟨"db", 5432, none⟩, hworkspace, .inl rfl,
    by decide, rfl, rfl, ?_⟩⟩
  exact w.root.treeMessages_of_needless _ hmods hplugins

end Program
end WorkspaceSession
