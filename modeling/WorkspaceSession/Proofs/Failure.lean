import WorkspaceSession.Proofs.DependencyWalk
import WorkspaceSession.Proofs.InitTexts

/-! Failed sessions. An error stays until an initialisation puts another in its place, and a session
that failed before it began has nobody to call. -/
namespace WorkspaceSession.Session

section

variable (s : Session)

theorem checkRequirements_of_error (plugins : Table String) (herror : s.result.hasError = true) :
    s.checkRequirements plugins = s := by
  unfold checkRequirements
  rw [if_pos herror]

theorem checkRequirements_of_no_workspace (plugins : Table String)
    (herror : s.result.hasError = false) (hworkspace : s.workspace = none) :
    s.checkRequirements plugins =
      s.setError (.invalidState "mod requirements checked before setting up workspace") := by
  unfold checkRequirements
  rw [hworkspace, herror]
  rfl

theorem checkRequirements_of_met (plugins : Table String) (herror : s.result.hasError = false)
    (w : Workspace) (hworkspace : s.workspace = some w) (hmet : w.root.treeMessages plugins = []) :
    s.checkRequirements plugins = s := by
  unfold checkRequirements
  rw [hworkspace, herror, if_neg Bool.false_ne_true]
  exact if_pos hmet

theorem checkRequirements_of_unmet (plugins : Table String) (herror : s.result.hasError = false)
    (w : Workspace) (hworkspace : s.workspace = some w)
    (hunmet : w.root.treeMessages plugins ≠ []) :
    ∃ line, s.checkRequirements plugins =
      (s.write [line]).setError (.modRequirements (w.root.treeMessages plugins)) := by
  refine ⟨.warn (Text.naturalText (w.root.treeMessages plugins).length ++
    " mod requirement violation(s)"), ?_⟩
  unfold checkRequirements
  rw [hworkspace, herror, if_neg Bool.false_ne_true]
  exact if_neg hunmet

theorem step_error_of_not_init (step : Step) (error : SessionError)
    (herror : s.result.error = some error)
    (hstep : ∀ invoker options, step ≠ .init invoker options) :
    (s.step step).result.error = some error := by
  cases step with
  | init invoker options => exact absurd rfl (hstep invoker options)
  | cancel => exact herror
  | checkRequirements plugins =>
    have hfailed : s.result.hasError = true := by simp [SessionResult.hasError, herror]
    rw [Session.step, s.checkRequirements_of_error plugins hfailed, herror]
  | cleanup => rw [Session.step, s.cleanup_result, herror]

theorem step_hasError (step : Step) (failed : s.result.hasError = true) :
    (s.step step).result.hasError = true := by
  unfold SessionResult.hasError at failed ⊢
  obtain ⟨error, herror⟩ := Option.isSome_iff_exists.mp failed
  cases step with
  | init invoker options =>
    rw [Session.step, init_error_eq, herror]
    simp
  | cancel | checkRequirements | cleanup =>
    rw [s.step_error_of_not_init _ error herror (by simp)]
    rfl

theorem run_hasError (steps : List Step) (failed : s.result.hasError = true) :
    (s.run steps).result.hasError = true :=
  run_of_step (fun t => t.result.hasError = true) step_hasError s failed steps

end

/-- A session that has nobody to call and nothing to release, and that called only the handlers of
its workspace. -/
structure Isolated (s : Session) : Prop where
  services : s.services = none
  client : s.client = none
  telemetry : s.telemetry = none
  silent : ∀ event ∈ s.trace, ∃ name, event = .handler name

theorem isolated_ofError (error : SessionError) (workspace : Option Workspace) :
    ({ ofError error with workspace } : Session).Isolated where
  services := rfl
  client := rfl
  telemetry := rfl
  silent := by simp [ofError]

theorem init_of_no_services (s : Session) (hservices : s.services = none) (invoker : Invoker)
    (options : ClientOptions) :
    ∃ log text, s.init invoker options = (s.write log).withError (some (.invalidState text)) := by
  obtain ⟨log, hinit⟩ := s.init_eq invoker options
  have hcalls : s.calls options = [] := by
    unfold calls
    rw [hservices]
    cases s.workspace <;> rfl
  have hrelayed : s.relayed [] = [] := s.relayed_of_no_connect [] (by simp)
  obtain ⟨text, hanswers⟩ : ∃ text, s.answers options =
      [{ halt := some (.fatal (.invalidState text)) }] := by
    unfold answers answersTo
    rw [hservices]
    cases s.workspace with
    | none => exact ⟨_, rfl⟩
    | some w => exact ⟨_, rfl⟩
  refine ⟨log, text, ?_⟩
  rw [hinit, hcalls, hrelayed, List.append_nil]
  unfold verdict
  rw [hanswers, heedAll_halt]
  rfl

theorem cleanup_of_nothing_held (s : Session) (hclient : s.client = none)
    (htelemetry : s.telemetry = none) :
    ∃ (workspace : Option Workspace) (handlers : List String),
      s.cleanup.1 = { s with workspace, trace := s.trace ++ handlers.map Event.handler } := by
  obtain ⟨workspace, handlers, hclose⟩ := s.closeWorkspace_eq
  refine ⟨workspace, handlers, ?_⟩
  unfold cleanup releaseTelemetry
  simp only [s.releaseClient_of_none hclient, htelemetry, hclose]

theorem Isolated.step (s : Session) (isolated : s.Isolated) (step : Step) :
    (s.step step).Isolated := by
  cases step with
  | init invoker options =>
    obtain ⟨log, text, hinit⟩ := s.init_of_no_services isolated.services invoker options
    simp only [Session.step, hinit]
    exact ⟨isolated.services, isolated.client, isolated.telemetry, isolated.silent⟩
  | cancel => exact ⟨isolated.services, isolated.client, isolated.telemetry, isolated.silent⟩
  | checkRequirements plugins =>
    obtain ⟨log, error, hcheck⟩ := s.checkRequirements_eq plugins
    simp only [Session.step, hcheck]
    exact ⟨isolated.services, isolated.client, isolated.telemetry, isolated.silent⟩
  | cleanup =>
    obtain ⟨workspace, handlers, hcleanup⟩ :=
      s.cleanup_of_nothing_held isolated.client isolated.telemetry
    simp only [Session.step, hcleanup]
    refine ⟨isolated.services, isolated.client, isolated.telemetry, ?_⟩
    intro event hevent
    rcases List.mem_append.mp hevent with hevent | hevent
    · exact isolated.silent event hevent
    · obtain ⟨name, -, rfl⟩ := List.mem_map.mp hevent
      exact ⟨name, rfl⟩

theorem Isolated.run (s : Session) (isolated : s.Isolated) (steps : List Step) :
    (s.run steps).Isolated :=
  run_of_step Isolated (fun t step isolated => isolated.step t step) s isolated steps

def Invalid (s : Session) : Prop := ∃ text, s.result.error = some (.invalidState text)

theorem Isolated.invalid_of_init (s : Session) (isolated : s.Isolated) (invoker : Invoker)
    (options : ClientOptions) : (s.init invoker options).Invalid := by
  obtain ⟨log, text, hinit⟩ := s.init_of_no_services isolated.services invoker options
  refine ⟨text, ?_⟩
  rw [hinit]
  rfl

theorem Isolated.invalid_step (s : Session) (isolated : s.Isolated) (invalid : s.Invalid)
    (step : Step) : (s.step step).Invalid := by
  obtain ⟨text, herror⟩ := invalid
  cases step with
  | init invoker options => exact isolated.invalid_of_init s invoker options
  | cancel | checkRequirements | cleanup =>
    exact ⟨text, s.step_error_of_not_init _ _ herror (by simp)⟩

theorem Isolated.invalid_run (s : Session) (isolated : s.Isolated) (invalid : s.Invalid)
    (steps : List Step) : (s.run steps).Invalid := by
  have kept : (s.run steps).Isolated ∧ (s.run steps).Invalid := by
    apply run_of_step fun t => t.Isolated ∧ t.Invalid
    · rintro t step ⟨isolated, invalid⟩
      exact ⟨isolated.step t step, isolated.invalid_step t invalid step⟩
    · exact ⟨isolated, invalid⟩
  exact kept.2

/-- Over every run, a session that has failed stays failed, and only an initialisation puts another
error in the place of the one it holds. A check of the requirements leaves a failed session as it
is; otherwise it changes the error alone: to an invalid state without a workspace, to the messages
found where there are any, and not at all where there are none. A session that failed before it
began calls nobody, with a workspace or without, and once initialised it holds an invalid state. -/
theorem failure_stays (s : Session) :
    (∀ steps more, (s.run steps).result.hasError = true →
      (s.run (steps ++ more)).result.hasError = true) ∧
    (∀ steps step error, (s.run steps).result.error = some error →
      (s.run (steps ++ [step])).result.error ≠ some error →
      ∃ invoker options, step = .init invoker options) ∧
    (∀ plugins, s.result.hasError = true → s.checkRequirements plugins = s) ∧
    (∀ plugins, s.result.hasError = false →
      (s.workspace = none → s.checkRequirements plugins =
        { s with
          result := { s.result with
            error := some
              (.invalidState "mod requirements checked before setting up workspace") } }) ∧
      ∀ w, s.workspace = some w →
        (w.root.treeMessages plugins = [] → s.checkRequirements plugins = s) ∧
        (w.root.treeMessages plugins ≠ [] → ∃ line, s.checkRequirements plugins =
          { s with
            log := s.log ++ [line]
            result := { s.result with
              error := some (.modRequirements (w.root.treeMessages plugins)) } })) ∧
    ∀ (error : SessionError) (workspace : Option Workspace) (steps : List Step),
      (∀ event ∈ (({ ofError error with workspace } : Session).run steps).trace,
        ∃ name, event = .handler name) ∧
      ∀ invoker options more, ∃ text,
        (({ ofError error with workspace } : Session).run
          (steps ++ .init invoker options :: more)).result.error = some (.invalidState text) := by
  refine ⟨?_, ?_, s.checkRequirements_of_error, ?_, ?_⟩
  · intro steps more failed
    rw [run_append]
    exact run_hasError _ more failed
  · intro steps step error herror hother
    rw [run_append] at hother
    apply Classical.byContradiction
    intro hstep
    apply hother
    apply step_error_of_not_init _ step error herror
    intro invoker options heq
    exact hstep ⟨invoker, options, heq⟩
  · intro plugins herror
    refine ⟨s.checkRequirements_of_no_workspace plugins herror, ?_⟩
    intro w hworkspace
    exact ⟨s.checkRequirements_of_met plugins herror w hworkspace,
      s.checkRequirements_of_unmet plugins herror w hworkspace⟩
  · intro error workspace steps
    have isolated := (isolated_ofError error workspace).run _ steps
    refine ⟨isolated.silent, ?_⟩
    intro invoker options more
    rw [run_append]
    apply (isolated.step _ (.init invoker options)).invalid_run
    exact isolated.invalid_of_init _ invoker options

def needing : Workspace :=
  { path := "/w"
    root := { name := "w", require := { plugins := [⟨"aws", ">=1"⟩] } }
    handlers := ["flush"] }

theorem needing_unmet : needing.root.treeMessages .empty ≠ [] := by
  intro hnone
  have satisfied := (needing.root.treeMessages_eq_nil_iff .empty).mp hnone
  obtain ⟨version, -, hversion, -⟩ :=
    satisfied ⟨none, needing.root⟩ List.mem_cons_self ⟨"aws", ">=1"⟩ List.mem_cons_self
  rw [Table.get?_empty] at hversion
  contradiction

def prefailed : Session := { ofError .noConnectionString with workspace := some needing }

def eventful : List Step := [.checkRequirements .empty, .init .check {}, .cleanup]

theorem prefailed_stays :
    prefailed.result.hasError = true ∧
      (prefailed.checkRequirements .empty).result.error = some .noConnectionString ∧
      (prefailed.run eventful).result.hasError = true ∧
      (prefailed.run eventful).trace = [.handler "flush"] ∧
      (∃ text, (prefailed.run eventful).result.error = some (.invalidState text)) ∧
      (({ workspace := some needing } : Session).checkRequirements .empty).result.error =
        some (.modRequirements (needing.root.treeMessages .empty)) := by
  obtain ⟨hstays, -, hcheck, -, hfailed⟩ := failure_stays prefailed
  obtain ⟨-, -, -, hunfailed, -⟩ := failure_stays { workspace := some needing }
  refine ⟨rfl, ?_, ?_, rfl, ?_, ?_⟩
  · rw [hcheck .empty rfl]
    rfl
  · exact hstays [] eventful rfl
  · exact (hfailed .noConnectionString (some needing) [.checkRequirements .empty]).2 .check {}
      [.cleanup]
  · obtain ⟨line, hline⟩ := ((hunfailed .empty rfl).2 needing rfl).2 needing_unmet
    rw [hline]

end WorkspaceSession.Session
