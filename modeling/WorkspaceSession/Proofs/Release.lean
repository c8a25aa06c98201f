import WorkspaceSession.Proofs.Holdings

/-! Who releases what a session holds. Only a cleanup does, and over a whole run no client is closed
twice and no telemetry is shut down twice. A client or hook is lost when an initialisation comes
before the cleanup of the one before it; and a client that panics when it is asked about its server
is lost at once, for the session does not hold it yet. -/
namespace WorkspaceSession.Session

structure Sound (s : Session) : Prop where
  clients : (Kind.clients.ledger s).Sound
  hooks : (Kind.hooks.ledger s).Sound

/-- No client and no hook is lost, but for the clients that are lost at once. -/
structure Settled (s : Session) : Prop where
  clients : (Kind.clients.ledger s).Settled
  hooks : (Kind.hooks.ledger s).Settled

structure Idle (s : Session) : Prop where
  client : s.client = none
  telemetry : s.telemetry = none

theorem Sound.init (s : Session) (sound : s.Sound) (invoker : Invoker) (options : ClientOptions) :
    (s.init invoker options).Sound := by
  obtain ⟨clients, -, hclients⟩ := s.init_clients invoker options
  obtain ⟨hooks, -, hhooks⟩ := s.init_hooks invoker options
  constructor
  · rw [hclients]
    exact sound.clients.take _ clients
  · rw [hhooks]
    exact sound.hooks.take _ hooks

theorem Sound.cleanup (s : Session) (sound : s.Sound) : s.cleanup.1.Sound := by
  constructor
  · rw [cleanup_clients]
    exact sound.clients.free
  · rcases s.cleanup_hooks with hhooks | hhooks
    · rw [hhooks]
      exact sound.hooks
    · rw [hhooks]
      exact sound.hooks.free

theorem Sound.step (s : Session) (sound : s.Sound) (step : Step) : (s.step step).Sound := by
  cases step with
  | init invoker options => exact sound.init s invoker options
  | cancel => exact ⟨sound.clients, sound.hooks⟩
  | checkRequirements plugins =>
    obtain ⟨log, error, hcheck⟩ := s.checkRequirements_eq plugins
    simp only [Session.step, hcheck]
    exact ⟨sound.clients, sound.hooks⟩
  | cleanup => exact sound.cleanup s

theorem Sound.run (s : Session) (sound : s.Sound) (steps : List Step) : (s.run steps).Sound :=
  run_of_step Sound (fun t step sound => sound.step t step) s sound steps

theorem Settled.init (s : Session) (sound : s.Sound) (settled : s.Settled) (idle : s.Idle)
    (invoker : Invoker) (options : ClientOptions) : (s.init invoker options).Settled := by
  obtain ⟨clients, hclients, hclientLedger⟩ := s.init_clients invoker options
  obtain ⟨hooks, hhooks, hhookLedger⟩ := s.init_hooks invoker options
  constructor
  · rw [hclientLedger]
    apply settled.clients.take _ sound.clients clients _ hclients
    simp [Kind.ledger, Kind.clients, idle.client]
  · rw [hhookLedger]
    apply settled.hooks.take _ sound.hooks hooks _ hhooks
    simp [Kind.ledger, Kind.hooks, idle.telemetry]

def Step.isInit : Step → Bool
  | .init .. => true
  | _ => false

theorem Settled.step (s : Session) (sound : s.Sound) (settled : s.Settled) (step : Step)
    (hstep : step.isInit = false) : (s.step step).Settled := by
  cases step with
  | init invoker options => simp [Step.isInit] at hstep
  | cancel => exact ⟨settled.clients, settled.hooks⟩
  | checkRequirements plugins =>
    obtain ⟨log, error, hcheck⟩ := s.checkRequirements_eq plugins
    simp only [Session.step, hcheck]
    exact ⟨settled.clients, settled.hooks⟩
  | cleanup =>
    constructor
    · simp only [Session.step, cleanup_clients]
      exact settled.clients.free _ sound.clients
    · simp only [Session.step]
      rcases s.cleanup_hooks with hhooks | hhooks
      · rw [hhooks]
        exact settled.hooks
      · rw [hhooks]
        exact settled.hooks.free _ sound.hooks

theorem idle_of_cleanup (s : Session) (hcleanup : s.cleanup.2 = none) : s.cleanup.1.Idle := by
  rcases s.cleanup_eq with ⟨payload, heq⟩ | heq
  · rw [heq] at hcleanup
    contradiction
  · obtain ⟨workspace, handlers, hclose⟩ := s.releaseClient.1.releaseTelemetry.closeWorkspace_eq
    rw [heq, hclose]
    constructor
    · exact (releaseTelemetry_client _).trans s.releaseClient_client
    · exact releaseTelemetry_telemetry _

theorem Idle.step (s : Session) (idle : s.Idle) (step : Step) (hstep : step.isInit = false) :
    (s.step step).Idle := by
  cases step with
  | init invoker options => simp [Step.isInit] at hstep
  | cancel => exact ⟨idle.client, idle.telemetry⟩
  | checkRequirements plugins =>
    obtain ⟨log, error, hcheck⟩ := s.checkRequirements_eq plugins
    simp only [Session.step, hcheck]
    exact ⟨idle.client, idle.telemetry⟩
  | cleanup =>
    -- without a client no close can panic, so that the cleanup completes
    apply idle_of_cleanup
    unfold Session.cleanup
    rw [s.releaseClient_of_none idle.client]

/-- A session with no history, whatever its settings, workspace and collaborators. -/
structure Fresh (s : Session) : Prop where
  trace : s.trace = []
  client : s.client = none
  telemetry : s.telemetry = none
  clients : s.clients = 0
  hooks : s.hooks = 0

theorem Fresh.ledger_given {α : Type} (s : Session) (fresh : s.Fresh) (kind : Kind α) :
    (kind.ledger s).given = [] := by
  simp only [Kind.ledger, fresh.trace]
  exact kind.gathered_eq_nil _ _ _ (by simp)

theorem Fresh.ledger_sound {α : Type} (s : Session) (fresh : s.Fresh) (kind : Kind α)
    (hcount : kind.count s = 0) (hheld : kind.held s = none) : (kind.ledger s).Sound := by
  constructor
  · rw [fresh.ledger_given]
    exact hcount
  · intro n
    simp [Kind.ledger, fresh.trace]
  · intro n _
    simp [Kind.ledger, fresh.trace]
  · intro n value hvalue
    simp [Kind.ledger, hheld] at hvalue
  · intro n value hvalue
    simp [fresh.ledger_given] at hvalue

theorem Fresh.sound (s : Session) (fresh : s.Fresh) : s.Sound where
  clients := fresh.ledger_sound s Kind.clients fresh.clients (by simp [Kind.clients, fresh.client])
  hooks := fresh.ledger_sound s Kind.hooks fresh.hooks (by simp [Kind.hooks, fresh.telemetry])

theorem Fresh.settled (s : Session) (fresh : s.Fresh) : s.Settled := by
  constructor
  · intro n value hvalue
    simp [fresh.ledger_given] at hvalue
  · intro n value hvalue
    simp [fresh.ledger_given] at hvalue

def InitAt (steps : List Step) (k : Nat) : Prop :=
  ∃ invoker options, steps[k]? = some (.init invoker options)

def CleansAt (s : Session) (steps : List Step) (k : Nat) : Prop :=
  steps[k]? = some .cleanup ∧ (s.run (steps.take k)).cleanup.2 = none

/-- Between any two initialisations stands a cleanup that completes. -/
def Spaced (s : Session) (steps : List Step) : Prop :=
  ∀ i j, i < j → InitAt steps i → InitAt steps j → ∃ k, i < k ∧ k < j ∧ s.CleansAt steps k

theorem run_take_succ (s : Session) (steps : List Step) (k : Nat) (step : Step)
    (hstep : steps[k]? = some step) :
    s.run (steps.take (k + 1)) = (s.run (steps.take k)).step step := by
  unfold run
  rw [List.take_add_one, hstep, List.foldl_append]
  rfl

/-- By induction over the places of the run: nothing is lost up to there, and nothing is held where
every initialisation before was followed by a cleanup that completes. -/
theorem settled_take (s : Session) (fresh : s.Fresh) (steps : List Step) (spaced : s.Spaced steps)
    (k : Nat) (hk : k ≤ steps.length) :
    (s.run (steps.take k)).Settled ∧
      ((∀ i < k, InitAt steps i → ∃ j, i < j ∧ j < k ∧ s.CleansAt steps j) →
        (s.run (steps.take k)).Idle) := by
  -- on the steps taken; an init leaves the session settled only if it finds it idle
  induction k with
  | zero =>
    refine ⟨fresh.settled, ?_⟩
    intro _
    exact ⟨fresh.client, fresh.telemetry⟩
  | succ k ih =>
    obtain ⟨settled, idle⟩ := ih (by omega)
    have sound : (s.run (steps.take k)).Sound := fresh.sound.run s _
    obtain ⟨step, hstep⟩ : ∃ step, steps[k]? = some step :=
      ⟨steps[k], List.getElem?_eq_getElem (by omega)⟩
    rw [run_take_succ s steps k step hstep]
    cases hinit : step.isInit with
    | true =>
      obtain ⟨invoker, options, rfl⟩ : ∃ invoker options, step = .init invoker options := by
        cases step with
        | init invoker options => exact ⟨invoker, options, rfl⟩
        | _ => simp [Step.isInit] at hinit
      have hat : InitAt steps k := ⟨invoker, options, hstep⟩
      constructor
      · apply settled.init _ sound
        apply idle
        intro i hi hiat
        exact spaced i k hi hiat hat
      · intro hcleaned
        obtain ⟨j, hj, hjk, -⟩ := hcleaned k (Nat.lt_succ_self k) hat
        omega
    | false =>
      refine ⟨settled.step _ sound step hinit, ?_⟩
      intro hcleaned
      by_cases hclean : s.CleansAt steps k
      · obtain ⟨hcleanup, hcomplete⟩ := hclean
        obtain rfl : step = .cleanup := Option.some.inj (hstep.symm.trans hcleanup)
        exact idle_of_cleanup _ hcomplete
      · apply Idle.step _ _ step hinit
        apply idle
        intro i hi hiat
        obtain ⟨j, hij, hjk, hjclean⟩ := hcleaned i (by omega) hiat
        have hne : j ≠ k := by
          intro heq
          rw [heq] at hjclean
          exact hclean hjclean
        exact ⟨j, hij, by omega, hjclean⟩

theorem settled_run (s : Session) (fresh : s.Fresh) (steps : List Step) (spaced : s.Spaced steps)
    (clean : s.CleansAt steps (steps.length - 1)) :
    (s.run steps).Settled ∧ (s.run steps).Idle := by
  obtain ⟨hlast, hcomplete⟩ := clean
  obtain ⟨hlength, -⟩ := List.getElem?_eq_some_iff.mp hlast
  have hrun := s.run_take_succ steps (steps.length - 1) .cleanup hlast
  rw [Nat.sub_add_cancel (by omega), List.take_length] at hrun
  constructor
  · have settled := (s.settled_take fresh steps spaced steps.length (Nat.le_refl _)).1
    rwa [List.take_length] at settled
  · rw [hrun]
    exact idle_of_cleanup _ hcomplete

theorem step_releases_nothing (s : Session) (step : Step) (hstep : step ≠ .cleanup) :
    (∃ calls, (s.step step).trace = s.trace ++ calls ∧ ∀ call ∈ calls, call.isRelease = false) ∧
      (s.step step).workspace = s.workspace := by
  cases step with
  | init invoker options =>
    refine ⟨⟨s.calls options ++ s.relayed (s.calls options), ?_, ?_⟩,
      s.init_workspace invoker options⟩
    · rw [Session.step, init_trace, List.append_assoc]
    · intro call hcall
      rcases List.mem_append.mp hcall with hcall | hcall
      · exact s.isRelease_calls options call hcall
      · have hrelayed := s.isRelayed_relayed _ call hcall
        cases call <;> simp [Event.isRelayed] at hrelayed
        rfl
  | cancel => exact ⟨⟨[], by simp [Session.step, cancel], by simp⟩, rfl⟩
  | checkRequirements plugins =>
    obtain ⟨log, error, hcheck⟩ := s.checkRequirements_eq plugins
    simp only [Session.step, hcheck]
    exact ⟨⟨[], by simp [withError, write], by simp⟩, rfl⟩
  | cleanup => exact absurd rfl hstep

def clientsGiven (s : Session) : List GivenClient :=
  match s.services with
  | none => []
  | some services => gather services.client? 0 s.trace

def hooksGiven (s : Session) : List TelemetryHook :=
  match s.services with
  | none => []
  | some services => gather services.hook? 0 s.trace

/-- Over every run of a session, no client is closed twice and no hook is called twice, the ones
held were not released yet, and only a cleanup closes or shuts down anything. Where a cleanup that
completes stands between any two initialisations and at the end, every hook given was called, and
every client given was closed but the lost ones: those that panicked when they were asked about
their server, which are never closed. -/
theorem run_releases_once (s : Session) (fresh : s.Fresh) (steps : List Step) :
    (∀ n, (s.run steps).trace.count (.clientClose n) ≤ 1 ∧
      (.clientClose n ∈ (s.run steps).trace → n < (s.run steps).clientsGiven.length)) ∧
    (∀ n, (s.run steps).trace.count (.telemetryShutdown n) ≤ 1 ∧
      (.telemetryShutdown n ∈ (s.run steps).trace → n < (s.run steps).hooksGiven.length)) ∧
    (∀ client, (s.run steps).client = some client →
      (s.run steps).clientsGiven[client.number]? = some ⟨client.spec, false⟩ ∧
        .clientClose client.number ∉ (s.run steps).trace) ∧
    (∀ held, (s.run steps).telemetry = some held →
      (s.run steps).hooksGiven[held.number]? = some held.hook ∧
        .telemetryShutdown held.number ∉ (s.run steps).trace) ∧
    (∀ k step, steps[k]? = some step → step ≠ .cleanup →
      (∃ calls, (s.run (steps.take (k + 1))).trace = (s.run (steps.take k)).trace ++ calls ∧
        ∀ call ∈ calls, call.isRelease = false) ∧
      (s.run (steps.take (k + 1))).workspace = (s.run (steps.take k)).workspace) ∧
    (s.Spaced steps → s.CleansAt steps (steps.length - 1) →
      (∀ n given, (s.run steps).clientsGiven[n]? = some given →
        (s.run steps).trace.count (.clientClose n) = if given.lost then 0 else 1) ∧
      (∀ n < (s.run steps).hooksGiven.length,
        (s.run steps).trace.count (.telemetryShutdown n) = 1)) := by
  have sound : (s.run steps).Sound := fresh.sound.run s steps
  have released {α : Type} (kind : Kind α) (books : (kind.ledger (s.run steps)).Sound) (n : Nat) :
      (s.run steps).trace.count (kind.release n) ≤ 1 ∧
        (kind.release n ∈ (s.run steps).trace → n < (kind.ledger (s.run steps)).given.length) := by
    refine ⟨books.once n, ?_⟩
    intro hmem
    apply Nat.lt_of_not_le
    intro hn
    exact List.count_eq_zero.mp (books.known n hn) hmem
  refine ⟨released Kind.clients sound.clients, released Kind.hooks sound.hooks, ?_, ?_, ?_, ?_⟩
  · intro client hclient
    obtain ⟨hgiven, -, hcount⟩ := sound.clients.held client.number ⟨client.spec, false⟩
      (by simp [Kind.ledger, Kind.clients, hclient])
    exact ⟨hgiven, List.count_eq_zero.mp hcount⟩
  · intro held htelemetry
    obtain ⟨hgiven, -, hcount⟩ := sound.hooks.held held.number held.hook
      (by simp [Kind.ledger, Kind.hooks, htelemetry])
    exact ⟨hgiven, List.count_eq_zero.mp hcount⟩
  · intro k step hstep hne
    rw [run_take_succ s steps k step hstep]
    exact step_releases_nothing _ step hne
  · intro spaced clean
    obtain ⟨settled, idle⟩ := s.settled_run fresh steps spaced clean
    constructor
    · intro n given hgiven
      apply settled.clients.released_eq _ sound.clients _ n given hgiven
      simp [Kind.ledger, Kind.clients, idle.client]
    · intro n hn
      have hreleased := settled.hooks.released_eq _ sound.hooks
        (by simp [Kind.ledger, Kind.hooks, idle.telemetry]) n _ (List.getElem?_eq_getElem hn)
      exact hreleased

/-- Collaborators that succeed. The first client panics when it is closed right after its connect,
and the one of the second round when it is asked about its server. -/
def touchyServices : Services where
  reporter := .silent
  telemetry := fun _ _ => { outcome := .done {} }
  installer := fun _ _ _ _ => { outcome := .failed ⟨"offline", []⟩ }
  connector := fun _ _ _ _ _ =>
    { outcome := .done
        { serverSettings := fun moment =>
            { outcome := if moment = 5 then .ok none else .error .other }
          close := fun moment =>
            { outcome := if moment = 5 then .panicked .other else .done () } } }

def touchy : Session :=
  { settings := Settings.empty.set Settings.connectionString (.text "db")
    services := some touchyServices
    workspace := some { path := "/w", root := { name := "w" } } }

def twoRounds : List Step :=
  [.init .query {}, .cleanup, .cleanup, .init .server {}, .cancel, .cleanup]

theorem initAt_twoRounds (k : Nat) (hinit : InitAt twoRounds k) : k = 0 ∨ k = 3 := by
  obtain ⟨invoker, options, hstep⟩ := hinit
  match k with
  | 0 => exact .inl rfl
  | 3 => exact .inr rfl
  | 1 | 2 | 4 | 5 => simp [twoRounds] at hstep
  | k + 6 => simp [twoRounds] at hstep

theorem touchy_spaced : touchy.Spaced twoRounds := by
  intro i j hij hi hj
  have hi' := initAt_twoRounds i hi
  have hj' := initAt_twoRounds j hj
  exact ⟨2, by omega, by omega, rfl, rfl⟩

theorem touchy_releases_once :
    touchy.Fresh ∧ touchy.Spaced twoRounds ∧ touchy.CleansAt twoRounds 5 ∧
      (touchy.run twoRounds).clientsGiven.map GivenClient.lost = [false, true] ∧
      (touchy.run twoRounds).trace.count (.clientClose 0) = 1 ∧
      (touchy.run twoRounds).trace.count (.clientClose 1) = 0 ∧
      ∀ n < 2, (touchy.run twoRounds).trace.count (.telemetryShutdown n) = 1 := by
  have fresh : touchy.Fresh := ⟨rfl, rfl, rfl, rfl, rfl⟩
  have clean : touchy.CleansAt twoRounds 5 := ⟨rfl, rfl⟩
  obtain ⟨-, -, -, -, -, hcomplete⟩ := run_releases_once touchy fresh twoRounds
  obtain ⟨hclients, hhooks⟩ := hcomplete touchy_spaced clean
  exact ⟨fresh, touchy_spaced, clean, rfl, hclients 0 _ rfl, hclients 1 _ rfl, hhooks⟩

def leaky : Session :=
  { settings := Settings.empty.set Settings.connectionString (.text "db")
    services := some
      { reporter := .silent
        telemetry := fun _ _ => { outcome := .done {} }
        installer := fun _ _ _ _ => { outcome := .failed ⟨"offline", []⟩ }
        connector := fun _ _ _ _ _ =>
          { outcome := .done
              { serverSettings := fun _ => { outcome := .error (.text "no settings yet") } } } }
    workspace := some { path := "/w", root := { name := "w" } } }

def oneRound : List Step := [.init .query {}, .cleanup]

theorem leaky_spaced : leaky.Spaced oneRound := by
  intro i j hij hi hj
  obtain ⟨invoker, options, hstep⟩ := hj
  match j with
  | 0 => omega
  | 1 => simp [oneRound] at hstep
  | j + 2 => simp [oneRound] at hstep

/-- The only round ends with a cleanup that completes, and its client is never closed. -/
theorem leaky_never_closed :
    leaky.Fresh ∧ leaky.Spaced oneRound ∧ leaky.CleansAt oneRound 1 ∧
      (leaky.run oneRound).result.error = some (.panicked "no settings yet") ∧
      ¬ ∀ n < (leaky.run oneRound).clientsGiven.length,
        (leaky.run oneRound).trace.count (.clientClose n) = 1 := by
  refine ⟨⟨rfl, rfl, rfl, rfl, rfl⟩, leaky_spaced, ⟨rfl, rfl⟩, rfl, ?_⟩
  intro hclosed
  have hone : (leaky.run oneRound).trace.count (.clientClose 0) = 1 := hclosed 0 (by decide)
  exact absurd hone (by decide)

end WorkspaceSession.Session
