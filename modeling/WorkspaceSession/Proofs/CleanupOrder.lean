import WorkspaceSession.Proofs.InitTexts
import WorkspaceSession.Proofs.Release

/-! What cleanups do, whatever a session holds and however the close of its client ends. Each thing
held is let go before its release is called, so a cleanup that is cut short is taken up by the next
one where it stopped. -/
namespace WorkspaceSession

def Outcome.panic? : Outcome α → Option Payload
  | .panicked payload => some payload
  | _ => none

def Reply.closeLines (reply : Reply Unit) : List LogLine :=
  match reply.outcome with
  | .failed cause => reply.log ++ [.warn ("Failed to close database client: " ++ cause.full)]
  | _ => reply.log

namespace Workspace

def remainingHandlers (w : Workspace) : List String := if w.closed then [] else w.handlers

/-- The workspace once it is closed. Handlers that came after the close stay. -/
def shut (w : Workspace) : Workspace :=
  { w with handlers := if w.closed then w.handlers else [], closed := true }

theorem close_eq (w : Workspace) : w.close = (w.shut, w.remainingHandlers) := by
  unfold close shut remainingHandlers
  cases hclosed : w.closed with
  | false => rfl
  | true =>
    obtain ⟨path, root, lock, handlers, closed⟩ := w
    obtain rfl : closed = true := hclosed
    rfl

theorem close_of_closed (w : Workspace) (hclosed : w.closed = true) : w.close = (w, []) := by
  unfold close
  rw [if_pos hclosed]

theorem handlers_foldl_onClose (w : Workspace) (names : List String) :
    (names.foldl onClose w).handlers = w.handlers ++ names ∧
      (names.foldl onClose w).closed = w.closed := by
  induction names generalizing w with
  | nil => simp
  | cons name names ih =>
    obtain ⟨hhandlers, hclosed⟩ := ih (w.onClose name)
    rw [List.foldl_cons, hhandlers, hclosed]
    simp [onClose]

end Workspace

namespace Session

section

variable (s : Session)

def closeReply? : Option (Reply Unit) := s.client.map fun client => client.spec.close s.moment

def closePanic? : Option Payload := s.closeReply?.bind (·.outcome.panic?)
def closeCancels : Bool := s.closeReply?.any (·.cancels)
def closeLog : List LogLine := s.closeReply?.toList.flatMap Reply.closeLines
def farewell : List LogLine := s.telemetry.toList.flatMap (·.hook.farewell)

def clientRelease : List Event := s.client.toList.map fun client => .clientClose client.number
def hookRelease : List Event := s.telemetry.toList.map fun held => .telemetryShutdown held.number

def handlerRuns : List Event :=
  s.workspace.toList.flatMap fun w => w.remainingHandlers.map Event.handler

def clientReleased : Session :=
  { s with
    client := none
    trace := s.trace ++ s.clientRelease
    log := s.log ++ s.closeLog
    cancelled := s.cancelled || s.closeCancels }

def allReleased : Session :=
  { s with
    client := none
    telemetry := none
    workspace := s.workspace.map Workspace.shut
    trace := s.trace ++ (s.clientRelease ++ s.hookRelease ++ s.handlerRuns)
    log := s.log ++ (s.closeLog ++ s.farewell)
    cancelled := s.cancelled || s.closeCancels }

theorem releaseClient_exact : s.releaseClient = (s.clientReleased, s.closePanic?) := by
  unfold clientReleased clientRelease closeLog closeCancels closePanic? closeReply?
  cases hclient : s.client with
  | none =>
    have hsame : s = { s with client := none } := by rw [← hclient]
    rw [s.releaseClient_of_none hclient]
    simpa using hsame
  | some client =>
    unfold releaseClient
    rw [hclient]
    simp only [Option.map_some, Option.bind_some, Option.any_some, Option.toList_some,
      List.map_cons, List.map_nil, List.flatMap_singleton]
    unfold Outcome.panic? Reply.closeLines
    cases (client.spec.close s.moment).outcome with
    | done value => rfl
    | failed cause => simp [write, absorb, record]
    | panicked payload => rfl

theorem releaseTelemetry_exact : s.releaseTelemetry =
    { s with
      telemetry := none
      trace := s.trace ++ s.hookRelease
      log := s.log ++ s.farewell } := by
  unfold releaseTelemetry hookRelease farewell
  cases htelemetry : s.telemetry with
  | none =>
    have hsame : s = { s with telemetry := none } := by rw [← htelemetry]
    simpa using hsame
  | some held => simp [record, write]

theorem closeWorkspace_exact : s.closeWorkspace =
    { s with
      workspace := s.workspace.map Workspace.shut
      trace := s.trace ++ s.handlerRuns } := by
  unfold closeWorkspace handlerRuns
  cases hworkspace : s.workspace with
  | none =>
    have hsame : s = { s with workspace := none } := by rw [← hworkspace]
    simpa using hsame
  | some w => simp [w.close_eq]

theorem handlerRuns_of_added (w : Workspace) (names : List String)
    (hworkspace : s.workspace = some (names.foldl Workspace.onClose w)) (hopen : w.closed = false) :
    s.handlerRuns = (w.handlers ++ names).map Event.handler := by
  obtain ⟨hhandlers, hclosed⟩ := w.handlers_foldl_onClose names
  unfold handlerRuns Workspace.remainingHandlers
  simp [hworkspace, hhandlers, hclosed, hopen]

theorem cleanup_of_panic (payload : Payload) (hpanic : s.closePanic? = some payload) :
    s.cleanup = (s.clientReleased, some payload) := by
  unfold cleanup
  rw [s.releaseClient_exact, hpanic]

theorem cleanup_of_complete (hcomplete : s.closePanic? = none) :
    s.cleanup = (s.allReleased, none) := by
  unfold cleanup
  rw [s.releaseClient_exact, hcomplete]
  simp only [releaseTelemetry_exact, closeWorkspace_exact]
  unfold clientReleased allReleased
  simp only [List.append_assoc]
  rfl

theorem cleanup_clientReleased :
    s.clientReleased.cleanup = (s.clientReleased.allReleased, none) :=
  s.clientReleased.cleanup_of_complete rfl

theorem trace_clientReleased : s.clientReleased.allReleased.trace =
    s.clientReleased.trace ++ (s.hookRelease ++ s.handlerRuns) := rfl

theorem cleanup_exporters : s.cleanup.1.exporters = s.exporters := by
  cases hpanic : s.closePanic? with
  | none => rw [s.cleanup_of_complete hpanic]; rfl
  | some payload => rw [s.cleanup_of_panic payload hpanic]; rfl

end

structure Released (s : Session) : Prop extends Idle s where
  closed : ∀ w, s.workspace = some w → w.closed = true

theorem allReleased_released (s : Session) : s.allReleased.Released := by
  refine ⟨⟨rfl, rfl⟩, ?_⟩
  intro w hw
  obtain ⟨before, -, rfl⟩ := Option.map_eq_some_iff.mp hw
  rfl

section

variable (s : Session) (released : s.Released)

include released

theorem Released.cleanup : s.cleanup = (s, none) := by
  have hclose : s.closeWorkspace = s := by
    unfold closeWorkspace
    cases hworkspace : s.workspace with
    | none => rfl
    | some w =>
      have hsame : s = { s with workspace := some w } := by rw [← hworkspace]
      simp only [w.close_of_closed (released.closed w hworkspace), List.map_nil, List.append_nil]
      exact hsame.symm
  unfold Session.cleanup releaseTelemetry
  simp only [s.releaseClient_of_none released.client, released.telemetry, hclose]

theorem Released.step (step : Step) (hstep : step.isInit = false) : (s.step step).Released := by
  refine ⟨released.toIdle.step s step hstep, ?_⟩
  cases step with
  | init invoker options => simp [Step.isInit] at hstep
  | cancel => exact released.closed
  | checkRequirements plugins =>
    obtain ⟨log, error, hcheck⟩ := s.checkRequirements_eq plugins
    simp only [Session.step, hcheck]
    exact released.closed
  | cleanup =>
    simp only [Session.step, released.cleanup]
    exact released.closed

theorem Released.run (steps : List Step) (hsteps : ∀ step ∈ steps, step.isInit = false) :
    (s.run steps).Released := by
  induction steps generalizing s with
  | nil => exact released
  | cons step steps ih =>
    obtain ⟨hstep, hsteps⟩ := List.forall_mem_cons.mp hsteps
    exact ih (s.step step) (released.step s step hstep) hsteps

theorem Released.run_cleanups (n : Nat) : s.run (List.replicate n .cleanup) = s := by
  unfold Session.run
  induction n with
  | zero => rfl
  | succ n ih =>
    rw [List.replicate_succ, List.foldl_cons, Session.step, released.cleanup, ih]

end

/-- A second cleanup ends in the same place whether or not the first one was cut short. -/
theorem cleanup_cleanup (s : Session) :
    s.cleanup.1.cleanup.1.Released ∧
      s.cleanup.1.cleanup.1.trace =
        s.trace ++ (s.clientRelease ++ s.hookRelease ++ s.handlerRuns) := by
  cases hpanic : s.closePanic? with
  | none =>
    have released := s.allReleased_released
    rw [s.cleanup_of_complete hpanic, released.cleanup]
    exact ⟨released, rfl⟩
  | some payload =>
    rw [s.cleanup_of_panic payload hpanic, s.cleanup_clientReleased]
    refine ⟨s.clientReleased.allReleased_released, ?_⟩
    rw [trace_clientReleased, List.append_assoc s.clientRelease, ← List.append_assoc s.trace]
    rfl

/-- A cleanup closes the client held, shuts down the telemetry held and runs the handlers of an open
workspace as they were added, in this order. A close that fails adds a line to the log and nothing
else. After a cleanup that completes, another one finds nothing to do. A panic of the close leaves
telemetry and workspace to the next cleanup, so that two cleanups release everything once in any
case. -/
theorem cleanup_exact (s : Session) :
    (s.closePanic? = none →
      s.cleanup = (s.allReleased, none) ∧ s.allReleased.Released ∧
      ∀ steps : List Step, (∀ step ∈ steps, step.isInit = false) →
        (s.allReleased.run steps).cleanup = (s.allReleased.run steps, none)) ∧
    (∀ payload, s.closePanic? = some payload →
      s.cleanup = (s.clientReleased, some payload) ∧
      s.clientReleased.cleanup = (s.clientReleased.allReleased, none) ∧
      s.clientReleased.allReleased.trace =
        s.clientReleased.trace ++ (s.hookRelease ++ s.handlerRuns) ∧
      s.clientReleased.allReleased.Released) ∧
    (∀ n, (s.run (List.replicate (n + 2) .cleanup)).trace =
        s.trace ++ (s.clientRelease ++ s.hookRelease ++ s.handlerRuns) ∧
      (s.run (List.replicate (n + 2) .cleanup)).Released) ∧
    (∀ (w : Workspace) (names : List String),
      s.workspace = some (names.foldl Workspace.onClose w) → w.closed = false →
      s.handlerRuns = (w.handlers ++ names).map Event.handler) ∧
    s.cleanup.1.result = s.result ∧ s.cleanup.1.exporters = s.exporters := by
  refine ⟨?_, ?_, ?_, s.handlerRuns_of_added, s.cleanup_result, s.cleanup_exporters⟩
  · intro hcomplete
    have released := s.allReleased_released
    refine ⟨s.cleanup_of_complete hcomplete, released, ?_⟩
    intro steps hsteps
    exact (released.run _ steps hsteps).cleanup
  · intro payload hpanic
    exact ⟨s.cleanup_of_panic payload hpanic, s.cleanup_clientReleased, s.trace_clientReleased,
      s.clientReleased.allReleased_released⟩
  · intro n
    obtain ⟨released, htrace⟩ := s.cleanup_cleanup
    have hrun : s.run (List.replicate (n + 2) .cleanup) = s.cleanup.1.cleanup.1 :=
      released.run_cleanups _ n
    rw [hrun]
    exact ⟨htrace, released⟩

def laden (close : Outcome Unit) : Session :=
  { client := some ⟨0, { close := fun _ => { outcome := close } }⟩
    telemetry := some ⟨0, { farewell := [.info "telemetry off"] }⟩
    workspace := some
      (["flush", "unlock"].foldl Workspace.onClose { path := "/w", root := { name := "w" } }) }

theorem laden_cleanup :
    (laden (.panicked .other)).cleanup.2 = some .other ∧
      (laden (.panicked .other)).cleanup.1.trace = [.clientClose 0] ∧
      (laden (.panicked .other)).cleanup.1.cleanup.1.trace =
        [.clientClose 0, .telemetryShutdown 0, .handler "flush", .handler "unlock"] ∧
      (laden (.failed ⟨"gone", []⟩)).handlerRuns = [.handler "flush", .handler "unlock"] ∧
      (laden (.failed ⟨"gone", []⟩)).cleanup.1.trace =
        [.clientClose 0, .telemetryShutdown 0, .handler "flush", .handler "unlock"] ∧
      (laden (.failed ⟨"gone", []⟩)).cleanup.1.log =
        [.warn "Failed to close database client: gone", .info "telemetry off"] ∧
      ((laden (.failed ⟨"gone", []⟩)).cleanup.1.run [.cancel]).cleanup =
        ((laden (.failed ⟨"gone", []⟩)).cleanup.1.run [.cancel], none) := by
  obtain ⟨-, hcut, -⟩ := cleanup_exact (laden (.panicked .other))
  obtain ⟨hpanicked, hresumed, -⟩ := hcut .other rfl
  obtain ⟨hcomplete, -, -, horder, -⟩ := cleanup_exact (laden (.failed ⟨"gone", []⟩))
  obtain ⟨hfailed, -, hidle⟩ := hcomplete rfl
  have handlers := horder { path := "/w", root := { name := "w" } } ["flush", "unlock"] rfl rfl
  rw [hpanicked, hfailed, hresumed]
  exact ⟨rfl, rfl, rfl, handlers, rfl, rfl, hidle [.cancel] (by simp [Step.isInit])⟩

end Session
end WorkspaceSession
