import WorkspaceSession.Session.Cleanup
import WorkspaceSession.Proofs.InitCourse

/-! What the steps other than an initialisation leave of a session, in outline: which fields they
change, and what they add to its trace. -/
namespace WorkspaceSession.Session

theorem checkRequirements_eq (s : Session) (plugins : Table String) :
    ∃ log error, s.checkRequirements plugins = (s.write log).withError error := by
  unfold checkRequirements
  split
  · exact ⟨[], s.result.error, by rw [write_nil]; rfl⟩
  · split
    · exact ⟨[], _, by rw [write_nil]; rfl⟩
    · simp only
      split
      · exact ⟨[], s.result.error, by rw [write_nil]; rfl⟩
      · exact ⟨_, _, rfl⟩

/-- The client is let go before its close is called, whatever the close comes to. -/
theorem releaseClient_eq (s : Session) (client : Client) (hclient : s.client = some client) :
    ∃ log cancelled payload, s.releaseClient =
      ({ s with
          client := none
          trace := s.trace ++ [.clientClose client.number]
          log := log
          cancelled := cancelled }, payload) := by
  unfold releaseClient
  simp only [hclient]
  split
  · exact ⟨_, _, _, rfl⟩
  · exact ⟨_, _, _, rfl⟩
  · exact ⟨_, _, _, rfl⟩

theorem releaseClient_of_none (s : Session) (hclient : s.client = none) :
    s.releaseClient = (s, none) := by
  unfold releaseClient
  rw [hclient]

theorem cleanup_eq (s : Session) :
    (∃ payload, s.cleanup = (s.releaseClient.1, some payload)) ∨
      s.cleanup = (s.releaseClient.1.releaseTelemetry.closeWorkspace, none) := by
  unfold cleanup
  rcases s.releaseClient with ⟨t, _ | payload⟩
  · exact .inr rfl
  · exact .inl ⟨payload, rfl⟩

section

variable (s : Session)

theorem releaseClient_client : s.releaseClient.1.client = none := by
  cases hclient : s.client with
  | none => rw [s.releaseClient_of_none hclient, hclient]
  | some client =>
    obtain ⟨log, cancelled, payload, hrelease⟩ := s.releaseClient_eq client hclient
    rw [hrelease]

theorem releaseTelemetry_telemetry : s.releaseTelemetry.telemetry = none := by
  unfold releaseTelemetry
  cases htelemetry : s.telemetry with
  | none => exact htelemetry
  | some held => rfl

theorem releaseTelemetry_client : s.releaseTelemetry.client = s.client := by
  unfold releaseTelemetry
  cases s.telemetry <;> rfl

theorem closeWorkspace_eq : ∃ (workspace : Option Workspace) (handlers : List String),
    s.closeWorkspace = { s with workspace, trace := s.trace ++ handlers.map Event.handler } := by
  unfold closeWorkspace
  cases s.workspace with
  | none => exact ⟨s.workspace, [], by simp⟩
  | some w => exact ⟨some w.close.1, w.close.2, rfl⟩

end

end WorkspaceSession.Session
