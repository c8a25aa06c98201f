import WorkspaceSession.Proofs.InitEnding
import WorkspaceSession.Proofs.StepOutline

/-! The warnings and messages of a session. An initialisation appends what its collaborators replied
and what the cache check warns of. Nothing else changes either list, so over a run both only
grow. -/
namespace WorkspaceSession

/-- What checking the cache settings against those of the client's server warns of, if the client
does not panic when it is asked for them. -/
def ClientSpec.cacheWarnings (spec : ClientSpec) (settings : Settings) (moment : Nat) :
    List String :=
  match (spec.serverSettings moment).outcome with
  | .ok (some server) => (server.check settings).warnings
  | .ok none | .error _ => []

theorem Client.checked_warnings (client : Client) (settings : Settings) (moment : Nat) :
    (client.checked settings moment).warnings = client.spec.cacheWarnings settings moment := by
  simp only [checked, ClientSpec.cacheWarnings]
  rcases (client.spec.serverSettings moment).outcome with payload | _ | server <;> rfl

namespace Event

def isMessage : Event → Bool
  | .notice (.message _) | .relayed (.message _) => true
  | _ => false

end Event

namespace Session

section

variable (s : Session) (options : ClientOptions)

theorem answers_warnings :
    (s.answers options).flatMap Answer.warnings =
      (s.replies (s.calls options)).startFaults.map ErrorChain.outermost ++
        (s.replies (s.calls options)).reports.flatMap InstallReport.failures ++
        (s.replies (s.calls options)).clients.flatMap
          (·.cacheWarnings s.settings (s.checkMoment (s.calls options))) := by
  rw [← answered_warnings, ← answered_made]
  cases s.ending options with
  | connected spec made unhalted found =>
    rw [found, made, List.flatMap_append, List.flatMap_singleton, List.flatMap_singleton,
      Client.checked_warnings]
  | halted halt made clientless firstHalt client warnings =>
    rw [warnings, made, List.flatMap_nil, List.append_nil]

theorem isMessage_calls (call : Event) (hcall : call ∈ s.calls options) :
    call.isMessage = false := by
  have hcount : (s.calls options).countP Event.isMessage ≤ 0 := by
    apply countP_calls_le
    · intro e
      cases e <;> rfl
    · intro w
      unfold plan setUpPlan
      split <;> split <;> simp [Event.isMessage]
  rw [Nat.le_zero, List.countP_eq_zero] at hcount
  simpa using hcount call hcall

theorem isMessage_relayed (calls : List Event) (call : Event) (hcall : call ∈ s.relayed calls) :
    call.isMessage = false := by
  unfold relayed at hcall
  split at hcall
  · obtain ⟨connection, -, hcall⟩ := List.mem_flatMap.mp hcall
    obtain ⟨n, hn, rfl⟩ := List.mem_map.mp hcall
    obtain ⟨-, hforwards⟩ := List.mem_filter.mp hn
    cases n with
    | status text => rfl
    | message text => simp at hforwards
  · contradiction

end

theorem init_warnings (s : Session) (invoker : Invoker) (options : ClientOptions) :
    (s.init invoker options).result.warnings =
      s.result.warnings ++ (s.answers options).flatMap Answer.warnings := by
  obtain ⟨log, hinit⟩ := s.init_eq invoker options
  rw [hinit]
  rfl

theorem init_messages (s : Session) (invoker : Invoker) (options : ClientOptions) :
    (s.init invoker options).result.messages =
      s.result.messages ++ (s.answers options).flatMap Answer.messages := by
  obtain ⟨log, hinit⟩ := s.init_eq invoker options
  rw [hinit]
  rfl

theorem checkRequirements_texts (s : Session) (plugins : Table String) :
    (s.checkRequirements plugins).result.warnings = s.result.warnings ∧
      (s.checkRequirements plugins).result.messages = s.result.messages := by
  obtain ⟨log, error, hcheck⟩ := s.checkRequirements_eq plugins
  rw [hcheck]
  exact ⟨rfl, rfl⟩

theorem releaseClient_result (s : Session) : s.releaseClient.1.result = s.result := by
  cases hclient : s.client with
  | none => rw [s.releaseClient_of_none hclient]
  | some client =>
    obtain ⟨log, cancelled, payload, hrelease⟩ := s.releaseClient_eq client hclient
    rw [hrelease]

theorem releaseTelemetry_result (s : Session) : s.releaseTelemetry.result = s.result := by
  unfold releaseTelemetry
  cases s.telemetry <;> rfl

theorem cleanup_result (s : Session) : s.cleanup.1.result = s.result := by
  rcases s.cleanup_eq with ⟨payload, hcleanup⟩ | hcleanup
  · rw [hcleanup, releaseClient_result]
  · obtain ⟨workspace, handlers, hclose⟩ := s.releaseClient.1.releaseTelemetry.closeWorkspace_eq
    rw [hcleanup, hclose]
    exact (releaseTelemetry_result _).trans s.releaseClient_result

theorem step_texts_prefix (s : Session) (step : Step) :
    s.result.warnings <+: (s.step step).result.warnings ∧
      s.result.messages <+: (s.step step).result.messages := by
  cases step with
  | init invoker options =>
    simp only [Session.step, init_warnings, init_messages]
    exact ⟨List.prefix_append _ _, List.prefix_append _ _⟩
  | cancel => exact ⟨List.prefix_rfl, List.prefix_rfl⟩
  | checkRequirements plugins =>
    obtain ⟨hwarnings, hmessages⟩ := s.checkRequirements_texts plugins
    simp only [Session.step, hwarnings, hmessages]
    exact ⟨List.prefix_rfl, List.prefix_rfl⟩
  | cleanup =>
    simp only [Session.step, cleanup_result]
    exact ⟨List.prefix_rfl, List.prefix_rfl⟩

theorem run_texts_prefix (s : Session) (steps : List Step) :
    s.result.warnings <+: (s.run steps).result.warnings ∧
      s.result.messages <+: (s.run steps).result.messages := by
  apply run_of_step fun t => s.result.warnings <+: t.result.warnings ∧
    s.result.messages <+: t.result.messages
  · rintro t step ⟨hwarnings, hmessages⟩
    obtain ⟨hwarnings', hmessages'⟩ := t.step_texts_prefix step
    exact ⟨hwarnings.trans hwarnings', hmessages.trans hmessages'⟩
  · exact ⟨List.prefix_rfl, List.prefix_rfl⟩

/-- An initialisation calls each collaborator once at most. It appends to the warnings what a start
of telemetry failed with, then the failures that an install reports, then the warnings of the cache
check of a client that was made; it appends to the messages what the connector sent, however the
connect and all that follows it ended, and neither it nor the connector tells the reporter a
message. The other steps leave both lists as they are, so over a run they only grow. -/
theorem texts_only_grow (s : Session) :
    (∀ invoker options, ∃ calls,
      (s.init invoker options).trace = s.trace ++ calls ++ s.relayed calls ∧
      ((s.replies calls).starts.length ≤ 1 ∧ (s.replies calls).installs.length ≤ 1 ∧
        (s.replies calls).connects.length ≤ 1) ∧
      (s.init invoker options).result.warnings = s.result.warnings ++
        ((s.replies calls).startFaults.map ErrorChain.outermost ++
          (s.replies calls).reports.flatMap InstallReport.failures ++
          (s.replies calls).clients.flatMap
            (·.cacheWarnings s.settings (s.checkMoment calls))) ∧
      (s.init invoker options).result.messages =
        s.result.messages ++ (s.replies calls).connects.flatMap Connection.texts ∧
      ∀ text, .notice (.message text) ∉ calls ∧ .relayed (.message text) ∉ s.relayed calls) ∧
    s.cancel.result = s.result ∧
    (∀ plugins, (s.checkRequirements plugins).result.warnings = s.result.warnings ∧
      (s.checkRequirements plugins).result.messages = s.result.messages) ∧
    s.cleanup.1.result = s.result ∧
    ∀ steps, s.result.warnings <+: (s.run steps).result.warnings ∧
      s.result.messages <+: (s.run steps).result.messages := by
  refine ⟨?_, rfl, s.checkRequirements_texts, s.cleanup_result, s.run_texts_prefix⟩
  intro invoker options
  refine ⟨s.calls options, s.init_trace invoker options, s.length_replies_le options, ?_, ?_, ?_⟩
  · rw [init_warnings, answers_warnings]
  · rw [init_messages, answers_messages]
  · intro text
    constructor
    · intro hcall
      have hmessage := s.isMessage_calls options _ hcall
      simp [Event.isMessage] at hmessage
    · intro hcall
      have hmessage := s.isMessage_relayed _ _ hcall
      simp [Event.isMessage] at hmessage

end Session
end WorkspaceSession
