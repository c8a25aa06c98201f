import WorkspaceSession.Proofs.InitEnding

/-! What a session holds after an initialisation. The error tells whether it holds the client of
this initialisation, and telemetry is never let go. -/
namespace WorkspaceSession

def SessionError.KeepsClient : Option SessionError → Prop
  | none | some .cancelled | some (.cacheSettings _) => True
  | some _ => False

theorem SessionError.Clientless.not_keepsClient (error : SessionError) (h : error.Clientless) :
    ¬ KeepsClient (some error) := by
  cases error with
  | workspace _ | cacheSettings _ | modRequirements _ | cancelled => exact h.elim
  | _ => exact id

theorem latest_isSome_iff (build : Nat → α → β) (first : Nat) (given : List α) :
    (latest build first given).isSome ↔ given ≠ [] := by
  unfold latest
  rw [Option.isSome_map, List.getLast?_isSome, ne_eq, List.zipIdx_eq_nil_iff]

namespace Client

variable (client : Client) (settings : Settings) {moment : Nat}

theorem checked_of_panic {payload : Payload}
    (hpanic : (client.spec.serverSettings moment).outcome = .error payload) :
    (client.checked settings moment).halt = some (.panic payload) ∧
      (client.checked settings moment).client = none := by
  simp only [checked, hpanic, and_self]

/-- A client that says what it knows of its server is taken in, whatever comes of the check. -/
theorem checked_of_told {server : Option ServerSettings}
    (htold : (client.spec.serverSettings moment).outcome = .ok server) :
    (client.checked settings moment).client = some client ∧
      ∀ halt, (client.checked settings moment).halt = some halt →
        ∃ text, halt = .fatal (.cacheSettings text) := by
  simp only [checked, htold, true_and]
  intro halt hhalt
  obtain ⟨error, herror, rfl⟩ := Option.map_eq_some_iff.mp hhalt
  cases server with
  | none => simp at herror
  | some server =>
    obtain ⟨text, rfl⟩ := server.exists_text_of_check settings error herror
    exact ⟨text, rfl⟩

end Client

namespace Session

section

variable (s : Session) (invoker : Invoker) (options : ClientOptions)

theorem init_client :
    (s.init invoker options).client =
      ((s.answers options).filterMap Answer.client).getLast?.or s.client := by
  obtain ⟨log, hinit⟩ := s.init_eq invoker options
  rw [hinit]
  rfl

theorem init_telemetry :
    (s.init invoker options).telemetry =
      (latest HeldHook.mk s.hooks (s.replies (s.calls options)).hooks).or s.telemetry := by
  obtain ⟨log, hinit⟩ := s.init_eq invoker options
  rw [hinit, ← answers_hooks]
  rfl

theorem init_error_of_none (herror : s.result.error = none) :
    ∃ cancelled : Bool, (s.init invoker options).result.error =
      ((Answer.firstHalt (s.answers options)).map Halt.toError).or
        (if cancelled then some .cancelled else none) := by
  obtain ⟨log, hinit⟩ := s.init_eq invoker options
  refine ⟨s.cancelled || (s.answers options).any Answer.cancels, ?_⟩
  rw [hinit]
  simp only [withError, verdict, herror, Option.none_or]

theorem keepsClient_of_told (client : Client) (settings : Settings) (moment : Nat)
    (server : Option ServerSettings)
    (htold : (client.spec.serverSettings moment).outcome = .ok server) (cancelled : Bool) :
    SessionError.KeepsClient (((client.checked settings moment).halt.map Halt.toError).or
      (if cancelled then some .cancelled else none)) := by
  have hhalts := (Client.checked_of_told client settings htold).2
  cases hhalt : (client.checked settings moment).halt with
  | none => cases cancelled <;> trivial
  | some halt =>
    obtain ⟨text, rfl⟩ := hhalts halt hhalt
    trivial

end

section

variable {s : Session} (invoker : Invoker) {options : ClientOptions}
  (herror : s.result.error = none) {spec : ClientSpec}
  (unhalted : Answer.firstHalt (s.answered options) = none)
  (found : s.answers options = s.answered options ++
    [Client.checked ⟨s.clients, spec⟩ s.settings (s.checkMoment (s.calls options))])

include herror unhalted found

theorem holds_of_told {server : Option ServerSettings}
    (htold : (spec.serverSettings (s.checkMoment (s.calls options))).outcome = .ok server) :
    SessionError.KeepsClient (s.init invoker options).result.error ∧
      (s.init invoker options).client = some ⟨s.clients, spec⟩ := by
  obtain ⟨cancelled, hafter⟩ := s.init_error_of_none invoker options herror
  obtain ⟨hkept, -⟩ := Client.checked_of_told ⟨s.clients, spec⟩ s.settings htold
  rw [hafter, firstHalt_of_found found unhalted, init_client, client_of_found found, hkept]
  exact ⟨keepsClient_of_told _ _ _ server htold cancelled, rfl⟩

theorem holds_of_panic {payload : Payload}
    (hpanic : (spec.serverSettings (s.checkMoment (s.calls options))).outcome = .error payload) :
    ¬ SessionError.KeepsClient (s.init invoker options).result.error ∧
      (s.init invoker options).client = s.client := by
  obtain ⟨cancelled, hafter⟩ := s.init_error_of_none invoker options herror
  obtain ⟨hhalt, hlost⟩ := Client.checked_of_panic ⟨s.clients, spec⟩ s.settings hpanic
  rw [hafter, firstHalt_of_found found unhalted, init_client, client_of_found found, hhalt, hlost]
  exact ⟨id, rfl⟩

end

/-- Where there was no error before, an initialisation that ends in none, in a cancellation or in
refused cache settings leaves the client of its own connect. Every other leaves the one held before,
and where it got a client all the same, that client panicked when it was asked about its server. It
lets no telemetry go, holds the one it started, and leaves the workspace as it is. -/
theorem init_holds_client (s : Session) (invoker : Invoker) (options : ClientOptions) :
    ∃ calls, (s.init invoker options).trace = s.trace ++ calls ++ s.relayed calls ∧
      (s.result.error = none →
        (SessionError.KeepsClient (s.init invoker options).result.error ∧
          ∃ spec, (s.replies calls).clients = [spec] ∧
            (s.init invoker options).client = some ⟨s.clients, spec⟩) ∨
        (¬ SessionError.KeepsClient (s.init invoker options).result.error ∧
          (s.init invoker options).client = s.client ∧
          ∀ spec ∈ (s.replies calls).clients, ∃ payload,
            (spec.serverSettings (s.checkMoment calls)).outcome = .error payload)) ∧
      ((s.init invoker options).telemetry.isSome ↔
        s.telemetry.isSome ∨ (s.replies calls).hooks ≠ []) ∧
      (s.init invoker options).workspace = s.workspace ∧
      ∀ name, .handler name ∉ calls ++ s.relayed calls := by
  refine ⟨s.calls options, s.init_trace invoker options, ?_, ?_, s.init_workspace invoker options,
    ?_⟩
  · intro herror
    cases s.ending options with
    | connected spec made unhalted found =>
      rw [answered_made] at made
      cases houtcome : (spec.serverSettings (s.checkMoment (s.calls options))).outcome with
      | ok server =>
        left
        obtain ⟨hkeeps, hclient⟩ := holds_of_told invoker herror unhalted found houtcome
        exact ⟨hkeeps, spec, made, hclient⟩
      | error payload =>
        right
        obtain ⟨hkeeps, hclient⟩ := holds_of_panic invoker herror unhalted found houtcome
        refine ⟨hkeeps, hclient, ?_⟩
        intro other hother
        rw [made, List.mem_singleton] at hother
        rw [hother]
        exact ⟨payload, houtcome⟩
    | halted halt made clientless firstHalt client warnings =>
      right
      obtain ⟨cancelled, hafter⟩ := s.init_error_of_none invoker options herror
      rw [answered_made] at made
      rw [hafter, firstHalt, Option.map_some, Option.some_or, init_client, client,
        List.getLast?_nil, Option.none_or, made]
      exact ⟨clientless.not_keepsClient, rfl, fun spec hspec => absurd hspec List.not_mem_nil⟩
  · rw [init_telemetry, Option.isSome_or, Bool.or_eq_true, latest_isSome_iff, or_comm]
  · intro name hcall
    rcases List.mem_append.mp hcall with hcall | hcall
    · have hrelease := s.isRelease_calls options _ hcall
      simp [Event.isRelease] at hrelease
    · have hrelayed := s.isRelayed_relayed _ _ hcall
      simp [Event.isRelayed] at hrelayed

/-- A server whose cache has the client's time to live refused, over a client held before. -/
def strict : Session :=
  { settings := (Settings.empty.set Settings.connectionString (.text "db")).set Settings.cacheTtl
      (.integer 0)
    services := some
      { reporter := .silent
        telemetry := fun _ _ => { outcome := .failed ⟨"offline", []⟩ }
        installer := fun _ _ _ _ => { outcome := .failed ⟨"offline", []⟩ }
        connector := fun _ _ _ _ _ =>
          { outcome := .done { serverSettings := fun _ => { outcome := .ok (some ⟨true, 60⟩) } } } }
    workspace := some { path := "/w", root := { name := "w" } }
    client := some ⟨0, {}⟩
    clients := 1 }

theorem strict_holds_client :
    strict.result.error = none ∧
      SessionError.KeepsClient (strict.init .check {}).result.error ∧
      (strict.init .check {}).client.map Client.number = some 1 ∧
      (strict.init .check {}).telemetry = none := by
  have herror : (strict.init .check {}).result.error =
      some (.cacheSettings "cache ttl must be greater than zero, got 0") := rfl
  obtain ⟨calls, -, hclient, -⟩ := init_holds_client strict .check {}
  refine ⟨rfl, ?_, ?_, rfl⟩
  · rw [herror]
    trivial
  · rcases hclient rfl with ⟨-, spec, -, hheld⟩ | ⟨hkeeps, -, -⟩
    · rw [hheld]
      rfl
    · rw [herror] at hkeeps
      exact absurd trivial hkeeps

end Session
end WorkspaceSession
