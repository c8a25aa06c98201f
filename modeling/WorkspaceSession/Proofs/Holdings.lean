import WorkspaceSession.Proofs.InitHoldings
import WorkspaceSession.Proofs.Ledger
import WorkspaceSession.Proofs.StepOutline

/-! What the operations of a session do to its ledgers. An initialisation takes in a client and a
hook at most and releases nothing; a cleanup frees the client, and the hook too if it completes. -/
namespace WorkspaceSession

theorem Client.checked_client (client : Client) (settings : Settings) (moment : Nat) :
    (client.checked settings moment).client =
      if client.spec.panicsAt moment then none else some client := by
  unfold ClientSpec.panicsAt
  cases houtcome : (client.spec.serverSettings moment).outcome <;> simp [checked, houtcome]

namespace Services

variable (services : Services)

theorem client?_relayed (moment : Nat) (call : Event) (hcall : call.isRelayed = true) :
    services.client? moment call = none := by
  cases call <;> simp [Event.isRelayed] at hcall
  rfl

theorem gather_client?_of_no_connect (moment : Nat) (calls : List Event)
    (hcalls : ∀ call ∈ calls, call.isConnect = false) :
    gather services.client? moment calls = [] := by
  apply gather_eq_nil
  intro call hcall moment
  have hconnect := hcalls call hcall
  cases call <;> simp [Event.isConnect, client?] at hconnect ⊢

theorem gather_client?_of_last_connect (w : Workspace) (moment : Nat) (called : List Event)
    (hquiet : ∀ call ∈ called, call.isConnect = false) (text : String) (cancelled : Bool)
    (options : ClientOptions) :
    let calls := called ++ [.connect text cancelled options]
    gather services.client? moment calls =
      (services.replies w moment calls).clients.map fun spec => ⟨spec, spec.panicsAt
        (moment + calls.length + (services.relayed moment calls).length)⟩ := by
  have hconnections : gather services.connection? moment called = [] := by
    apply gather_eq_nil
    intro call hcall moment
    have hconnect := hquiet call hcall
    cases call <;> simp [Event.isConnect, connection?] at hconnect ⊢
  simp only [services.relayed_of_last_connect moment called hquiet, replies, Replies.clients,
    gather_append, hconnections, services.gather_client?_of_no_connect moment called hquiet,
    List.nil_append, List.length_append, List.length_singleton, ← Nat.add_assoc]
  cases hvalue : (services.connect .rendering none (moment + called.length) text cancelled
    options).outcome.value? <;> simp [gather_cons, connection?, client?, hvalue]

end Services

namespace Session

/-- The client that an initialisation was given is lost where the check of its cache settings does
not get to know the server. -/
theorem gathered_clients (s : Session) (options : ClientOptions) :
    Kind.clients.gathered s.services s.moment (s.calls options) =
      (s.replies (s.calls options)).clients.map fun spec =>
        ⟨spec, spec.panicsAt (s.checkMoment (s.calls options))⟩ := by
  -- a client comes of the last call alone, so that all calls before the check are counted
  cases hw : s.workspace with
  | none =>
    have hcalls : s.calls options = [] := by simp [calls, hw]
    rw [hcalls, Kind.clients.gathered_eq_nil _ _ [] (by simp)]
    simp [replies, hw, Replies.clients]
  | some w =>
    cases hservices : s.services with
    | none => simp [Kind.gathered, replies, hw, hservices, Replies.clients]
    | some services =>
      have hreplies (calls : List Event) : s.replies calls = services.replies w s.moment calls := by
        simp only [replies, hw, hservices]
      simp only [Kind.gathered, Kind.clients, hreplies, checkMoment,
        relayed_of_ready services s hservices]
      by_cases htext : s.settings.getText Settings.connectionString = ""
      · have hquiet := services.isConnect_carryOut w _ (s.isConnect_plan w options htext) s.moment
          s.cancelled
        rw [← calls_of_ready services w s options hw hservices] at hquiet
        rw [services.gather_client?_of_no_connect _ _ hquiet, ← services.answers_made,
          services.made_of_no_connect w s.moment _ hquiet, List.map_nil]
      · have hquiet := services.isConnect_carryOut w _ (s.isConnect_approach w) s.moment s.cancelled
        rw [calls_of_connectionString services w s options hw hservices htext]
        split
        · rw [List.append_nil, services.gather_client?_of_no_connect _ _ hquiet,
            ← services.answers_made, services.made_of_no_connect w s.moment _ hquiet, List.map_nil]
        · exact services.gather_client?_of_last_connect w s.moment _ hquiet _ _ options

theorem init_ledger (kind : Kind α) (s : Session) (invoker : Invoker) (options : ClientOptions)
    (more : List α)
    (hrelayed : ∀ services moment call, call.isRelayed = true →
      kind.given? services moment call = none)
    (hrelease : ∀ n, (kind.release n).isRelease = true)
    (hmore : kind.gathered s.services s.moment (s.calls options) = more)
    (hcount : kind.count (s.init invoker options) = kind.count s + more.length)
    (hheld : kind.held (s.init invoker options) =
      ((latest Prod.mk (kind.count s) more).filter fun thing => !kind.lost thing.2).or
        (kind.held s)) :
    kind.ledger (s.init invoker options) = (kind.ledger s).take more := by
  have hservices : (s.init invoker options).services = s.services := by
    obtain ⟨log, hinit⟩ := s.init_eq invoker options
    rw [hinit]
    rfl
  have hquiet : kind.gathered s.services (s.moment + (s.calls options).length)
      (s.relayed (s.calls options)) = [] := by
    apply kind.gathered_eq_nil
    intro call hcall services moment
    exact hrelayed services moment call (s.isRelayed_relayed _ call hcall)
  apply kind.ledger_of_calls s _ (s.calls options ++ s.relayed (s.calls options)) more hservices
    _ _ _ hcount hheld
  · rw [init_trace, List.append_assoc]
  · intro n hn
    rcases List.mem_append.mp hn with hn | hn
    · have hcall := s.isRelease_calls options _ hn
      rw [hrelease] at hcall
      contradiction
    · have hrelayed := s.isRelayed_relayed _ _ hn
      have hcall := hrelease n
      generalize kind.release n = call at hrelayed hcall
      cases call <;> simp [Event.isRelayed, Event.isRelease] at hrelayed hcall
  · rw [kind.gathered_append, hmore, hquiet, List.append_nil]

theorem init_clients (s : Session) (invoker : Invoker) (options : ClientOptions) :
    ∃ more, more.length ≤ 1 ∧
      Kind.clients.ledger (s.init invoker options) = (Kind.clients.ledger s).take more := by
  have hgathered := s.gathered_clients options
  have hclient := s.init_client invoker options
  have hclients : (s.init invoker options).clients =
      s.clients + (s.replies (s.calls options)).clients.length := by
    obtain ⟨log, hinit⟩ := s.init_eq invoker options
    rw [hinit, ← answers_made]
    rfl
  cases s.ending options with
  | connected spec made unhalted found =>
    rw [answered_made] at made
    rw [client_of_found found, Client.checked_client] at hclient
    rw [made] at hgathered hclients
    refine ⟨_, ?_, init_ledger Kind.clients s invoker options _ Services.client?_relayed
      (fun _ => rfl) hgathered hclients ?_⟩
    · exact Nat.le_refl 1
    · simp only [Kind.clients, hclient, List.map_cons, List.map_nil, latest_singleton]
      cases hlost : spec.panicsAt (s.checkMoment (s.calls options)) <;> simp [Option.filter_some]
  | halted halt made clientless firstHalt client warnings =>
    rw [answered_made] at made
    rw [client, List.getLast?_nil, Option.none_or] at hclient
    rw [made] at hgathered hclients
    refine ⟨_, ?_, init_ledger Kind.clients s invoker options _ Services.client?_relayed
      (fun _ => rfl) hgathered hclients ?_⟩
    · exact Nat.zero_le 1
    · simp [Kind.clients, hclient]

theorem gathered_hooks (s : Session) (options : ClientOptions) :
    Kind.hooks.gathered s.services s.moment (s.calls options) =
      (s.replies (s.calls options)).hooks := by
  rw [← answered_hooks]
  cases hservices : s.services with
  | none => cases hw : s.workspace <;> simp [Kind.gathered, answered, hw, hservices]
  | some services =>
    cases hw : s.workspace with
    | none => simp [Kind.gathered, answered, calls, hw]
    | some w =>
      have hhooks : (services.answers w s.moment (s.calls options)).filterMap Answer.hook =
          gather services.hook? s.moment (s.calls options) := by
        rw [services.filterMap_answers_eq w s.moment _ Answer.hook services.hook? some,
          List.filterMap_some]
        intro moment call
        rw [services.answer_hook, Option.bind_fun_some]
      simp only [Kind.gathered, Kind.hooks, answered, hw, hservices, hhooks]

theorem init_hooks (s : Session) (invoker : Invoker) (options : ClientOptions) :
    ∃ more, more.length ≤ 1 ∧
      Kind.hooks.ledger (s.init invoker options) = (Kind.hooks.ledger s).take more := by
  refine ⟨_, ?_, init_ledger Kind.hooks s invoker options _ ?_ (fun _ => rfl)
    (s.gathered_hooks options) ?_ ?_⟩
  · exact Nat.le_trans (List.length_filterMap_le _ _) (s.length_replies_le options).1
  · intro services moment call hcall
    cases call <;> simp [Event.isRelayed] at hcall
    rfl
  · obtain ⟨log, hinit⟩ := s.init_eq invoker options
    rw [hinit, ← answers_hooks]
    rfl
  · simp only [Kind.hooks, init_telemetry, Option.map_or, map_latest, Bool.not_false]
    cases latest Prod.mk s.hooks (s.replies (s.calls options)).hooks <;> rfl

section

variable (s : Session)

theorem releaseClient_clients :
    Kind.clients.ledger s.releaseClient.1 = (Kind.clients.ledger s).free := by
  cases hclient : s.client with
  | none =>
    rw [s.releaseClient_of_none hclient]
    simp [Ledger.free, Kind.ledger, Kind.clients, hclient]
  | some client =>
    obtain ⟨log, cancelled, payload, hrelease⟩ := s.releaseClient_eq client hclient
    rw [hrelease]
    apply Kind.clients.ledger_of_release s _ client.number ⟨client.spec, false⟩
    · simp [Kind.clients, hclient]
    all_goals rfl

theorem releaseClient_hooks : Kind.hooks.ledger s.releaseClient.1 = Kind.hooks.ledger s := by
  cases hclient : s.client with
  | none => rw [s.releaseClient_of_none hclient]
  | some client =>
    obtain ⟨log, cancelled, payload, hrelease⟩ := s.releaseClient_eq client hclient
    rw [hrelease]
    apply Kind.hooks.ledger_of_quiet s _ [.clientClose client.number]
    · rfl
    · rfl
    · simp [Kind.hooks, Services.hook?]
    · rfl
    · rfl

theorem releaseTelemetry_hooks :
    Kind.hooks.ledger s.releaseTelemetry = (Kind.hooks.ledger s).free := by
  unfold releaseTelemetry
  cases htelemetry : s.telemetry with
  | none => simp [Ledger.free, Kind.ledger, Kind.hooks, htelemetry]
  | some held =>
    apply Kind.hooks.ledger_of_release s _ held.number held.hook
    · simp [Kind.hooks, htelemetry]
    all_goals rfl

theorem releaseTelemetry_clients :
    Kind.clients.ledger s.releaseTelemetry = Kind.clients.ledger s := by
  unfold releaseTelemetry
  cases htelemetry : s.telemetry with
  | none => rfl
  | some held =>
    apply Kind.clients.ledger_of_quiet s _ [.telemetryShutdown held.number]
    · rfl
    · rfl
    · simp [Kind.clients, Services.client?]
    · rfl
    · rfl

theorem closeWorkspace_clients :
    Kind.clients.ledger s.closeWorkspace = Kind.clients.ledger s := by
  obtain ⟨workspace, handlers, hclose⟩ := s.closeWorkspace_eq
  rw [hclose]
  apply Kind.clients.ledger_of_quiet s _ (handlers.map Event.handler)
  · rfl
  · rfl
  · simp [Kind.clients, Services.client?]
  · rfl
  · rfl

theorem closeWorkspace_hooks :
    Kind.hooks.ledger s.closeWorkspace = Kind.hooks.ledger s := by
  obtain ⟨workspace, handlers, hclose⟩ := s.closeWorkspace_eq
  rw [hclose]
  apply Kind.hooks.ledger_of_quiet s _ (handlers.map Event.handler)
  · rfl
  · rfl
  · simp [Kind.hooks, Services.hook?]
  · rfl
  · rfl

theorem cleanup_clients : Kind.clients.ledger s.cleanup.1 = (Kind.clients.ledger s).free := by
  rcases s.cleanup_eq with ⟨payload, hcleanup⟩ | hcleanup
  · rw [hcleanup, releaseClient_clients]
  · rw [hcleanup, closeWorkspace_clients, releaseTelemetry_clients, releaseClient_clients]

theorem cleanup_hooks :
    Kind.hooks.ledger s.cleanup.1 = Kind.hooks.ledger s ∨
      Kind.hooks.ledger s.cleanup.1 = (Kind.hooks.ledger s).free := by
  rcases s.cleanup_eq with ⟨payload, hcleanup⟩ | hcleanup
  · left
    rw [hcleanup, releaseClient_hooks]
  · right
    rw [hcleanup, closeWorkspace_hooks, releaseTelemetry_hooks, releaseClient_hooks]

end

end Session
end WorkspaceSession
