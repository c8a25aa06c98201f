import WorkspaceSession.Proofs.InitCourse

/-! The calls of an initialisation. They are its plan up to the first call that halts, and the plan
depends on the workspace, the settings and the options alone: a cancellation removes no call. -/
namespace WorkspaceSession.Session

theorem plan_map_asked (w : Workspace) (options : ClientOptions) (s : Session) :
    (s.plan w options).map Event.asked = s.plan w options := by
  unfold plan setUpPlan
  split <;> split <;> rfl

theorem calls_asked_of_heedless (s : Session) (options : ClientOptions) (w : Workspace)
    (services : Services) (hw : s.workspace = some w) (hservices : s.services = some services)
    (heedless : services.Heedless w) (cancelled : Bool) :
    (({ s with cancelled } : Session).calls options).map Event.asked =
      (s.calls options).map Event.asked := by
  rw [calls_of_ready services w s options hw hservices,
    calls_of_ready services w { s with cancelled } options hw hservices]
  exact services.carryOut_asked_of_heedless w heedless _ _ _ _

section

variable (s : Session) (options : ClientOptions)

/-- What is counted in the plan bounds what is counted in the calls. -/
theorem countP_calls_le (p : Event → Bool) (hp : ∀ e : Event, p e.asked = p e) (bound : Nat)
    (hplan : ∀ w, (s.plan w options).countP p ≤ bound) : (s.calls options).countP p ≤ bound := by
  unfold calls
  split
  · rename_i w services _ _
    have hpart := services.carryOut_asked_prefix w (s.plan w options) s.moment s.cancelled
    have hcount := hpart.sublist.countP_le (p := p)
    have hasked : p ∘ Event.asked = p := funext hp
    rw [List.countP_map, List.countP_map, hasked] at hcount
    exact Nat.le_trans hcount (hplan w)
  · exact Nat.zero_le _

theorem isRelease_calls (call : Event) (hcall : call ∈ s.calls options) :
    call.isRelease = false := by
  have hcount : (s.calls options).countP Event.isRelease ≤ 0 := by
    apply countP_calls_le
    · intro e
      cases e <;> rfl
    · intro w
      unfold plan setUpPlan
      split <;> split <;> simp [Event.isRelease]
  rw [Nat.le_zero, List.countP_eq_zero] at hcount
  simpa using hcount call hcall

end

theorem isRelayed_relayed (s : Session) (calls : List Event) (call : Event)
    (hcall : call ∈ s.relayed calls) : call.isRelayed = true := by
  unfold relayed at hcall
  split at hcall
  · exact Services.isRelayed_relayed _ _ _ call hcall
  · contradiction

theorem relayed_of_no_connect (s : Session) (calls : List Event)
    (hcalls : ∀ call ∈ calls, call.isConnect = false) : s.relayed calls = [] := by
  unfold relayed
  split
  · exact Services.relayed_of_no_connect _ _ calls hcalls
  · rfl

/-- An initialisation calls nobody without a workspace or without collaborators. Otherwise its
calls are the plan, cut right after the first call that ends in a fatal error or a panic and
complete when there is none; and the token by itself removes no call. Behind its own calls stands
what the connector had the reporter told while it connected, if it did. -/
theorem init_calls_cut (s : Session) (invoker : Invoker) (options : ClientOptions) :
    ∃ calls, (s.init invoker options).trace = s.trace ++ calls ++ s.relayed calls ∧
      (∀ call ∈ s.relayed calls, ∃ notice, call = .relayed notice) ∧
      (s.relayed calls ≠ [] → ∃ call ∈ calls, call.isConnect) ∧
      (s.workspace = none ∨ s.services = none → calls = []) ∧
      ∀ w services, s.workspace = some w → s.services = some services →
        calls.map Event.asked <+: s.plan w options ∧
        (∀ i call, calls[i]? = some call →
          (services.answer w (s.moment + i) call).halt.isSome → calls.length = i + 1) ∧
        (Answer.firstHalt (services.answers w s.moment calls) = none →
          calls.map Event.asked = s.plan w options) ∧
        (services.Heedless w → ∀ cancelled, ∃ calls',
          (({ s with cancelled } : Session).init invoker options).trace =
              s.trace ++ calls' ++ s.relayed calls' ∧
            calls'.map Event.asked = calls.map Event.asked) := by
  refine ⟨s.calls options, s.init_trace invoker options, ?_, ?_, ?_, ?_⟩
  · intro call hcall
    have hrelayed := s.isRelayed_relayed _ call hcall
    cases call <;> simp [Event.isRelayed] at hrelayed ⊢
  · intro hrelayed
    apply Classical.byContradiction
    intro hnone
    apply hrelayed
    apply relayed_of_no_connect
    intro call hcall
    cases hconnect : call.isConnect with
    | true => exact absurd ⟨call, hcall, hconnect⟩ hnone
    | false => rfl
  · rintro (hw | hservices)
    · simp [calls, hw]
    · unfold calls
      rw [hservices]
      cases s.workspace <;> rfl
  · intro w services hw hservices
    have hcalls := calls_of_ready services w s options hw hservices
    have hpart := services.carryOut_asked_prefix w (s.plan w options) s.moment s.cancelled
    have hcomplete :=
      services.carryOut_asked_of_complete w (s.plan w options) s.moment s.cancelled
    rw [plan_map_asked] at hpart hcomplete
    rw [← hcalls] at hpart hcomplete
    refine ⟨hpart, ?_, hcomplete, ?_⟩
    · rw [hcalls]
      exact services.carryOut_cut w _ _ _
    · intro heedless cancelled
      refine ⟨({ s with cancelled } : Session).calls options, init_trace _ invoker options, ?_⟩
      exact s.calls_asked_of_heedless options w services hw hservices heedless cancelled

end WorkspaceSession.Session
