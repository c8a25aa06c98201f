import WorkspaceSession.Proofs.InitCalls

/-! What collaborators replied to the calls of an initialisation. A call of the plan is made once at
most, and all hooks, clients, messages and warnings but those of the cache check come from them. -/
namespace WorkspaceSession

structure Replies where
  starts : List (Reply TelemetryHook) := []
  installs : List (Reply InstallReport) := []
  connects : List Connection := []

namespace Replies

def startFaults (r : Replies) : List ErrorChain := r.starts.filterMap (·.outcome.cause?)

def hooks (r : Replies) : List TelemetryHook := r.starts.filterMap (·.outcome.value?)

def reports (r : Replies) : List InstallReport := r.installs.filterMap (·.outcome.value?)

def clients (r : Replies) : List ClientSpec := r.connects.filterMap (·.outcome.value?)

end Replies

namespace Services

def startReply? (services : Services) (moment : Nat) : Event → Option (Reply TelemetryHook)
  | .telemetryStart app => some (services.telemetry moment app)
  | _ => none

def installReply? (services : Services) (w : Workspace) (moment : Nat) :
    Event → Option (Reply InstallReport)
  | .install _ force cancelled => some (services.installer moment w force cancelled)
  | _ => none

def replies (services : Services) (w : Workspace) (moment : Nat) (calls : List Event) :
    Replies where
  starts := gather services.startReply? moment calls
  installs := gather (services.installReply? w) moment calls
  connects := gather services.connection? moment calls

section

variable (services : Services) (w : Workspace) (moment : Nat) (calls : List Event)

/-- What is taken from the answers comes from the replies to one kind of call. -/
theorem filterMap_answers_eq (take : Answer → Option β) (pick : Nat → Event → Option α)
    (keep : α → Option β)
    (htake : ∀ moment e, take (services.answer w moment e) = (pick moment e).bind keep) :
    (services.answers w moment calls).filterMap take =
      (gather pick moment calls).filterMap keep := by
  unfold answers gather
  rw [List.filterMap_map, List.filterMap_filterMap]
  congr 1
  funext ⟨call, moment⟩
  exact htake moment call

theorem answers_hooks :
    (services.answers w moment calls).filterMap Answer.hook =
      (services.replies w moment calls).hooks := by
  apply filterMap_answers_eq
  intro moment e
  cases e <;> rfl

theorem answers_made :
    (services.answers w moment calls).filterMap Answer.made =
      (services.replies w moment calls).clients := by
  apply filterMap_answers_eq
  intro moment e
  cases e <;> rfl

theorem answers_messages :
    (services.answers w moment calls).flatMap Answer.messages =
      (services.replies w moment calls).connects.flatMap Connection.texts := by
  induction calls generalizing moment with
  | nil => rfl
  | cons e calls ih =>
    simp only [replies] at ih ⊢
    rw [answers_cons, List.flatMap_cons, gather_cons, List.flatMap_append, ih]
    cases e <;> simp [answer, connection?]

/-- By induction over the calls: once an install was called, no start of telemetry comes. -/
theorem answers_warnings
    (ordered : calls.Pairwise fun e e' => e.isInstall → e'.isTelemetryStart = false) :
    (services.answers w moment calls).flatMap Answer.warnings =
      (services.replies w moment calls).startFaults.map ErrorChain.outermost ++
        (services.replies w moment calls).reports.flatMap InstallReport.failures := by
  induction calls generalizing moment with
  | nil => rfl
  | cons e calls ih =>
    obtain ⟨hfirst, ordered⟩ := List.pairwise_cons.mp ordered
    have ih := ih (moment + 1) ordered
    simp only [replies, Replies.startFaults, Replies.reports] at ih ⊢
    simp only [answers_cons, List.flatMap_cons, ih, gather_cons, List.filterMap_append]
    cases e with
    | telemetryStart app =>
      cases houtcome : (services.telemetry moment app).outcome <;>
        simp [answer, startReply?, installReply?, houtcome, Outcome.cause?]
    | install root force cancelled =>
      have hstarts : gather services.startReply? (moment + 1) calls = [] := by
        apply gather_eq_nil
        intro call hcall moment
        have hcall := hfirst call hcall rfl
        cases call <;> simp [Event.isTelemetryStart, startReply?] at hcall ⊢
      rw [hstarts]
      cases houtcome : (services.installer moment w force cancelled).outcome <;>
        simp [answer, startReply?, installReply?, houtcome, Outcome.value?]
    | _ => simp [answer, startReply?, installReply?]

end

end Services

structure Answer.Bare (answer : Answer) : Prop where
  hook : answer.hook = none
  made : answer.made = none
  messages : answer.messages = []

theorem Client.checked_bare (client : Client) (settings : Settings) (moment : Nat) :
    (client.checked settings moment).Bare := by
  unfold checked
  simp only
  split <;> exact ⟨rfl, rfl, rfl⟩

namespace Session

def replies (s : Session) (calls : List Event) : Replies :=
  match s.workspace, s.services with
  | some w, some services => services.replies w s.moment calls
  | _, _ => {}

/-- The answers to the calls of an initialisation, without what it finds out by itself. -/
def answered (options : ClientOptions) (s : Session) : List Answer :=
  match s.workspace, s.services with
  | some w, some services => services.answers w s.moment (s.calls options)
  | _, _ => []

theorem calls_pairwise (s : Session) (options : ClientOptions) (R : Event → Event → Prop)
    (hasked : ∀ e e' : Event, R e.asked e'.asked → R e e')
    (hplan : ∀ w, (s.plan w options).Pairwise R) : (s.calls options).Pairwise R := by
  unfold calls
  split
  · rename_i w services _ _
    have hpart := services.carryOut_asked_prefix w (s.plan w options) s.moment s.cancelled
    rw [plan_map_asked] at hpart
    have hcalls := (hplan w).sublist hpart.sublist
    rw [List.pairwise_map] at hcalls
    exact hcalls.imp fun h => hasked _ _ h
  · exact List.Pairwise.nil

theorem answered_of_ready (services : Services) (w : Workspace) (s : Session)
    (options : ClientOptions) (hw : s.workspace = some w) (hservices : s.services = some services) :
    s.answered options = services.answers w s.moment (s.calls options) := by
  simp only [answered, hw, hservices]

theorem closing_bare (s : Session) (moment : Nat) (answers : List Answer) :
    (s.closing moment answers).Bare := by
  unfold closing
  split
  · exact ⟨rfl, rfl, rfl⟩
  · cases latest Client.mk s.clients (answers.filterMap Answer.made) with
    | none => exact ⟨rfl, rfl, rfl⟩
    | some client => exact client.checked_bare _ _

theorem answers_eq_append (s : Session) (options : ClientOptions) :
    ∃ finding, s.answers options = s.answered options ++ finding ∧
      ∀ answer ∈ finding, answer.Bare := by
  have hbare (text : String) :
      ∀ answer ∈ [({ halt := some (.fatal (.invalidState text)) } : Answer)], answer.Bare := by
    intro answer hanswer
    obtain rfl := List.mem_singleton.mp hanswer
    exact ⟨rfl, rfl, rfl⟩
  cases hw : s.workspace with
  | none =>
    simp only [answers, answersTo, answered, hw]
    exact ⟨_, rfl, hbare _⟩
  | some w =>
    cases hservices : s.services with
    | none =>
      simp only [answers, answersTo, answered, hw, hservices]
      exact ⟨_, rfl, hbare _⟩
    | some services =>
      rw [answers, answersTo_of_ready services w s hw hservices,
        answered_of_ready services w s options hw hservices]
      refine ⟨_, rfl, ?_⟩
      intro answer hanswer
      split at hanswer
      · cases hanswer
      · obtain rfl := List.mem_singleton.mp hanswer
        exact s.closing_bare _ _

section

variable (s : Session) (options : ClientOptions)

theorem answered_hooks :
    (s.answered options).filterMap Answer.hook = (s.replies (s.calls options)).hooks := by
  unfold answered replies
  split
  · exact Services.answers_hooks _ _ _ _
  · rfl

theorem answered_made :
    (s.answered options).filterMap Answer.made = (s.replies (s.calls options)).clients := by
  unfold answered replies
  split
  · exact Services.answers_made _ _ _ _
  · rfl

theorem answered_messages :
    (s.answered options).flatMap Answer.messages =
      (s.replies (s.calls options)).connects.flatMap Connection.texts := by
  unfold answered replies
  split
  · exact Services.answers_messages _ _ _ _
  · rfl

theorem install_after_start : (s.calls options).Pairwise fun e e' =>
    e.isInstall → e'.isTelemetryStart = false := by
  apply calls_pairwise
  · intro e e' h
    cases e <;> cases e' <;> exact h
  · intro w
    unfold plan setUpPlan
    split <;> split <;> simp [Event.isInstall, Event.isTelemetryStart]

theorem answered_warnings :
    (s.answered options).flatMap Answer.warnings =
      (s.replies (s.calls options)).startFaults.map ErrorChain.outermost ++
        (s.replies (s.calls options)).reports.flatMap InstallReport.failures := by
  unfold answered replies
  split
  · exact Services.answers_warnings _ _ _ _ (s.install_after_start options)
  · rfl

theorem filterMap_answers_of_bare (take : Answer → Option α)
    (hbare : ∀ answer : Answer, answer.Bare → take answer = none) :
    (s.answers options).filterMap take = (s.answered options).filterMap take := by
  obtain ⟨finding, hanswers, hfinding⟩ := s.answers_eq_append options
  have hnone : finding.filterMap take = [] :=
    List.filterMap_eq_nil_iff.mpr fun answer hanswer => hbare answer (hfinding answer hanswer)
  rw [hanswers, List.filterMap_append, hnone, List.append_nil]

theorem answers_hooks :
    (s.answers options).filterMap Answer.hook = (s.replies (s.calls options)).hooks := by
  rw [filterMap_answers_of_bare s options Answer.hook fun _ bare => bare.hook, answered_hooks]

theorem answers_made :
    (s.answers options).filterMap Answer.made = (s.replies (s.calls options)).clients := by
  rw [filterMap_answers_of_bare s options Answer.made fun _ bare => bare.made, answered_made]

theorem answers_messages :
    (s.answers options).flatMap Answer.messages =
      (s.replies (s.calls options)).connects.flatMap Connection.texts := by
  obtain ⟨finding, hanswers, hfinding⟩ := s.answers_eq_append options
  have hnone : finding.flatMap Answer.messages = [] :=
    List.flatMap_eq_nil_iff.mpr fun answer hanswer => (hfinding answer hanswer).messages
  rw [hanswers, List.flatMap_append, hnone, List.append_nil, answered_messages]

theorem length_gather_calls_le (pick : Nat → Event → Option α) (gives : Event → Bool)
    (hgives : ∀ moment call, gives call = false → pick moment call = none)
    (hasked : ∀ e : Event, gives e.asked = gives e)
    (hplan : ∀ w, (s.plan w options).countP gives ≤ 1) (moment : Nat) :
    (gather pick moment (s.calls options)).length ≤ 1 :=
  Nat.le_trans (length_gather_le pick gives moment _ hgives)
    (s.countP_calls_le options gives hasked 1 hplan)

theorem length_replies_le :
    (s.replies (s.calls options)).starts.length ≤ 1 ∧
      (s.replies (s.calls options)).installs.length ≤ 1 ∧
      (s.replies (s.calls options)).connects.length ≤ 1 := by
  unfold replies
  split
  · refine ⟨?_, ?_, ?_⟩
    · apply length_gather_calls_le s options _ Event.isTelemetryStart
      · intro moment call hcall
        cases call <;> simp [Event.isTelemetryStart, Services.startReply?] at hcall ⊢
      · intro e
        cases e <;> rfl
      · intro w
        unfold plan setUpPlan
        split <;> split <;> simp [List.countP_cons, Event.isTelemetryStart]
    · apply length_gather_calls_le s options _ Event.isInstall
      · intro moment call hcall
        cases call <;> simp [Event.isInstall, Services.installReply?] at hcall ⊢
      · intro e
        cases e <;> rfl
      · intro w
        unfold plan setUpPlan
        split <;> split <;> simp [List.countP_cons, Event.isInstall]
    · apply length_gather_calls_le s options _ Event.isConnect
      · intro moment call hcall
        cases call <;> simp [Event.isConnect, Services.connection?] at hcall ⊢
      · intro e
        cases e <;> rfl
      · intro w
        unfold plan setUpPlan
        split <;> split <;> simp [List.countP_cons, Event.isConnect]
  · exact ⟨Nat.zero_le _, Nat.zero_le _, Nat.zero_le _⟩

end

end Session
end WorkspaceSession
