import WorkspaceSession.Proofs.InitError
import WorkspaceSession.Proofs.Replies

/-! The two ways in which the calls of an initialisation come out. One that gets a client has
nothing left to do but to check the cache settings, and any other halts. -/
namespace WorkspaceSession

def SessionError.Clientless : SessionError → Prop
  | .invalidState _ | .install _ | .noConnectionString | .connection _ | .panicked _ => True
  | .workspace _ | .cacheSettings _ | .modRequirements _ | .cancelled => False

theorem Services.clientless_of_halt (services : Services) (w : Workspace) (moment : Nat)
    (calls : List Event) (halt : Halt)
    (hhalt : Answer.firstHalt (services.answers w moment calls) = some halt) :
    halt.toError.Clientless := by
  obtain ⟨answer, hanswer, hhalt⟩ := List.exists_of_findSome?_eq_some hhalt
  obtain ⟨⟨call, moment⟩, -, rfl⟩ := List.mem_map.mp hanswer
  cases halt with
  | panic payload => trivial
  | fatal error =>
    obtain ⟨cause, rfl | rfl⟩ := services.cause_of_fatal w moment call error hhalt <;> trivial

theorem Services.answers_client (services : Services) (w : Workspace) (moment : Nat)
    (calls : List Event) : (services.answers w moment calls).filterMap Answer.client = [] := by
  rw [List.filterMap_eq_nil_iff]
  intro answer hanswer
  obtain ⟨⟨call, moment⟩, -, rfl⟩ := List.mem_map.mp hanswer
  cases call <;> rfl

namespace Session

/-- The moment at which the client that calls gave is asked about its server. -/
def checkMoment (s : Session) (calls : List Event) : Nat :=
  s.moment + calls.length + (s.relayed calls).length

/-- How the calls of an initialisation come out: a client is made, and then its cache settings are
checked, or the initialisation halts without one. -/
inductive Ending (options : ClientOptions) (s : Session) : Prop where
  | connected (spec : ClientSpec)
      (made : (s.answered options).filterMap Answer.made = [spec])
      (unhalted : Answer.firstHalt (s.answered options) = none)
      (found : s.answers options = s.answered options ++
        [Client.checked ⟨s.clients, spec⟩ s.settings (s.checkMoment (s.calls options))])
  | halted (halt : Halt) (made : (s.answered options).filterMap Answer.made = [])
      (clientless : halt.toError.Clientless)
      (firstHalt : Answer.firstHalt (s.answers options) = some halt)
      (client : (s.answers options).filterMap Answer.client = [])
      (warnings : (s.answers options).flatMap Answer.warnings =
        (s.answered options).flatMap Answer.warnings)

section

variable (services : Services) (w : Workspace) (s : Session) (options : ClientOptions)

theorem answered_client : (s.answered options).filterMap Answer.client = [] := by
  unfold answered
  split
  · exact Services.answers_client _ _ _ _
  · rfl

section

variable {s options} {spec : ClientSpec} (found : s.answers options = s.answered options ++
  [Client.checked ⟨s.clients, spec⟩ s.settings (s.checkMoment (s.calls options))])

include found

theorem firstHalt_of_found (unhalted : Answer.firstHalt (s.answered options) = none) :
    Answer.firstHalt (s.answers options) =
      (Client.checked ⟨s.clients, spec⟩ s.settings (s.checkMoment (s.calls options))).halt := by
  rw [found, Answer.firstHalt_append, unhalted, Option.none_or, Answer.firstHalt_cons,
    Answer.firstHalt_nil, Option.or_none]

theorem client_of_found :
    (s.answers options).filterMap Answer.client =
      (Client.checked ⟨s.clients, spec⟩ s.settings
        (s.checkMoment (s.calls options))).client.toList := by
  rw [found, List.filterMap_append, answered_client, List.nil_append, List.filterMap_cons]
  cases (Client.checked ⟨s.clients, spec⟩ s.settings (s.checkMoment (s.calls options))).client with
  | none => rfl
  | some client => rfl

end

theorem answers_of_halted (hw : s.workspace = some w) (hservices : s.services = some services)
    (halt : Halt) (hhalt : Answer.firstHalt (s.answered options) = some halt) :
    s.answers options = s.answered options := by
  rw [answered_of_ready services w s options hw hservices] at hhalt ⊢
  rw [answers, answersTo_of_ready services w s hw hservices]
  simp [hhalt]

theorem answers_of_unhalted (hw : s.workspace = some w) (hservices : s.services = some services)
    (hhalt : Answer.firstHalt (s.answered options) = none) :
    s.answers options = s.answered options ++
      [s.closing (s.checkMoment (s.calls options)) (s.answered options)] := by
  rw [answered_of_ready services w s options hw hservices] at hhalt ⊢
  rw [answers, answersTo_of_ready services w s hw hservices, checkMoment,
    relayed_of_ready services s hservices]
  simp [hhalt]

theorem Ending.of_halt (hw : s.workspace = some w) (hservices : s.services = some services)
    (halt : Halt) (made : (s.answered options).filterMap Answer.made = [])
    (hhalt : Answer.firstHalt (s.answered options) = some halt) : Ending options s := by
  have hanswers := answers_of_halted services w s options hw hservices halt hhalt
  have hclientless : halt.toError.Clientless := by
    rw [answered_of_ready services w s options hw hservices] at hhalt
    exact services.clientless_of_halt w _ _ halt hhalt
  apply Ending.halted halt made hclientless
  · rw [hanswers, hhalt]
  · rw [hanswers, answered_client]
  · rw [hanswers]

theorem ending_of_no_connectionString (hw : s.workspace = some w)
    (hservices : s.services = some services)
    (htext : s.settings.getText Settings.connectionString = "") :
    Ending options s := by
  have hmade : (s.answered options).filterMap Answer.made = [] := by
    rw [answered_of_ready services w s options hw hservices,
      calls_of_ready services w s options hw hservices]
    apply services.made_of_no_connect
    exact services.isConnect_carryOut w _ (s.isConnect_plan w options htext) _ _
  cases hhalt : Answer.firstHalt (s.answered options) with
  | some halt => exact .of_halt services w s options hw hservices halt hmade hhalt
  | none =>
    have hanswers := answers_of_unhalted services w s options hw hservices hhalt
    simp only [closing, htext, ↓reduceIte] at hanswers
    apply Ending.halted (.fatal .noConnectionString) hmade trivial
    · rw [hanswers, Answer.firstHalt_append, hhalt]
      rfl
    · rw [hanswers, List.filterMap_append, answered_client]
      rfl
    · rw [hanswers]
      simp

/-- The plan ends with the connect, so whatever halts before it leaves no client. -/
theorem ending_of_connectionString (hw : s.workspace = some w)
    (hservices : s.services = some services)
    (htext : s.settings.getText Settings.connectionString ≠ "") :
    Ending options s := by
  obtain ⟨-, opened, -, concludes⟩ :=
    opening_of_connectionString services w s options hw hservices htext
  rw [← answered_of_ready services w s options hw hservices] at concludes
  cases opened with
  | error halt =>
    obtain ⟨hhalt, hmade⟩ := concludes
    exact .of_halt services w s options hw hservices halt hmade hhalt
  | ok client =>
    obtain ⟨hhalt, hmade, -⟩ := concludes
    apply Ending.connected client.spec hmade hhalt
    rw [answers_of_unhalted services w s options hw hservices hhalt, closing, if_neg htext, hmade,
      latest_singleton]
    rfl

end

theorem ending_of_unready (s : Session) (options : ClientOptions) (text : String)
    (hanswered : s.answered options = [])
    (hanswers : s.answers options = [{ halt := some (.fatal (.invalidState text)) }]) :
    Ending options s := by
  apply Ending.halted (.fatal (.invalidState text)) _ trivial
  · rw [hanswers]
    rfl
  · rw [hanswers]
    rfl
  · rw [hanswers, hanswered]
    rfl
  · rw [hanswered]
    rfl

theorem ending (s : Session) (options : ClientOptions) : Ending options s := by
  cases hw : s.workspace with
  | none =>
    apply ending_of_unready s options "init called before setting up workspace"
    · simp only [answered, hw]
    · simp only [answers, answersTo, hw]
  | some w =>
    cases hservices : s.services with
    | none =>
      apply ending_of_unready s options "init called on an instance that already failed"
      · simp only [answered, hw, hservices]
      · simp only [answers, answersTo, hw, hservices]
    | some services =>
      by_cases htext : s.settings.getText Settings.connectionString = ""
      · exact ending_of_no_connectionString services w s options hw hservices htext
      · exact ending_of_connectionString services w s options hw hservices htext

end Session
end WorkspaceSession
