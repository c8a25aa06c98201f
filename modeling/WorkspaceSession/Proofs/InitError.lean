import WorkspaceSession.Proofs.InitCourse

/-! The error after an initialisation. What fails in it comes first, then the error from before,
then the cancellation; a telemetry that does not start plays no part. -/
namespace WorkspaceSession

def Answer.error? (answer : Answer) : Option SessionError :=
  match answer.halt with
  | none => none
  | some (.fatal error) => some error
  | some (.panic (.text text)) => some (.panicked text)
  | some (.panic .other) => some (.panicked "unknown panic")

theorem Answer.error?_eq (answer : Answer) : answer.error? = answer.halt.map Halt.toError := by
  unfold error?
  rcases answer.halt with _ | error | text | _ <;> rfl

def SessionError.OfStage : SessionError → Prop
  | .invalidState _ | .install _ | .noConnectionString | .connection _ | .cacheSettings _
  | .panicked _ => True
  | .workspace _ | .modRequirements _ | .cancelled => False

theorem Answer.findSome?_error? (answers : List Answer) :
    answers.findSome? Answer.error? = (firstHalt answers).map Halt.toError := by
  unfold firstHalt
  rw [List.map_findSome?]
  congr 1
  funext answer
  exact answer.error?_eq

theorem Outcome.exists_cause_of_fatal (outcome : Outcome α)
    (fatal : ErrorChain → Option SessionError) (error : SessionError)
    (h : outcome.halt? fatal = some (.fatal error)) : ∃ cause, fatal cause = some error := by
  cases outcome with
  | done value => simp [halt?] at h
  | failed cause => exact ⟨cause, by simpa [halt?] using h⟩
  | panicked payload => simp [halt?] at h

theorem Services.cause_of_fatal (services : Services) (w : Workspace) (moment : Nat) (e : Event)
    (error : SessionError) (hhalt : (services.answer w moment e).halt = some (.fatal error)) :
    ∃ cause, error = .install cause ∨ error = .connection cause := by
  cases e with
  | notice n => simp [answer] at hhalt
  | telemetryStart app =>
    obtain ⟨cause, hcause⟩ := Outcome.exists_cause_of_fatal _ _ _ hhalt
    simp at hcause
  | install root force cancelled =>
    obtain ⟨cause, hcause⟩ := Outcome.exists_cause_of_fatal _ _ _ hhalt
    exact ⟨cause, .inl (Option.some.inj hcause).symm⟩
  | connect text cancelled options =>
    obtain ⟨cause, hcause⟩ := Outcome.exists_cause_of_fatal _ _ _ hhalt
    exact ⟨cause, .inr (Option.some.inj hcause).symm⟩
  | _ => simp [answer] at hhalt

theorem Services.answer_ofStage (services : Services) (w : Workspace) (moment : Nat) (e : Event)
    (error : SessionError) (herror : (services.answer w moment e).error? = some error) :
    error.OfStage := by
  rw [Answer.error?_eq] at herror
  obtain ⟨halt, hhalt, rfl⟩ := Option.map_eq_some_iff.mp herror
  cases halt with
  | panic payload => trivial
  | fatal error =>
    obtain ⟨cause, rfl | rfl⟩ := services.cause_of_fatal w moment e error hhalt <;> trivial

theorem ServerSettings.exists_text_of_check (server : ServerSettings) (settings : Settings)
    (error : SessionError) (herror : (server.check settings).error = some error) :
    ∃ text, error = .cacheSettings text := by
  simp only [check, Findings.merge, Option.none_or] at herror
  simp only [ttlFindings] at herror
  split at herror
  · split at herror
    · exact ⟨_, (Option.some.inj herror).symm⟩
    · split at herror <;> simp at herror
  · simp at herror

namespace Session

/-- The error of what fails first among the calls made, and after them. -/
def failure? (s : Session) (calls : List Event) : Option SessionError :=
  (s.answersTo calls).findSome? Answer.error?

def cancelledBy (s : Session) (calls : List Event) : Bool :=
  (s.answersTo calls).any Answer.cancels

theorem checked_ofStage (client : Client) (settings : Settings) (moment : Nat)
    (error : SessionError) (herror : (client.checked settings moment).error? = some error) :
    error.OfStage := by
  rw [Answer.error?_eq] at herror
  simp only [Client.checked] at herror
  split at herror
  · obtain rfl := Option.some.inj herror
    trivial
  · next server _ =>
    cases server with
    | none => simp at herror
    | some server =>
      simp only [Option.map_some, Option.getD_some, Option.map_map,
        Option.map_eq_some_iff] at herror
      obtain ⟨found, hfound, rfl⟩ := herror
      obtain ⟨text, rfl⟩ := server.exists_text_of_check settings found hfound
      trivial

theorem closing_ofStage (s : Session) (moment : Nat) (answers : List Answer) (error : SessionError)
    (herror : (s.closing moment answers).error? = some error) : error.OfStage := by
  unfold closing at herror
  split at herror
  · obtain rfl := Option.some.inj herror
    trivial
  · cases hclient : latest Client.mk s.clients (answers.filterMap Answer.made) with
    | none => simp [hclient, Answer.error?] at herror
    | some client =>
      simp only [hclient, Option.map_some, Option.getD_some] at herror
      exact checked_ofStage client _ _ error herror

theorem failure?_ofStage (s : Session) (calls : List Event) (error : SessionError)
    (herror : s.failure? calls = some error) : error.OfStage := by
  obtain ⟨answer, hanswer, herror⟩ := List.exists_of_findSome?_eq_some herror
  unfold answersTo at hanswer
  split at hanswer
  · obtain rfl := List.mem_singleton.mp hanswer
    obtain rfl := Option.some.inj herror
    trivial
  · obtain rfl := List.mem_singleton.mp hanswer
    obtain rfl := Option.some.inj herror
    trivial
  · rcases List.mem_append.mp hanswer with hanswer | hanswer
    · obtain ⟨⟨call, moment⟩, -, rfl⟩ := List.mem_map.mp hanswer
      exact Services.answer_ofStage _ _ _ _ _ herror
    · split at hanswer
      · contradiction
      · obtain rfl := List.mem_singleton.mp hanswer
        exact closing_ofStage _ _ _ _ herror

end Session

def Answer.course (answer : Answer) : Answer := { answer with hook := none, warnings := [] }

namespace Services

/-- The same collaborators, but a telemetry that would fail to start starts with the hook. -/
def startingTelemetry (services : Services) (hook : TelemetryHook) : Services :=
  { services with
    telemetry := fun moment app =>
      let reply := services.telemetry moment app
      match reply.outcome with
      | .failed _ => { reply with outcome := .done hook }
      | _ => reply }

theorem answer_startingTelemetry (services : Services) (hook : TelemetryHook) (w : Workspace)
    (moment : Nat) (e : Event) :
    ((services.startingTelemetry hook).answer w moment e).course =
      (services.answer w moment e).course := by
  cases e with
  | telemetryStart app =>
    simp only [answer, startingTelemetry]
    cases houtcome : (services.telemetry moment app).outcome <;>
      simp [Answer.course, Outcome.halt?, houtcome]
  | _ => rfl

section

variable {services others : Services} {w : Workspace}
  (agree : ∀ moment e, (others.answer w moment e).course = (services.answer w moment e).course)

include agree

theorem carryOut_of_course (moment : Nat) (cancelled : Bool) (plan : List Event) :
    others.carryOut w moment cancelled plan = services.carryOut w moment cancelled plan := by
  induction plan generalizing moment cancelled with
  | nil => rfl
  | cons e plan ih =>
    have hcourse := agree moment (e.withToken cancelled)
    have hhalt := congrArg Answer.halt hcourse
    have hcancels := congrArg Answer.cancels hcourse
    simp only [Answer.course] at hhalt hcancels
    simp only [carryOut, hhalt, hcancels, ih]

theorem answers_of_course (moment : Nat) (calls : List Event) :
    (others.answers w moment calls).map Answer.course =
      (services.answers w moment calls).map Answer.course := by
  simp [answers, agree]

end

end Services

namespace Session

theorem closing_course (s : Session) (moment : Nat) (answers : List Answer) :
    s.closing moment (answers.map Answer.course) = s.closing moment answers := by
  unfold closing
  rw [List.filterMap_map]
  rfl

theorem firstHalt_course (answers : List Answer) :
    Answer.firstHalt (answers.map Answer.course) = Answer.firstHalt answers := by
  unfold Answer.firstHalt
  rw [List.findSome?_map]
  rfl

theorem error?_course (answers : List Answer) :
    (answers.map Answer.course).findSome? Answer.error? = answers.findSome? Answer.error? := by
  rw [List.findSome?_map]
  rfl

theorem cancels_course (answers : List Answer) :
    (answers.map Answer.course).any Answer.cancels = answers.any Answer.cancels := by
  rw [List.any_map]
  rfl

def startingTelemetry (hook : TelemetryHook) (s : Session) : Session :=
  { s with services := s.services.map fun services => services.startingTelemetry hook }

section

variable (hook : TelemetryHook) (s : Session)

theorem calls_startingTelemetry (options : ClientOptions) :
    (s.startingTelemetry hook).calls options = s.calls options := by
  unfold calls startingTelemetry
  cases s.workspace with
  | none => rfl
  | some w =>
    cases s.services with
    | none => rfl
    | some services =>
      exact Services.carryOut_of_course (services.answer_startingTelemetry hook w) _ _ _

theorem answersTo_startingTelemetry (calls : List Event) :
    ((s.startingTelemetry hook).answersTo calls).map Answer.course =
      (s.answersTo calls).map Answer.course := by
  cases hw : s.workspace with
  | none => simp only [answersTo, startingTelemetry, hw]
  | some w =>
    cases hservices : s.services with
    | none => simp only [answersTo, startingTelemetry, hw, hservices, Option.map_none]
    | some services =>
      have hcourse := Services.answers_of_course (services.answer_startingTelemetry hook w)
        s.moment calls
      have hothers : (s.startingTelemetry hook).services =
          some (services.startingTelemetry hook) := by
        simp only [startingTelemetry, hservices, Option.map_some]
      have hmoment : (s.startingTelemetry hook).moment = s.moment := rfl
      have hrelayed : (services.startingTelemetry hook).relayed s.moment calls =
          services.relayed s.moment calls := rfl
      have hclosing : (s.startingTelemetry hook).closing = s.closing := rfl
      rw [answersTo_of_ready services w s hw hservices,
        answersTo_of_ready _ w (s.startingTelemetry hook) hw hothers]
      simp only [hmoment, hrelayed, hclosing, List.map_append, hcourse]
      rw [← firstHalt_course, hcourse, firstHalt_course, ← closing_course, hcourse, closing_course]

theorem failure?_startingTelemetry (calls : List Event) :
    (s.startingTelemetry hook).failure? calls = s.failure? calls := by
  unfold failure?
  rw [← error?_course, answersTo_startingTelemetry, error?_course]

theorem cancelledBy_startingTelemetry (calls : List Event) :
    (s.startingTelemetry hook).cancelledBy calls = s.cancelledBy calls := by
  unfold cancelledBy
  rw [← cancels_course, answersTo_startingTelemetry, cancels_course]

end

theorem init_error_eq (s : Session) (invoker : Invoker) (options : ClientOptions) :
    (s.init invoker options).result.error =
      (s.failure? (s.calls options)).or (s.result.error.or
        (if s.cancelled || s.cancelledBy (s.calls options) then some .cancelled else none)) := by
  obtain ⟨log, hinit⟩ := s.init_eq invoker options
  rw [hinit, failure?, Answer.findSome?_error?]
  rfl

theorem init_cancelled (s : Session) (invoker : Invoker) (options : ClientOptions) :
    (s.init invoker options).cancelled = (s.cancelled || s.cancelledBy (s.calls options)) := by
  obtain ⟨log, hinit⟩ := s.init_eq invoker options
  rw [hinit]
  rfl

theorem init_error_startingTelemetry (hook : TelemetryHook) (s : Session) (invoker : Invoker)
    (options : ClientOptions) :
    ((s.startingTelemetry hook).init invoker options).result.error =
      (s.init invoker options).result.error := by
  rw [init_error_eq, init_error_eq, calls_startingTelemetry, failure?_startingTelemetry,
    cancelledBy_startingTelemetry]
  rfl

/-- The error after an initialisation is that of what failed first in it, whatever was there
before; else the error from before; else the cancellation, if there was one by the end. A telemetry
that starts in place of one that fails to start changes nothing of it. -/
theorem init_error (s : Session) (invoker : Invoker) (options : ClientOptions) :
    ∃ calls, (s.init invoker options).trace = s.trace ++ calls ++ s.relayed calls ∧
      (s.init invoker options).cancelled = (s.cancelled || s.cancelledBy calls) ∧
      (∀ error, s.failure? calls = some error → error.OfStage) ∧
      (s.init invoker options).result.error =
        (s.failure? calls).or (s.result.error.or
          (if (s.init invoker options).cancelled then some .cancelled else none)) ∧
      ∀ hook, ((s.startingTelemetry hook).init invoker options).result.error =
        (s.init invoker options).result.error := by
  refine ⟨s.calls options, s.init_trace invoker options, s.init_cancelled invoker options, ?_, ?_,
    ?_⟩
  · intro error herror
    exact s.failure?_ofStage _ error herror
  · rw [init_cancelled]
    exact s.init_error_eq invoker options
  · intro hook
    exact init_error_startingTelemetry hook s invoker options

end Session
end WorkspaceSession
