import WorkspaceSession.Program
import WorkspaceSession.Proofs.Fallible
import WorkspaceSession.Proofs.InitEnding

/-! The sessions of the program. Its collaborators neither cancel nor change their minds, so what
halts an initialisation can be read off the plan: a lock that is missing, a connection string that
is missing or names no endpoint, and an endpoint where nobody answers. -/
namespace WorkspaceSession

theorem findSome?_cons_or (f : α → Option β) (a : α) (as : List α) :
    (a :: as).findSome? f = (f a).or (as.findSome? f) := by
  rw [List.findSome?_cons]
  cases f a <;> rfl

namespace Services

structure Steady (services : Services) (w : Workspace) : Prop where
  moment : ∀ moment e, services.answer w moment e = services.answer w 0 e
  calm : ∀ moment e, (services.answer w moment e).cancels = false

variable {services : Services} {w : Workspace}

theorem Steady.firstHalt_carryOut (steady : services.Steady w) (plan : List Event) (moment : Nat) :
    Answer.firstHalt (services.answers w moment (services.carryOut w moment false plan)) =
      plan.findSome? fun e => (services.answer w 0 e.asked).halt := by
  induction plan generalizing moment with
  | nil => rfl
  | cons e plan ih =>
    simp only [carryOut, answers_cons, Answer.firstHalt_cons, steady.calm, Bool.or_false,
      List.findSome?_cons, Event.asked]
    rw [steady.moment moment]
    cases hhalt : (services.answer w 0 (e.withToken false)).halt with
    | some halt => rfl
    | none =>
      simp only [Option.isSome_none, Bool.false_eq_true, ↓reduceIte, Option.none_or]
      exact ih (moment + 1)

theorem Steady.any_cancels (steady : services.Steady w) (calls : List Event) (moment : Nat) :
    (services.answers w moment calls).any Answer.cancels = false := by
  rw [List.any_eq_false]
  intro answer hanswer
  obtain ⟨⟨call, moment⟩, -, rfl⟩ := List.mem_map.mp hanswer
  rw [steady.calm]
  exact Bool.false_ne_true

end Services

def Endpoint.refusal? (e : Endpoint) : Except HostError Unit → Option SessionError
  | .error cause => some (.connection ⟨"Failed to connect to " ++ e.address, [cause.message]⟩)
  | .ok () => none

/-- What of a workspace decides how a session with it ends: where it is, whether it has a lock, and
the plugin needs that the lock leaves unmet. The mod needs are not among it. -/
structure Standing where
  path : String
  locked : Bool
  violations : List String

def Workspace.standing (w : Workspace) : Standing :=
  ⟨w.path, w.lock.isSome, w.root.treeMessages w.pluginVersions⟩

def Standing.endpoint (st : Standing) (installs : Bool) (connectionString : String) :
    Except SessionError Endpoint :=
  if installs && !st.locked then .error (.install (InstallError.noLock st.path).toChain)
  else if connectionString = "" then .error .noConnectionString
  else (Endpoint.parse connectionString).mapError fun e => .connection e.toChain

def Standing.obstacle? (st : Standing) (installs : Bool) (connectionString : String)
    (answers : (address : String) → Except HostError Unit) : Option SessionError :=
  match st.endpoint installs connectionString with
  | .error e => some e
  | .ok endpoint => endpoint.refusal? (answers endpoint.address)

theorem Workspace.standing_endpoint (w : Workspace) (installs : Bool) (text : String) :
    w.standing.endpoint installs text =
      if installs && !w.lock.isSome then .error (.install (InstallError.noLock w.path).toChain)
      else if text = "" then .error .noConnectionString
      else (Endpoint.parse text).mapError fun e => .connection e.toChain := rfl

namespace Program

section

variable (env : TelemetryEnv) (answers shutdowns : (address : String) → Except HostError Unit)
  (w : Workspace)

theorem connect_cancels (text : String) (cancelled : Bool) :
    (Endpoint.connect answers shutdowns text cancelled none).cancels = false := by
  unfold Endpoint.connect
  split
  · rfl
  · split
    · rfl
    · split <;> rfl

theorem serverSettings_of_connect (text : String) (cancelled : Bool) (spec : ClientSpec)
    (hspec : (Endpoint.connect answers shutdowns text cancelled none).outcome.value? = some spec)
    (moment : Nat) : spec.serverSettings moment = { outcome := .ok none } := by
  unfold Endpoint.connect at hspec
  split at hspec
  · simp [Outcome.value?] at hspec
  · split at hspec
    · simp [Outcome.value?] at hspec
    · split at hspec
      · simp [Outcome.value?] at hspec
      · obtain rfl := Option.some.inj hspec
        rfl

theorem services_connect (moment : Nat) (text : String) (cancelled : Bool)
    (options : ClientOptions) :
    (services env answers).connect .rendering none moment text cancelled options =
      Endpoint.connect answers (fun _ => .ok ()) text cancelled none := by
  rw [Services.connect_of_calm _ rfl]
  simp only [services, Option.isSome_none, Bool.and_false]
  unfold Endpoint.connect
  split
  · rfl
  · split
    · rfl
    · split <;> rfl

theorem services_steady : (services env answers).Steady w where
  moment := by
    intro moment e
    cases e with
    | connect text cancelled options => simp only [Services.answer, services_connect]
    | _ => rfl
  calm := by
    intro moment e
    cases e with
    | telemetryStart app =>
      simp only [Services.answer, services, TelemetryEnv.service]
      split <;> rfl
    | install root force cancelled =>
      simp only [Services.answer, services, Workspace.installService]
      split <;> rfl
    | connect text cancelled options =>
      simp only [Services.answer, services_connect]
      exact connect_cancels answers _ text cancelled
    | _ => rfl

def haltAt (e : Event) : Option Halt := ((services env answers).answer w 0 e).halt

theorem haltAt_notice (n : Notice) : haltAt env answers w (.notice n) = none := rfl

theorem haltAt_telemetryStart (app : String) :
    haltAt env answers w (.telemetryStart app) = none := by
  simp only [haltAt, Services.answer, services, TelemetryEnv.service]
  split <;> rfl

theorem haltAt_install (root : String) :
    haltAt env answers w (.install root true false) =
      if !w.lock.isSome then some (.fatal (.install (InstallError.noLock w.path).toChain))
      else none := by
  simp only [haltAt, Services.answer, services, Workspace.installService, Workspace.install]
  cases w.lock with
  | none => rfl
  | some lock =>
    simp only [Bool.not_true, Bool.and_false, Bool.false_eq_true, ↓reduceIte]
    rfl

theorem haltAt_connect (text : String) (options : ClientOptions) :
    haltAt env answers w (.connect text false options) =
      match Endpoint.parse text with
      | .error e => some (.fatal (.connection e.toChain))
      | .ok endpoint => (endpoint.refusal? (answers endpoint.address)).map .fatal := by
  simp only [haltAt, Services.answer, services_connect, Endpoint.connect]
  cases Endpoint.parse text with
  | error e => rfl
  | ok endpoint =>
    simp only [Bool.false_eq_true, ↓reduceIte, Endpoint.refusal?]
    cases answers endpoint.address <;> rfl

theorem plan_halt (s : Session) (options : ClientOptions) :
    (s.plan w options).findSome? (fun e => haltAt env answers w e.asked) =
      (if s.settings.getBool Settings.modInstall && !w.lock.isSome then
        some (.fatal (.install (InstallError.noLock w.path).toChain)) else none).or
      (if s.settings.getText Settings.connectionString = "" then none
        else match Endpoint.parse (s.settings.getText Settings.connectionString) with
          | .error e => some (.fatal (.connection e.toChain))
          | .ok endpoint => (endpoint.refusal? (answers endpoint.address)).map .fatal) := by
  unfold Session.plan Session.setUpPlan
  split <;> split <;>
    simp [*, findSome?_cons_or, Event.asked, Event.withToken, haltAt_notice,
      haltAt_telemetryStart, haltAt_install, haltAt_connect]

end

structure Ready (env : TelemetryEnv) (answers : (address : String) → Except HostError Unit)
    (w : Workspace) (s : Session) : Prop where
  workspace : s.workspace = some w
  services : s.services = some (Program.services env answers)
  uncancelled : s.cancelled = false
  unfailed : s.result.error = none
  fresh : s.trace = []

namespace Ready

variable {env : TelemetryEnv} {answers : (address : String) → Except HostError Unit}
  {w : Workspace} {s : Session}

/-- What is found out after the calls is only whether there was anything to connect to. -/
theorem closing_eq (ready : Ready env answers w s) (options : ClientOptions) (moment : Nat) :
    s.closing moment (s.answered options) =
      if s.settings.getText Settings.connectionString = "" then
        { halt := some (.fatal .noConnectionString) }
      else
        { client := latest Client.mk s.clients ((s.answered options).filterMap Answer.made) } := by
  unfold Session.closing
  congr 1
  cases hclient : latest Client.mk s.clients ((s.answered options).filterMap Answer.made) with
  | none => rfl
  | some client =>
    obtain ⟨spec, hmade, number, rfl⟩ := exists_mem_of_latest _ _ _ _ hclient
    rw [Session.answered_of_ready _ w s options ready.workspace ready.services] at hmade
    obtain ⟨answer, hanswer, hspec⟩ := List.mem_filterMap.mp hmade
    obtain ⟨⟨call, connectMoment⟩, -, rfl⟩ := List.mem_map.mp hanswer
    have htold : spec.serverSettings moment = { outcome := .ok none } := by
      cases call with
      | connect text cancelled options =>
        simp only [Services.answer, services_connect] at hspec
        exact serverSettings_of_connect answers _ text cancelled spec hspec moment
      | _ => simp [Services.answer] at hspec
    simp [Client.checked, htold]

theorem answers_eq (ready : Ready env answers w s) (options : ClientOptions) :
    s.answers options = s.answered options ++
      if (Answer.firstHalt (s.answered options)).isSome then []
      else [s.closing (s.checkMoment (s.calls options)) (s.answered options)] := by
  cases hhalt : Answer.firstHalt (s.answered options) with
  | some halt =>
    rw [Session.answers_of_halted _ w s options ready.workspace ready.services halt hhalt]
    simp
  | none =>
    rw [Session.answers_of_unhalted _ w s options ready.workspace ready.services hhalt]
    simp

theorem firstHalt_answers (ready : Ready env answers w s) (options : ClientOptions) :
    Answer.firstHalt (s.answers options) =
      ((s.plan w options).findSome? fun e => haltAt env answers w e.asked).or
        (if s.settings.getText Settings.connectionString = "" then
          some (.fatal .noConnectionString) else none) := by
  have hplan : Answer.firstHalt (s.answered options) =
      (s.plan w options).findSome? fun e => haltAt env answers w e.asked := by
    rw [Session.answered_of_ready _ w s options ready.workspace ready.services,
      Session.calls_of_ready _ w s options ready.workspace ready.services, ready.uncancelled]
    exact (services_steady env answers w).firstHalt_carryOut _ _
  rw [← hplan, ready.answers_eq, ready.closing_eq]
  cases hhalt : Answer.firstHalt (s.answered options) with
  | some halt => simp [hhalt]
  | none =>
    simp only [hhalt, Answer.firstHalt_append, Option.none_or, Option.isSome_none,
      Bool.false_eq_true, ↓reduceIte, Answer.firstHalt_cons, Answer.firstHalt_nil, Option.or_none]
    split <;> rfl

theorem any_cancels (ready : Ready env answers w s) (options : ClientOptions) :
    (s.answers options).any Answer.cancels = false := by
  have hanswered : (s.answered options).any Answer.cancels = false := by
    rw [Session.answered_of_ready _ w s options ready.workspace ready.services]
    exact (services_steady env answers w).any_cancels _ _
  rw [ready.answers_eq, ready.closing_eq, List.any_append, hanswered, Bool.false_or]
  split
  · rfl
  · split <;> rfl

theorem error_of_init (ready : Ready env answers w s) (invoker : Invoker)
    (options : ClientOptions) :
    (s.init invoker options).result.error =
      w.standing.obstacle? (s.settings.getBool Settings.modInstall)
        (s.settings.getText Settings.connectionString) answers := by
  have hcancels : s.cancelledBy (s.calls options) = false := ready.any_cancels options
  have hfailure : s.failure? (s.calls options) =
      (Answer.firstHalt (s.answers options)).map Halt.toError := Answer.findSome?_error? _
  rw [Session.init_error_eq, hfailure, ready.firstHalt_answers, ready.unfailed,
    ready.uncancelled, hcancels, plan_halt]
  unfold Standing.obstacle?
  rw [w.standing_endpoint]
  cases s.settings.getBool Settings.modInstall && !w.lock.isSome with
  | true => rfl
  | false =>
    by_cases htext : s.settings.getText Settings.connectionString = ""
    · simp only [htext, ↓reduceIte]
      rfl
    · simp only [htext, ↓reduceIte]
      cases Endpoint.parse (s.settings.getText Settings.connectionString) with
      | error e => rfl
      | ok endpoint =>
        cases hanswer : answers endpoint.address <;>
          simp [mapError_ok, Endpoint.refusal?, hanswer, Halt.toError]

theorem approach_halt (env : TelemetryEnv) (answers : (address : String) → Except HostError Unit)
    (w : Workspace) (s : Session) :
    Answer.firstHalt ((Program.services env answers).answers w s.moment
      ((Program.services env answers).carryOut w s.moment false (s.approach w))) =
      if s.settings.getBool Settings.modInstall && !w.lock.isSome then
        some (.fatal (.install (InstallError.noLock w.path).toChain)) else none := by
  rw [(services_steady env answers w).firstHalt_carryOut]
  change (s.approach w).findSome? (fun e => haltAt env answers w e.asked) = _
  unfold Session.approach Session.setUpPlan
  split <;>
    simp [*, findSome?_cons_or, Event.asked, Event.withToken, haltAt_notice,
      haltAt_telemetryStart, haltAt_install]

theorem dialled?_of_no_connect (calls : List Event)
    (hcalls : ∀ call ∈ calls, call.isConnect = false) : dialled? { trace := calls } = none := by
  unfold dialled?
  rw [List.findSome?_eq_none_iff]
  intro call hcall
  have hconnect := hcalls call hcall
  cases call <;> simp [Event.isConnect] at hconnect ⊢

theorem dialled?_init (ready : Ready env answers w s) (invoker : Invoker)
    (options : ClientOptions) :
    dialled? (s.init invoker options) = dialled? { trace := s.calls options } := by
  have hrelayed : dialled? { trace := s.relayed (s.calls options) } = none := by
    apply dialled?_of_no_connect
    intro call hcall
    have hcall := s.isRelayed_relayed _ call hcall
    cases call <;> simp [Event.isRelayed, Event.isConnect] at hcall ⊢
  unfold dialled? at hrelayed ⊢
  rw [s.init_trace, ready.fresh, List.nil_append, List.findSome?_append, hrelayed, Option.or_none]

/-- The address that is dialled does not hang on who answers. -/
theorem dialled_of_init (ready : Ready env answers w s) (invoker : Invoker)
    (options : ClientOptions) :
    dialled? (s.init invoker options) =
      (w.standing.endpoint (s.settings.getBool Settings.modInstall)
        (s.settings.getText Settings.connectionString)).toOption.map Endpoint.address := by
  rw [ready.dialled?_init, Session.calls_of_ready _ w s options ready.workspace ready.services,
    ready.uncancelled]
  by_cases htext : s.settings.getText Settings.connectionString = ""
  · rw [dialled?_of_no_connect]
    · unfold Standing.endpoint
      split <;> simp [Except.toOption]
    · exact Services.isConnect_carryOut _ w _ (s.isConnect_plan w options htext) _ _
  · rw [Session.plan_of_connectionString w s options htext, Services.carryOut_append]
    simp only [approach_halt, dialled?, List.findSome?_append]
    -- the calls before the connect dial nothing, and the program's own services never cancel
    have hfront := dialled?_of_no_connect _ (Services.isConnect_carryOut
      (Program.services env answers) w (s.approach w) (s.isConnect_approach w) s.moment false)
    unfold dialled? at hfront
    rw [hfront, Option.none_or, (services_steady env answers w).any_cancels, w.standing_endpoint]
    cases s.settings.getBool Settings.modInstall && !w.lock.isSome with
    | true => rfl
    | false =>
      simp only [htext, Bool.false_eq_true, ↓reduceIte, Option.isSome_none, Bool.or_false,
        Services.carryOut_singleton, Event.withToken]
      cases hparse : Endpoint.parse (s.settings.getText Settings.connectionString) <;>
        simp [hparse, mapError_error, mapError_ok, Except.toOption]

end Ready

end Program
end WorkspaceSession
