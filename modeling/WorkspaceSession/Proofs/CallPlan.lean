import WorkspaceSession.Session.Stages

/-! Calls as a plan, and what comes back. A plan is carried out call by call, up to and including
the first whose answer halts; the token of the session is handed on but removes no call. -/
namespace WorkspaceSession

namespace Outcome

def value? : Outcome α → Option α
  | .done value => some value
  | _ => none

def cause? : Outcome α → Option ErrorChain
  | .failed cause => some cause
  | _ => none

/-- How an outcome halts; `fatal` says which error a failure counts as, if it counts. -/
def halt? (fatal : ErrorChain → Option SessionError) : Outcome α → Option Halt
  | .done _ => none
  | .failed cause => (fatal cause).map .fatal
  | .panicked payload => some (.panic payload)

end Outcome

/-- What an initialisation takes from the answer to a call. A client is made in one call and taken
in after another. -/
structure Answer where
  cancels : Bool := false
  halt : Option Halt := none
  hook : Option TelemetryHook := none
  made : Option ClientSpec := none
  client : Option Client := none
  warnings : List String := []
  messages : List String := []

def Answer.firstHalt (answers : List Answer) : Option Halt := answers.findSome? Answer.halt

@[simp] theorem Answer.firstHalt_nil : firstHalt [] = none := rfl

@[simp] theorem Answer.firstHalt_append (answers others : List Answer) :
    firstHalt (answers ++ others) = (firstHalt answers).or (firstHalt others) :=
  List.findSome?_append

theorem Answer.firstHalt_cons (answer : Answer) (answers : List Answer) :
    firstHalt (answer :: answers) = answer.halt.or (firstHalt answers) := by
  unfold firstHalt
  rw [List.findSome?_cons]
  cases answer.halt <;> rfl

namespace Event

def withToken (cancelled : Bool) : Event → Event
  | .install root force _ => .install root force cancelled
  | .connect text _ options => .connect text cancelled options
  | e => e

def asked (e : Event) : Event := e.withToken false

@[simp] theorem asked_withToken (cancelled : Bool) (e : Event) :
    (e.withToken cancelled).asked = e.asked := by
  cases e <;> rfl

def isConnect : Event → Bool
  | .connect .. => true
  | _ => false

def isTelemetryStart : Event → Bool
  | .telemetryStart _ => true
  | _ => false

def isInstall : Event → Bool
  | .install .. => true
  | _ => false

def isRelayed : Event → Bool
  | .relayed _ => true
  | _ => false

def isRelease : Event → Bool
  | .clientClose _ | .telemetryShutdown _ | .handler _ => true
  | _ => false

end Event

def Notice.messageText? : Notice → Option String
  | .message text => some text
  | .status _ => none

namespace Connection

/-- The texts that go into the channel where messages are rendered. -/
def texts (c : Connection) : List String := c.sends.filterMap Notice.messageText?

/-- The calls of the reporter where messages are rendered. -/
def relays (c : Connection) : List Event :=
  (c.sends.filter Hooks.rendering.forwards).map .relayed

theorem isRelayed_relays (c : Connection) (call : Event) (hcall : call ∈ c.relays) :
    call.isRelayed = true := by
  obtain ⟨n, -, rfl⟩ := List.mem_map.mp hcall
  rfl

end Connection

def gather (pick : Nat → Event → Option α) (moment : Nat) (calls : List Event) : List α :=
  (calls.zipIdx moment).filterMap fun (call, moment) => pick moment call

section

variable (pick : Nat → Event → Option α)

@[simp] theorem gather_nil (moment : Nat) : gather pick moment [] = [] := rfl

theorem gather_cons (moment : Nat) (call : Event) (calls : List Event) :
    gather pick moment (call :: calls) =
      (pick moment call).toList ++ gather pick (moment + 1) calls := by
  unfold gather
  rw [List.zipIdx_cons, List.filterMap_cons]
  cases hgiven : pick moment call with
  | none => simp [hgiven]
  | some value => simp [hgiven]

theorem gather_append (moment : Nat) (calls others : List Event) :
    gather pick moment (calls ++ others) =
      gather pick moment calls ++ gather pick (moment + calls.length) others := by
  unfold gather
  rw [List.zipIdx_append, List.filterMap_append]

theorem gather_eq_nil (moment : Nat) (calls : List Event)
    (hcalls : ∀ call ∈ calls, ∀ moment, pick moment call = none) :
    gather pick moment calls = [] := by
  unfold gather
  rw [List.filterMap_eq_nil_iff]
  rintro ⟨call, moment⟩ hcall
  exact hcalls call (List.fst_mem_of_mem_zipIdx hcall) moment

theorem length_gather_le (gives : Event → Bool) (moment : Nat) (calls : List Event)
    (hgives : ∀ moment call, gives call = false → pick moment call = none) :
    (gather pick moment calls).length ≤ calls.countP gives := by
  induction calls generalizing moment with
  | nil => exact Nat.le_refl _
  | cons call calls ih =>
    have htail := ih (moment + 1)
    rw [gather_cons, List.length_append]
    cases hcall : gives call with
    | true =>
      have hhead : (pick moment call).toList.length ≤ 1 := by
        cases pick moment call <;> simp
      rw [List.countP_cons_of_pos hcall]
      omega
    | false =>
      rw [List.countP_cons_of_neg (by simp [hcall]), hgives moment call hcall]
      simpa using htail

end

namespace Services

def hook? (services : Services) (moment : Nat) : Event → Option TelemetryHook
  | .telemetryStart app => (services.telemetry moment app).outcome.value?
  | _ => none

def connection? (services : Services) (moment : Nat) : Event → Option Connection
  | .connect text cancelled options =>
    some (services.connect .rendering none moment text cancelled options)
  | _ => none

/-- What the connector had the reporter told meanwhile. -/
def relayed (services : Services) (moment : Nat) (calls : List Event) : List Event :=
  (gather services.connection? moment calls).flatMap Connection.relays

/-- A start of telemetry that fails halts nothing; every panic halts. -/
def answer (services : Services) (w : Workspace) (moment : Nat) : Event → Answer
  | .notice n =>
    let reaction := services.reaction moment n
    { cancels := reaction.cancels, halt := reaction.panic.map .panic }
  | .telemetryStart app =>
    let reply := services.telemetry moment app
    { cancels := reply.cancels
      halt := reply.outcome.halt? fun _ => none
      hook := reply.outcome.value?
      warnings := (reply.outcome.cause?.map ErrorChain.outermost).toList }
  | .install _ force cancelled =>
    let reply := services.installer moment w force cancelled
    { cancels := reply.cancels
      halt := reply.outcome.halt? fun cause => some (.install cause)
      warnings := (reply.outcome.value?.map InstallReport.failures).getD [] }
  | .connect text cancelled options =>
    let reply := services.connect .rendering none moment text cancelled options
    { cancels := reply.cancels
      halt := reply.outcome.halt? fun cause => some (.connection cause)
      made := reply.outcome.value?
      messages := reply.texts }
  | _ => {}

@[simp] theorem answer_hook (services : Services) (w : Workspace) (moment : Nat) (e : Event) :
    (services.answer w moment e).hook = services.hook? moment e := by
  cases e <;> rfl

theorem isRelayed_relayed (services : Services) (moment : Nat) (calls : List Event) (call : Event)
    (hcall : call ∈ services.relayed moment calls) : call.isRelayed = true := by
  obtain ⟨connection, -, hcall⟩ := List.mem_flatMap.mp hcall
  exact connection.isRelayed_relays call hcall

def answers (services : Services) (w : Workspace) (moment : Nat) (calls : List Event) :
    List Answer :=
  (calls.zipIdx moment).map fun (call, moment) => services.answer w moment call

section

variable (services : Services) (w : Workspace)

@[simp] theorem answers_nil (moment : Nat) : services.answers w moment [] = [] := rfl

@[simp] theorem answers_cons (moment : Nat) (call : Event) (calls : List Event) :
    services.answers w moment (call :: calls) =
      services.answer w moment call :: services.answers w (moment + 1) calls := by
  simp [answers, List.zipIdx_cons]

theorem answers_append (moment : Nat) (calls others : List Event) :
    services.answers w moment (calls ++ others) =
      services.answers w moment calls ++ services.answers w (moment + calls.length) others := by
  simp [answers, List.zipIdx_append]

section

variable (moment : Nat) (calls : List Event) (hcalls : ∀ call ∈ calls, call.isConnect = false)

include hcalls

theorem relayed_of_no_connect : services.relayed moment calls = [] := by
  have hnone : gather services.connection? moment calls = [] := by
    apply gather_eq_nil
    intro call hcall moment
    have hconnect := hcalls call hcall
    cases call <;> simp [Event.isConnect, connection?] at hconnect ⊢
  unfold relayed
  rw [hnone]
  rfl

theorem relayed_of_last_connect (text : String) (cancelled : Bool) (options : ClientOptions) :
    services.relayed moment (calls ++ [.connect text cancelled options]) =
      (services.connect .rendering none (moment + calls.length) text cancelled options).relays := by
  have hnone := services.relayed_of_no_connect moment calls hcalls
  unfold relayed at hnone ⊢
  rw [gather_append, List.flatMap_append, hnone, List.nil_append]
  exact List.append_nil _

theorem answers_of_no_connect (answer : Answer)
    (hanswer : answer ∈ services.answers w moment calls) :
    answer.made = none ∧ answer.messages = [] := by
  obtain ⟨⟨call, moment⟩, hcall, rfl⟩ := List.mem_map.mp hanswer
  have hconnect := hcalls call (List.fst_mem_of_mem_zipIdx hcall)
  cases call <;> simp [Event.isConnect, answer] at hconnect ⊢

theorem made_of_no_connect : (services.answers w moment calls).filterMap Answer.made = [] :=
  List.filterMap_eq_nil_iff.mpr fun answer hanswer =>
    (services.answers_of_no_connect w moment calls hcalls answer hanswer).1

theorem messages_of_no_connect : (services.answers w moment calls).flatMap Answer.messages = [] :=
  List.flatMap_eq_nil_iff.mpr fun answer hanswer =>
    (services.answers_of_no_connect w moment calls hcalls answer hanswer).2

end

/-- Makes the calls of a plan, each with the token as the calls before it left it. -/
def carryOut (moment : Nat) (cancelled : Bool) : (plan : List Event) → List Event
  | [] => []
  | e :: plan =>
    let call := e.withToken cancelled
    let answer := services.answer w moment call
    call :: if answer.halt.isSome then []
      else carryOut (moment + 1) (cancelled || answer.cancels) plan

theorem isConnect_carryOut (plan : List Event) (hplan : ∀ e ∈ plan, e.isConnect = false)
    (moment : Nat) (cancelled : Bool) (call : Event)
    (hcall : call ∈ services.carryOut w moment cancelled plan) : call.isConnect = false := by
  induction plan generalizing moment cancelled with
  | nil => contradiction
  | cons e plan ih =>
    simp only [carryOut, List.mem_cons] at hcall
    rcases hcall with rfl | hcall
    · have hconnect := hplan e List.mem_cons_self
      cases e <;> first | rfl | contradiction
    · split at hcall
      · contradiction
      · exact ih (fun e he => hplan e (List.mem_cons_of_mem _ he)) _ _ hcall

theorem carryOut_singleton (moment : Nat) (cancelled : Bool) (e : Event) :
    services.carryOut w moment cancelled [e] = [e.withToken cancelled] := by
  simp [carryOut]

theorem carryOut_append (plan others : List Event) (moment : Nat) (cancelled : Bool) :
    services.carryOut w moment cancelled (plan ++ others) =
      let calls := services.carryOut w moment cancelled plan
      let answers := services.answers w moment calls
      calls ++ if (Answer.firstHalt answers).isSome then []
        else services.carryOut w (moment + calls.length)
          (cancelled || answers.any Answer.cancels) others := by
  induction plan generalizing moment cancelled with
  | nil => simp [carryOut]
  | cons e plan ih =>
    simp only [List.cons_append, carryOut]
    by_cases hhalt : (services.answer w moment (e.withToken cancelled)).halt.isSome
    · simp [hhalt, Answer.firstHalt_cons]
    · rw [ih]
      simp only [Bool.not_eq_true, Option.isSome_eq_false_iff, Option.isNone_iff_eq_none] at hhalt
      simp [hhalt, Answer.firstHalt_cons, Bool.or_assoc, Nat.add_assoc, Nat.add_comm 1]

theorem carryOut_asked_prefix (plan : List Event) (moment : Nat) (cancelled : Bool) :
    (services.carryOut w moment cancelled plan).map Event.asked <+: plan.map Event.asked := by
  induction plan generalizing moment cancelled with
  | nil => simp [carryOut]
  | cons e plan ih =>
    simp only [carryOut, List.map_cons, Event.asked_withToken, List.prefix_cons_inj]
    split
    · exact List.nil_prefix
    · exact ih _ _

/-- Whether a call halts is the same for every state of the token. -/
def Heedless : Prop :=
  ∀ moment cancelled (e : Event),
    (services.answer w moment (e.withToken cancelled)).halt.isSome =
      (services.answer w moment e.asked).halt.isSome

theorem carryOut_asked_of_heedless (heedless : services.Heedless w) (plan : List Event)
    (moment : Nat) (cancelled cancelled' : Bool) :
    (services.carryOut w moment cancelled plan).map Event.asked =
      (services.carryOut w moment cancelled' plan).map Event.asked := by
  induction plan generalizing moment cancelled cancelled' with
  | nil => rfl
  | cons e plan ih =>
    simp only [carryOut, List.map_cons, Event.asked_withToken,
      heedless moment cancelled e, heedless moment cancelled' e]
    split
    · rfl
    · rw [ih]

theorem carryOut_cut (plan : List Event) (moment : Nat) (cancelled : Bool) (i : Nat) (call : Event)
    (hcall : (services.carryOut w moment cancelled plan)[i]? = some call)
    (hhalt : (services.answer w (moment + i) call).halt.isSome) :
    (services.carryOut w moment cancelled plan).length = i + 1 := by
  induction plan generalizing moment cancelled i with
  | nil => simp [carryOut] at hcall
  | cons e plan ih =>
    simp only [carryOut] at hcall ⊢
    cases i with
    | zero =>
      obtain rfl : e.withToken cancelled = call := by simpa using hcall
      rw [Nat.add_zero] at hhalt
      rw [if_pos hhalt]
      rfl
    | succ i =>
      rw [List.getElem?_cons_succ] at hcall
      split at hcall
      · simp at hcall
      · rename_i hgo
        rw [if_neg hgo, List.length_cons, ih (moment + 1) _ i hcall]
        rwa [Nat.add_assoc, Nat.add_comm 1]

theorem length_carryOut (plan : List Event) (moment : Nat) (cancelled : Bool)
    (hgo : Answer.firstHalt
      (services.answers w moment (services.carryOut w moment cancelled plan)) = none) :
    (services.carryOut w moment cancelled plan).length = plan.length := by
  induction plan generalizing moment cancelled with
  | nil => rfl
  | cons e plan ih =>
    simp only [carryOut, answers_cons, Answer.firstHalt_cons, Option.or_eq_none_iff] at hgo ⊢
    simp only [hgo.1, Option.isSome_none, Bool.false_eq_true, ↓reduceIte] at hgo ⊢
    rw [List.length_cons, List.length_cons, ih _ _ hgo.2]

theorem carryOut_asked_of_complete (plan : List Event) (moment : Nat) (cancelled : Bool)
    (hgo : Answer.firstHalt
      (services.answers w moment (services.carryOut w moment cancelled plan)) = none) :
    (services.carryOut w moment cancelled plan).map Event.asked = plan.map Event.asked := by
  apply (services.carryOut_asked_prefix w plan moment cancelled).eq_of_length
  rw [List.length_map, List.length_map, services.length_carryOut w plan moment cancelled hgo]

end

end Services
end WorkspaceSession
