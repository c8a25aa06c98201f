import WorkspaceSession.Proofs.Relaying

/-! The course of an initialisation: which calls it makes, and what it leaves in the session. Each
stage makes the calls of its part of the plan and takes in the answers; a whole initialisation is
the stages one after the other, with the check of the client that was made at the end. -/
namespace WorkspaceSession

/-- The last of the things given, numbered on from the first. -/
def latest (build : Nat → α → β) (first : Nat) (given : List α) : Option β :=
  (given.zipIdx first).getLast?.map fun (value, number) => build number value

@[simp] theorem latest_nil (build : Nat → α → β) (first : Nat) : latest build first [] = none := rfl

@[simp] theorem latest_singleton (build : Nat → α → β) (first : Nat) (value : α) :
    latest build first [value] = some (build first value) := rfl

theorem map_latest (f : β → γ) (build : Nat → α → β) (first : Nat) (given : List α) :
    (latest build first given).map f = latest (fun number value => f (build number value)) first
      given := by
  unfold latest
  rw [Option.map_map]
  rfl

theorem latest_append (build : Nat → α → β) (first : Nat) (given others : List α) :
    latest build first (given ++ others) =
      (latest build (first + given.length) others).or (latest build first given) := by
  unfold latest
  rw [List.zipIdx_append, List.getLast?_append]
  cases (others.zipIdx (first + given.length)).getLast? <;> rfl

theorem exists_mem_of_latest (build : Nat → α → β) (first : Nat) (given : List α) (thing : β)
    (h : latest build first given = some thing) :
    ∃ value ∈ given, ∃ number, thing = build number value := by
  obtain ⟨⟨value, number⟩, hlast, hthing⟩ := Option.map_eq_some_iff.mp h
  exact ⟨value, List.fst_mem_of_mem_zipIdx (List.mem_of_getLast? hlast), number, hthing.symm⟩

namespace Session

/-- Takes in calls with what was answered but the messages, and writes to the log. -/
def heed (s : Session) (calls : List Event) (answers : List Answer) (log : List LogLine) :
    Session :=
  { s with
    trace := s.trace ++ calls
    log := s.log ++ log
    cancelled := s.cancelled || answers.any Answer.cancels
    telemetry := (latest HeldHook.mk s.hooks (answers.filterMap Answer.hook)).or s.telemetry
    hooks := s.hooks + (answers.filterMap Answer.hook).length
    client := (answers.filterMap Answer.client).getLast?.or s.client
    clients := s.clients + (answers.filterMap Answer.made).length
    result := s.result.addWarnings (answers.flatMap Answer.warnings) }

section

variable (s : Session) (calls : List Event) (answers : List Answer) (log : List LogLine)

@[simp] theorem moment_heed : (s.heed calls answers log).moment = s.moment + calls.length :=
  List.length_append

@[simp] theorem cancelled_heed :
    (s.heed calls answers log).cancelled = (s.cancelled || answers.any Answer.cancels) := rfl

@[simp] theorem settings_heed : (s.heed calls answers log).settings = s.settings := rfl

@[simp] theorem clients_heed :
    (s.heed calls answers log).clients =
      s.clients + (answers.filterMap Answer.made).length := rfl

end

theorem heed_append (s : Session) (calls calls' : List Event) (answers answers' : List Answer)
    (log log' : List LogLine) :
    (s.heed calls answers log).heed calls' answers' log' =
      s.heed (calls ++ calls') (answers ++ answers') (log ++ log') := by
  simp [heed, latest_append, Option.or_assoc, Bool.or_assoc, Nat.add_assoc,
    SessionResult.addWarnings]

theorem write_eq_heed (s : Session) (lines : List LogLine) :
    s.write lines = s.heed [] [] lines := by
  simp [write, heed, SessionResult.addWarnings]

@[simp] theorem write_nil (s : Session) : s.write [] = s := by
  simp [write]

@[simp] theorem moment_write (s : Session) (lines : List LogLine) :
    (s.write lines).moment = s.moment := rfl

@[simp] theorem cancelled_write (s : Session) (lines : List LogLine) :
    (s.write lines).cancelled = s.cancelled := rfl

@[simp] theorem settings_write (s : Session) (lines : List LogLine) :
    (s.write lines).settings = s.settings := rfl

theorem heed_halt (s : Session) (halt : Option Halt) (log : List LogLine) :
    s.heed [] [{ halt }] log = s.write log := by
  simp [heed, write, SessionResult.addWarnings]

/-- The stage makes the calls of the plan and takes in the answers. -/
def Follows (services : Services) (w : Workspace) (plan : List Event) (s : Session)
    (r : Session × Option Halt) : Prop :=
  let calls := services.carryOut w s.moment s.cancelled plan
  let answers := services.answers w s.moment calls
  ∃ log, r = (s.heed calls answers log, Answer.firstHalt answers)

section

variable (services : Services) (w : Workspace) (s : Session)

theorem follows_of_call (e : Event) (r : Session × Option Halt)
    (h : let call := e.withToken s.cancelled
      let answer := services.answer w s.moment call
      ∃ log, r = (s.heed [call] [answer] log, answer.halt)) :
    Follows services w [e] s r := by
  obtain ⟨log, rfl⟩ := h
  refine ⟨log, ?_⟩
  simp [Services.carryOut, Answer.firstHalt_cons]

theorem thenStage_follows (plan plan' : List Event) (r : Session × Option Halt)
    (stage : Session → Session × Option Halt) (hr : Follows services w plan s r)
    (hstage : ∀ t : Session, t.settings = s.settings → Follows services w plan' t (stage t)) :
    Follows services w (plan ++ plan') s (thenStage r stage) := by
  obtain ⟨log, rfl⟩ := hr
  unfold Follows
  simp only [Services.carryOut_append, Services.answers_append, Answer.firstHalt_append]
  cases hhalt : Answer.firstHalt
      (services.answers w s.moment (services.carryOut w s.moment s.cancelled plan)) with
  | some halt =>
    refine ⟨log, ?_⟩
    simp [thenStage]
  | none =>
    obtain ⟨log', hlog'⟩ := hstage (s.heed _ _ log) rfl
    refine ⟨log ++ log', ?_⟩
    simp only [thenStage]
    rw [hlog', heed_append]
    simp

theorem announce_follows (text : String) :
    Follows services w [.notice (.status text)] s (s.announce services text) := by
  apply follows_of_call
  refine ⟨services.reporter.logLines (.status text), ?_⟩
  simp [announce, tell, record, write, heed, Services.answer, Event.withToken, moment,
    SessionResult.addWarnings]

theorem startTelemetry_follows :
    Follows services w [.telemetryStart appName] s (s.startTelemetry services) := by
  apply follows_of_call
  simp only [Event.withToken, Services.answer, startTelemetry]
  generalize services.telemetry s.moment appName = reply
  obtain ⟨⟨log, cancels⟩, outcome⟩ := reply
  cases outcome with
  | done hook =>
    refine ⟨log, ?_⟩
    simp [heed, record, absorb, SessionResult.addWarnings, Outcome.halt?, Outcome.value?,
      Outcome.cause?]
  | failed cause =>
    refine ⟨log ++ [.warn ("Failed to start telemetry: " ++ cause.full)], ?_⟩
    simp [heed, record, absorb, write, addWarnings, SessionResult.addWarnings, Outcome.halt?,
      Outcome.value?, Outcome.cause?]
  | panicked payload =>
    refine ⟨log, ?_⟩
    simp [heed, record, absorb, SessionResult.addWarnings, Outcome.halt?, Outcome.value?,
      Outcome.cause?]

theorem install_follows :
    Follows services w [.install w.root.name true false] s (s.install services w) := by
  apply follows_of_call
  simp only [Event.withToken, Services.answer, install, moment_write, cancelled_write]
  generalize services.installer s.moment w true s.cancelled = reply
  obtain ⟨⟨log, cancels⟩, outcome⟩ := reply
  refine ⟨.info "Installing workspace dependencies" :: log, ?_⟩
  cases outcome with
  | done report =>
    simp [heed, record, absorb, write, addWarnings, SessionResult.addWarnings, Outcome.halt?,
      Outcome.value?]
  | failed cause =>
    simp [heed, record, absorb, write, SessionResult.addWarnings, Outcome.halt?, Outcome.value?]
  | panicked payload =>
    simp [heed, record, absorb, write, SessionResult.addWarnings, Outcome.halt?, Outcome.value?]

theorem installDependencies_follows :
    Follows services w
      [.notice (.status "Installing workspace dependencies"), .install w.root.name true false] s
      (s.installDependencies services w) := by
  apply thenStage_follows services w s [_] [_]
  · exact announce_follows services w s _
  · intro t _
    exact install_follows services w t

theorem follows_of_write (plan : List Event) (lines : List LogLine) (r : Session × Option Halt)
    (h : Follows services w plan (s.write lines) r) : Follows services w plan s r := by
  obtain ⟨log, h⟩ := h
  refine ⟨lines ++ log, ?_⟩
  simp only [moment_write, cancelled_write] at h
  rw [h, write_eq_heed, heed_append, List.nil_append, List.nil_append]

end

end Session

/-- How opening a client ends that is to have the number. -/
def Connection.opened (number : Nat) (c : Connection) : Except Halt Client :=
  match c.outcome with
  | .done spec => .ok ⟨number, spec⟩
  | .failed cause => .error (.fatal (.connection cause))
  | .panicked payload => .error (.panic payload)

namespace Session

section

variable (services : Services) (w : Workspace) (s : Session)

theorem dial_eq (options : ClientOptions) (text : String) :
    let call := Event.connect text s.cancelled options
    let connection := services.connect .rendering none s.moment text s.cancelled options
    ∃ log, s.dial services .rendering none options text {} =
      (s.heed (call :: connection.relays) [services.answer w s.moment call] log,
        { queue := connection.texts }, connection.opened s.clients) := by
  have hback : (services.connect .rendering none s.moment text s.cancelled options).callsBack =
      false := by
    simp [Services.connect]
  simp only [dial, Services.answer, moment_write, cancelled_write]
  generalize services.connect .rendering none s.moment text s.cancelled options = connection
    at hback
  obtain ⟨log, haccept⟩ := accept_rendering
    ((s.write [.info "Connecting to remote database"]).record (.connect text s.cancelled options))
    services.reporter connection hback
  refine ⟨.info "Connecting to remote database" :: log, ?_⟩
  rw [haccept]
  unfold Connection.opened
  cases connection.outcome with
  | done spec =>
    simp [heed, record, write, SessionResult.addWarnings, Outcome.halt?, Outcome.value?]
  | failed cause =>
    simp [heed, record, write, SessionResult.addWarnings, Outcome.halt?, Outcome.value?]
  | panicked payload =>
    simp [heed, record, write, SessionResult.addWarnings, Outcome.halt?, Outcome.value?]

end

def setUpPlan (w : Workspace) (s : Session) : List Event :=
  [.notice (.status "Initializing"), .telemetryStart appName] ++
    if s.settings.getBool Settings.modInstall then
      [.notice (.status "Installing workspace dependencies"), .install w.root.name true false]
    else []

/-- The calls of an initialisation that nothing halts. -/
def plan (w : Workspace) (options : ClientOptions) (s : Session) : List Event :=
  s.setUpPlan w ++ .notice (.status "Connecting to database") ::
    if s.settings.getText Settings.connectionString = "" then []
    else [.notice (.status "Connecting to remote database"),
      .connect (s.settings.getText Settings.connectionString) false options]

/-- What a session that connects calls before. -/
def approach (w : Workspace) (s : Session) : List Event :=
  s.setUpPlan w ++ [.notice (.status "Connecting to database"),
    .notice (.status "Connecting to remote database")]

end Session

/-- What comes of checking the cache settings of a client, which is held only if it does not panic
when it is asked for those of its server. -/
def Client.checked (client : Client) (settings : Settings) (moment : Nat) : Answer :=
  let response := client.spec.serverSettings moment
  match response.outcome with
  | .error payload => { cancels := response.cancels, halt := some (.panic payload) }
  | .ok server =>
    let findings := (server.map fun server => server.check settings).getD {}
    { cancels := response.cancels
      halt := findings.error.map .fatal
      client := some client
      warnings := findings.warnings }

namespace Session

/-- What an initialisation finds out after its calls, if none of them halts: that there was nothing
to connect to, or what comes of checking the client made last. -/
def closing (s : Session) (moment : Nat) (answers : List Answer) : Answer :=
  if s.settings.getText Settings.connectionString = "" then
    { halt := some (.fatal .noConnectionString) }
  else
    ((latest Client.mk s.clients (answers.filterMap Answer.made)).map fun client =>
      client.checked s.settings moment).getD {}

def calls (options : ClientOptions) (s : Session) : List Event :=
  match s.workspace, s.services with
  | some w, some services => services.carryOut w s.moment s.cancelled (s.plan w options)
  | _, _ => []

/-- What the connector had the reporter told while calls were made from here on. -/
def relayed (s : Session) (calls : List Event) : List Event :=
  match s.services with
  | some services => services.relayed s.moment calls
  | none => []

def answersTo (s : Session) (calls : List Event) : List Answer :=
  match s.workspace, s.services with
  | none, _ =>
    [{ halt := some (.fatal (.invalidState "init called before setting up workspace")) }]
  | some _, none =>
    [{ halt := some (.fatal (.invalidState "init called on an instance that already failed")) }]
  | some w, some services =>
    let answers := services.answers w s.moment calls
    let moment := s.moment + calls.length + (services.relayed s.moment calls).length
    answers ++ if (Answer.firstHalt answers).isSome then [] else [s.closing moment answers]

def answers (options : ClientOptions) (s : Session) : List Answer := s.answersTo (s.calls options)

section

variable (services : Services) (w : Workspace) (s : Session) (options : ClientOptions)

theorem setUp_follows : Follows services w (s.setUpPlan w) s (s.setUp services w) := by
  have hstart : Follows services w [.notice (.status "Initializing"), .telemetryStart appName] s
      (thenStage (s.announce services "Initializing") (startTelemetry services)) := by
    apply thenStage_follows services w s [_] [_]
    · exact announce_follows services w s _
    · intro t _
      exact startTelemetry_follows services w t
  unfold setUpPlan setUp
  split
  · apply thenStage_follows _ _ _ _ _ _ _ hstart
    intro t _
    exact installDependencies_follows services w t
  · rw [List.append_nil]
    exact hstart

theorem isConnect_approach (e : Event) (he : e ∈ s.approach w) : e.isConnect = false := by
  unfold approach setUpPlan at he
  split at he <;> simp at he <;> rcases he with rfl | rfl | rfl | rfl | rfl | rfl <;> rfl

theorem plan_of_connectionString
    (htext : s.settings.getText Settings.connectionString ≠ "") :
    s.plan w options = s.approach w ++
      [.connect (s.settings.getText Settings.connectionString) false options] := by
  unfold plan approach
  rw [if_neg htext]
  simp

theorem isConnect_plan (htext : s.settings.getText Settings.connectionString = "") (e : Event)
    (he : e ∈ s.plan w options) : e.isConnect = false := by
  unfold plan at he
  rw [if_pos htext] at he
  apply s.isConnect_approach w e
  unfold approach
  simp only [List.mem_append, List.mem_cons, List.not_mem_nil, or_false] at he ⊢
  rcases he with he | he
  · exact .inl he
  · exact .inr (.inl he)

theorem settings_of_follows (plan : List Event) (r : Session × Option Halt)
    (h : Follows services w plan s r) : r.1.settings = s.settings := by
  obtain ⟨log, rfl⟩ := h
  rfl

theorem openClient_of_text (text : String)
    (htext : s.settings.getText Settings.connectionString = text) (hne : text ≠ "") :
    s.openClient services .rendering none options {} =
      thenOpen (s.announce services "Connecting to remote database") {}
        (dial services .rendering none options text {}) := by
  simp only [openClient, htext, hne, ↓reduceIte]

theorem openClient_of_no_text (htext : s.settings.getText Settings.connectionString = "") :
    s.openClient services .rendering none options {} =
      (s, {}, .error (.fatal .noConnectionString)) := by
  simp only [openClient, htext, ↓reduceIte]

theorem thenOpen_connect (r : Session × Option Halt) (text : String)
    (htext : r.1.settings.getText Settings.connectionString = text) (hne : text ≠ "") :
    thenOpen r {} (connect services options {}) =
      thenOpen (thenStage (thenStage r fun t => t.announce services "Connecting to database")
        fun t => (t.write [.info "Connecting to database"]).announce services
          "Connecting to remote database") {} (dial services .rendering none options text {}) := by
  obtain ⟨t, _ | halt⟩ := r
  · simp only [thenOpen, connect, thenStage]
    have hsettings : (t.announce services "Connecting to database").1.settings = t.settings := rfl
    generalize t.announce services "Connecting to database" = announced at hsettings ⊢
    obtain ⟨u, _ | halt⟩ := announced
    · apply openClient_of_text services _ options text _ hne
      rw [settings_write, hsettings, htext]
    · rfl
  · rfl

theorem thenOpen_connect_of_no_text (r : Session × Option Halt)
    (htext : r.1.settings.getText Settings.connectionString = "") :
    thenOpen r {} (connect services options {}) =
      thenOpen (thenStage r fun t => t.announce services "Connecting to database") {} fun t =>
        (t.write [.info "Connecting to database"], {}, .error (.fatal .noConnectionString)) := by
  obtain ⟨t, _ | halt⟩ := r
  · simp only [thenOpen, connect, thenStage]
    have hsettings : (t.announce services "Connecting to database").1.settings = t.settings := rfl
    generalize t.announce services "Connecting to database" = announced at hsettings ⊢
    obtain ⟨u, _ | halt⟩ := announced
    · apply openClient_of_no_text
      rw [settings_write, hsettings, htext]
    · rfl
  · rfl

theorem approach_follows :
    Follows services w (s.approach w) s
      (thenStage (thenStage (s.setUp services w) fun t =>
          t.announce services "Connecting to database")
        fun t => (t.write [.info "Connecting to database"]).announce services
          "Connecting to remote database") := by
  have happroach : s.approach w = s.setUpPlan w ++ [.notice (.status "Connecting to database")] ++
      [.notice (.status "Connecting to remote database")] := by
    simp [approach]
  rw [happroach]
  apply thenStage_follows services w s _ [_]
  · apply thenStage_follows services w s _ [_]
    · exact setUp_follows services w s
    · intro t _
      exact announce_follows services w t _
  · intro t _
    apply follows_of_write services w t _ [.info "Connecting to database"]
    exact announce_follows services w (t.write _) _

theorem checkCache_eq (client : Client) :
    ∃ log, s.checkCache client =
      (s.heed [] [client.checked s.settings s.moment] log,
        (client.checked s.settings s.moment).halt) := by
  refine ⟨.info "Validating client cache settings" ::
    (client.spec.serverSettings s.moment).log, ?_⟩
  simp only [checkCache, Client.checked, moment_write]
  cases (client.spec.serverSettings s.moment).outcome with
  | error payload => simp [heed, write, absorb, SessionResult.addWarnings]
  | ok server => simp [heed, write, absorb, addWarnings, SessionResult.addWarnings]

theorem calls_of_ready (hw : s.workspace = some w) (hservices : s.services = some services) :
    s.calls options = services.carryOut w s.moment s.cancelled (s.plan w options) := by
  simp only [calls, hw, hservices]

theorem relayed_of_ready (hservices : s.services = some services) (calls : List Event) :
    s.relayed calls = services.relayed s.moment calls := by
  simp only [relayed, hservices]

theorem answersTo_of_ready (hw : s.workspace = some w) (hservices : s.services = some services)
    (calls : List Event) :
    s.answersTo calls =
      let answers := services.answers w s.moment calls
      let moment := s.moment + calls.length + (services.relayed s.moment calls).length
      answers ++ if (Answer.firstHalt answers).isSome then [] else [s.closing moment answers] := by
  simp only [answersTo, hw, hservices]

/-- What the stages leave: the calls made and what the connector had relayed, the answers taken in
with their messages in the channel, and what halted first. -/
def Passes (calls relays : List Event) (answers : List Answer) (s : Session)
    (r : Session × Channel × Option Halt) : Prop :=
  ∃ log, r = (s.heed (calls ++ relays) answers log, { queue := answers.flatMap Answer.messages },
    Answer.firstHalt answers)

theorem runStages_of_no_connectionString (hw : s.workspace = some w)
    (hservices : s.services = some services)
    (htext : s.settings.getText Settings.connectionString = "") :
    Passes (s.calls options) (s.relayed (s.calls options)) (s.answers options) s
      (s.runStages options {}) := by
  have hsetUp := setUp_follows services w s
  have hfollows : Follows services w (s.plan w options) s
      (thenStage (s.setUp services w) fun t => t.announce services "Connecting to database") := by
    unfold plan
    rw [if_pos htext]
    apply thenStage_follows services w s _ [_] _ _ hsetUp
    intro t _
    exact announce_follows services w t _
  have hquiet : ∀ call ∈ s.calls options, call.isConnect = false := by
    rw [calls_of_ready services w s options hw hservices]
    exact services.isConnect_carryOut w _ (s.isConnect_plan w options htext) _ _
  have hopening := thenOpen_connect_of_no_text services options (s.setUp services w) (by
    rw [settings_of_follows services w s _ _ hsetUp, htext])
  have hmessages := services.messages_of_no_connect w s.moment _ hquiet
  obtain ⟨log, hlog⟩ := hfollows
  rw [hlog, ← calls_of_ready services w s options hw hservices] at hopening
  rw [answers, answersTo_of_ready services w s hw hservices,
    relayed_of_ready services s hservices, services.relayed_of_no_connect s.moment _ hquiet]
  simp only [Passes, runStages, hw, hservices, hopening, closing, htext, ↓reduceIte]
  cases hhalt : Answer.firstHalt (services.answers w s.moment (s.calls options)) with
  | some halt =>
    refine ⟨log, ?_⟩
    simp [thenOpen, hhalt, hmessages]
  | none =>
    refine ⟨log ++ [.info "Connecting to database"], ?_⟩
    simp only [thenOpen, write_eq_heed, heed_append]
    simp [hhalt, hmessages, heed, Answer.firstHalt_cons]

theorem calls_of_connectionString (hw : s.workspace = some w)
    (hservices : s.services = some services)
    (htext : s.settings.getText Settings.connectionString ≠ "") :
    let called := services.carryOut w s.moment s.cancelled (s.approach w)
    let answers := services.answers w s.moment called
    s.calls options = called ++ if (Answer.firstHalt answers).isSome then []
      else [.connect (s.settings.getText Settings.connectionString)
        (s.cancelled || answers.any Answer.cancels) options] := by
  rw [calls_of_ready services w s options hw hservices, plan_of_connectionString w s options htext]
  simp only [services.carryOut_append, services.carryOut_singleton]
  rfl

def Concludes (first : Nat) (answers : List Answer) : Except Halt Client → Prop
  | .error halt => Answer.firstHalt answers = some halt ∧ answers.filterMap Answer.made = []
  | .ok client => Answer.firstHalt answers = none ∧
      answers.filterMap Answer.made = [client.spec] ∧ client.number = first

theorem concludes_of_connect (moment : Nat) (text : String) (cancelled : Bool)
    (answers : List Answer) (hmade : answers.filterMap Answer.made = [])
    (hhalt : Answer.firstHalt answers = none) (first : Nat) :
    Concludes first (answers ++ [services.answer w moment (.connect text cancelled options)])
      ((services.connect .rendering none moment text cancelled options).opened first) := by
  unfold Connection.opened
  cases houtcome : (services.connect .rendering none moment text cancelled options).outcome <;>
    simp [Concludes, hmade, hhalt, Answer.firstHalt_cons, Services.answer, houtcome, Outcome.halt?,
      Outcome.value?]

theorem opening_of_connectionString (hw : s.workspace = some w)
    (hservices : s.services = some services)
    (htext : s.settings.getText Settings.connectionString ≠ "") :
    let answers := services.answers w s.moment (s.calls options)
    ∃ log opened, thenOpen (s.setUp services w) {} (connect services options {}) =
        (s.heed (s.calls options ++ services.relayed s.moment (s.calls options)) answers log,
          { queue := answers.flatMap Answer.messages }, opened) ∧
      Concludes s.clients answers opened := by
  have hopening := thenOpen_connect services options (s.setUp services w) _
    (by rw [settings_of_follows services w s _ _ (setUp_follows services w s)]) htext
  have hcalls := calls_of_connectionString services w s options hw hservices htext
  have hquiet := services.isConnect_carryOut w (s.approach w) (s.isConnect_approach w) s.moment
    s.cancelled
  obtain ⟨log, hlog⟩ := approach_follows services w s
  rw [hlog] at hopening
  generalize services.carryOut w s.moment s.cancelled (s.approach w) = called
    at hopening hcalls hquiet
  have hmade := services.made_of_no_connect w s.moment called hquiet
  have hmessages := services.messages_of_no_connect w s.moment called hquiet
  cases hhalt : Answer.firstHalt (services.answers w s.moment called) with
  | some halt =>
    -- the approach halts, so that no connect is made and its own calls are all there are
    have hcalls : s.calls options = called := by simpa [hhalt] using hcalls
    refine ⟨log, .error halt, ?_, ?_⟩
    · rw [hopening, hcalls, services.relayed_of_no_connect s.moment called hquiet, hmessages,
        List.append_nil, hhalt]
      rfl
    · rw [hcalls]
      exact ⟨hhalt, hmade⟩
  | none =>
    simp only [hhalt, Option.isSome_none, Bool.false_eq_true, ↓reduceIte] at hcalls
    generalize hcancelled : (s.cancelled ||
      (services.answers w s.moment called).any Answer.cancels) = cancelled at hcalls
    have hanswers : services.answers w s.moment (s.calls options) =
        services.answers w s.moment called ++ [services.answer w (s.moment + called.length)
          (.connect (s.settings.getText Settings.connectionString) cancelled options)] := by
      rw [hcalls, Services.answers_append, Services.answers_cons, Services.answers_nil]
    -- the connect hears the token as the calls before it left it
    obtain ⟨log', hdial⟩ := dial_eq services w
      (s.heed called (services.answers w s.moment called) log) options
      (s.settings.getText Settings.connectionString)
    rw [moment_heed, clients_heed, hmade, List.length_nil, Nat.add_zero, cancelled_heed,
      hcancelled, heed_append] at hdial
    refine ⟨log ++ log', (services.connect .rendering none (s.moment + called.length)
      (s.settings.getText Settings.connectionString) cancelled options).opened s.clients, ?_, ?_⟩
    · rw [hopening, hhalt, hanswers, List.flatMap_append, hmessages, hcalls,
        services.relayed_of_last_connect s.moment called hquiet, List.append_assoc,
        List.singleton_append, List.flatMap_singleton, List.nil_append]
      exact hdial
    · rw [hanswers]
      exact concludes_of_connect services w options _ _ _ _ hmade hhalt _

theorem runStages_of_connectionString (hw : s.workspace = some w)
    (hservices : s.services = some services)
    (htext : s.settings.getText Settings.connectionString ≠ "") :
    Passes (s.calls options) (s.relayed (s.calls options)) (s.answers options) s
      (s.runStages options {}) := by
  obtain ⟨log, opened, hopening, concludes⟩ :=
    opening_of_connectionString services w s options hw hservices htext
  rw [answers, answersTo_of_ready services w s hw hservices, relayed_of_ready services s hservices]
  generalize services.relayed s.moment (s.calls options) = relays at hopening ⊢
  generalize services.answers w s.moment (s.calls options) = answers at hopening concludes ⊢
  simp only [Passes, runStages, hw, hservices, hopening, closing, htext, ↓reduceIte]
  cases opened with
  | error halt =>
    obtain ⟨hhalt, -⟩ := concludes
    refine ⟨log, ?_⟩
    simp [hhalt]
  | ok client =>
    obtain ⟨hhalt, hmade, hnumber⟩ := concludes
    have hclient : latest Client.mk s.clients (answers.filterMap Answer.made) = some client := by
      rw [hmade, latest_singleton, ← hnumber]
    -- the check comes after the last relayed status, and no message comes of it
    obtain ⟨log', hcheck⟩ := checkCache_eq (s.heed (s.calls options ++ relays) answers log) client
    have hmessages : (client.checked s.settings
        (s.moment + (s.calls options).length + relays.length)).messages = [] := by
      unfold Client.checked
      simp only
      split <;> rfl
    rw [moment_heed, List.length_append, ← Nat.add_assoc, settings_heed] at hcheck
    refine ⟨log ++ log', ?_⟩
    simp only [hcheck, heed_append]
    simp [hhalt, hclient, Answer.firstHalt_cons, hmessages]

end

theorem runStages_eq (s : Session) (options : ClientOptions) :
    Passes (s.calls options) (s.relayed (s.calls options)) (s.answers options) s
      (s.runStages options {}) := by
  cases hw : s.workspace with
  | none =>
    have hcalls : s.calls options = [] := by simp [calls, hw]
    have hrelayed : s.relayed [] = [] := by
      unfold relayed
      cases s.services <;> rfl
    refine ⟨[], ?_⟩
    rw [hcalls, hrelayed]
    simp [runStages, answers, answersTo, hw, heed_halt, Answer.firstHalt_cons]
  | some w =>
    cases hservices : s.services with
    | none =>
      refine ⟨[], ?_⟩
      simp [runStages, calls, relayed, answers, answersTo, hw, hservices, heed_halt,
        Answer.firstHalt_cons]
    | some services =>
      by_cases htext : s.settings.getText Settings.connectionString = ""
      · exact runStages_of_no_connectionString services w s options hw hservices htext
      · exact runStages_of_connectionString services w s options hw hservices htext

def withError (s : Session) (error : Option SessionError) : Session :=
  { s with result := { s.result with error } }

theorem settle_eq (s : Session) (halt : Option Halt) :
    ∃ log, s.settle halt =
      (s.write log).withError ((halt.map Halt.toError).or s.result.error) := by
  cases halt with
  | none =>
    refine ⟨[], ?_⟩
    simp [settle, write, withError]
  | some halt =>
    cases halt with
    | fatal error => exact ⟨_, rfl⟩
    | panic payload => exact ⟨_, rfl⟩

theorem noteCancellation_eq (s : Session) :
    s.noteCancellation =
      s.withError (s.result.error.or (if s.cancelled then some .cancelled else none)) := by
  unfold noteCancellation SessionResult.hasError
  cases herror : s.result.error with
  | some error =>
    rw [Option.isSome_some, Bool.not_true, Bool.and_false, Option.some_or, ← herror]
    rfl
  | none =>
    cases hcancelled : s.cancelled with
    | false =>
      rw [Bool.false_and, Option.none_or, if_neg Bool.false_ne_true, if_neg Bool.false_ne_true,
        ← herror]
      rfl
    | true => rfl

/-- The error that an initialisation leaves: what halted it, else the error from before, else the
cancellation. -/
def verdict (options : ClientOptions) (s : Session) : Option SessionError :=
  ((Answer.firstHalt (s.answers options)).map Halt.toError).or
    (s.result.error.or
      (if s.cancelled || (s.answers options).any Answer.cancels then some .cancelled else none))

def heedAll (s : Session) (calls : List Event) (answers : List Answer) (log : List LogLine) :
    Session :=
  (s.heed calls answers log).addMessages (answers.flatMap Answer.messages)

theorem heedAll_halt (s : Session) (halt : Option Halt) (log : List LogLine) :
    s.heedAll [] [{ halt }] log = s.write log := by
  simp [heedAll, heed, write, addMessages, SessionResult.addWarnings, SessionResult.addMessages]

theorem write_heedAll (s : Session) (calls : List Event) (answers : List Answer)
    (log lines : List LogLine) :
    (s.heedAll calls answers log).write lines = s.heedAll calls answers (log ++ lines) := by
  simp [heedAll, heed, write, addMessages]

theorem init_eq (s : Session) (invoker : Invoker) (options : ClientOptions) :
    ∃ log, s.init invoker options =
      (s.heedAll (s.calls options ++ s.relayed (s.calls options)) (s.answers options) log).withError
        (s.verdict options) := by
  have hpasses : Passes (s.calls options) (s.relayed (s.calls options)) (s.answers options)
      (s.write [.info ("Initializing (" ++ invoker.name ++ ")...")])
      ((s.write [.info ("Initializing (" ++ invoker.name ++ ")...")]).runStages options {}) :=
    runStages_eq _ options
  obtain ⟨log, hstages⟩ := hpasses
  rw [write_eq_heed, heed_append, List.nil_append, List.nil_append] at hstages
  obtain ⟨log', hsettle⟩ := settle_eq
    (s.heedAll (s.calls options ++ s.relayed (s.calls options)) (s.answers options)
      ([.info ("Initializing (" ++ invoker.name ++ ")...")] ++ log))
    (Answer.firstHalt (s.answers options))
  rw [write_heedAll] at hsettle
  refine ⟨[.info ("Initializing (" ++ invoker.name ++ ")...")] ++ log ++ log', ?_⟩
  unfold init
  simp only [write_eq_heed, hstages, Channel.drain]
  change (settle (s.heedAll _ _ _) _).noteCancellation = _
  rw [hsettle, noteCancellation_eq]
  unfold verdict
  rw [← Option.or_assoc]
  rfl

theorem init_trace (s : Session) (invoker : Invoker) (options : ClientOptions) :
    (s.init invoker options).trace =
      s.trace ++ s.calls options ++ s.relayed (s.calls options) := by
  obtain ⟨log, hinit⟩ := s.init_eq invoker options
  rw [hinit, List.append_assoc]
  rfl

theorem init_workspace (s : Session) (invoker : Invoker) (options : ClientOptions) :
    (s.init invoker options).workspace = s.workspace := by
  obtain ⟨log, hinit⟩ := s.init_eq invoker options
  rw [hinit]
  rfl

end Session
end WorkspaceSession
