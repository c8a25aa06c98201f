import WorkspaceSession.Status

/-! Where statuses and messages go. Whatever the order of sends, drains and the end of the receiver,
the reporter is told what is meant for it, and as long as the receiver exists no rendered message is
lost: what was received and what is still in the queue make up what was sent. -/
namespace WorkspaceSession.Board

inductive Step where
  | status (hooks : Hooks) (text : String)
  | message (hooks : Hooks) (text : String)
  | receive
  | dropReceiver
deriving DecidableEq

namespace Step

def notice? : Step → Option Notice
  | .status _ text => some (.status text)
  | .message .plain text => some (.message text)
  | _ => none

def rendered? : Step → Option String
  | .message .rendering text => some text
  | _ => none

end Step

def step (b : Board) : Step → List String × Board
  | .status _ text => ([], b.setStatus text)
  | .message hooks text => ([], b.message hooks text)
  | .receive => b.receive
  | .dropReceiver => ([], b.dropReceiver)

def run (b : Board) : List Step → List (List String) × Board
  | [] => ([], b)
  | step :: steps =>
    ((b.step step).1 :: ((b.step step).2.run steps).1, ((b.step step).2.run steps).2)

/-- The receiver drains the channel between the two parts, and never again before it is dropped. -/
structure LastDrain (steps before after : List Step) : Prop where
  split : steps = before ++ .receive :: after
  held : .dropReceiver ∉ before
  last : ∀ between rest, after = between ++ .receive :: rest → .dropReceiver ∈ between

theorem exists_lastDrain {steps before after : List Step}
    (split : steps = before ++ .receive :: after) (held : .dropReceiver ∉ before) :
    ∃ before after, LastDrain steps before after := by
  by_cases hlater : ∃ between rest, after = between ++ .receive :: rest ∧ .dropReceiver ∉ between
  · obtain ⟨between, rest, hafter, hbetween⟩ := hlater
    have split' : steps = (before ++ .receive :: between) ++ .receive :: rest := by
      rw [split, hafter]
      simp
    exact exists_lastDrain split' (by simp [held, hbetween])
  · refine ⟨before, after, split, held, ?_⟩
    intro between rest hafter
    refine Decidable.byContradiction fun hbetween => ?_
    exact hlater ⟨between, rest, hafter, hbetween⟩
termination_by after.length
decreasing_by
  rw [hafter, List.length_append, List.length_cons]
  omega

section

variable (b : Board)

theorem run_append (steps more : List Step) :
    b.run (steps ++ more) =
      ((b.run steps).1 ++ ((b.run steps).2.run more).1, ((b.run steps).2.run more).2) := by
  induction steps generalizing b with
  | nil => rfl
  | cons step steps ih => simp only [List.cons_append, run, ih]

theorem step_told (step : Step) :
    (b.step step).2.reporter = b.reporter ∧
      (b.step step).2.notices = b.notices ++ step.notice?.toList ∧
      (b.step step).2.log = b.log ++ step.notice?.toList.flatMap b.reporter.logLines := by
  rcases step with ⟨hooks, text⟩ | ⟨_ | _, text⟩ | _ | _ <;>
    simp [Board.step, setStatus, message, receive, dropReceiver, tell, Step.notice?]

theorem run_told (steps : List Step) :
    (b.run steps).2.notices = b.notices ++ steps.filterMap Step.notice? ∧
      (b.run steps).2.log =
        b.log ++ (steps.filterMap Step.notice?).flatMap b.reporter.logLines := by
  induction steps generalizing b with
  | nil => simp [run]
  | cons step steps ih =>
    obtain ⟨hreporter, hnotices, hlog⟩ := b.step_told step
    obtain ⟨ihnotices, ihlog⟩ := ih (b.step step).2
    rw [run, ihnotices, ihlog, hnotices, hlog, hreporter]
    cases hnotice : step.notice? <;> simp [hnotice]

theorem step_conserves (step : Step) (hopen : b.channel.isOpen = true)
    (hstep : step ≠ .dropReceiver) :
    (b.step step).2.channel.isOpen = true ∧
      (b.step step).1 ++ (b.step step).2.channel.queue =
        b.channel.queue ++ step.rendered?.toList := by
  rcases step with ⟨hooks, text⟩ | ⟨_ | _, text⟩ | _ | _
  case dropReceiver => exact absurd rfl hstep
  all_goals
    simp [Board.step, setStatus, message, receive, tell, Channel.send, Channel.drain,
      Step.rendered?, hopen]

theorem run_conserves (steps : List Step) (hopen : b.channel.isOpen = true)
    (hsteps : .dropReceiver ∉ steps) :
    (b.run steps).2.channel.isOpen = true ∧
      (b.run steps).1.flatten ++ (b.run steps).2.channel.queue =
        b.channel.queue ++ steps.filterMap Step.rendered? := by
  induction steps generalizing b with
  | nil => simp [run, hopen]
  | cons step steps ih =>
    rw [List.mem_cons, not_or] at hsteps
    obtain ⟨hstep, hsteps⟩ := hsteps
    obtain ⟨hopen', hqueue⟩ := b.step_conserves step hopen (Ne.symm hstep)
    obtain ⟨hrun, ih⟩ := ih (b.step step).2 hopen' hsteps
    refine ⟨hrun, ?_⟩
    rw [run, List.flatten_cons, List.append_assoc, ih, ← List.append_assoc, hqueue]
    cases hrendered : step.rendered? <;> simp [hrendered]

theorem run_of_dropped (steps : List Step) (hdropped : b.channel = ⟨[], false⟩) :
    (b.run steps).1.flatten = [] ∧ (b.run steps).2.channel = ⟨[], false⟩ := by
  induction steps generalizing b with
  | nil => exact ⟨rfl, hdropped⟩
  | cons step steps ih =>
    have hstep : (b.step step).1 = [] ∧ (b.step step).2.channel = ⟨[], false⟩ := by
      rcases step with ⟨hooks, text⟩ | ⟨_ | _, text⟩ | _ | _ <;>
        simp [Board.step, setStatus, message, receive, dropReceiver, tell, Channel.send,
          Channel.drain, Channel.dropReceiver, hdropped]
    obtain ⟨hreceived, hchannel⟩ := ih (b.step step).2 hstep.2
    rw [run, List.flatten_cons, hstep.1, hreceived]
    exact ⟨rfl, hchannel⟩

theorem run_received_of_no_drain (steps : List Step)
    (hlast : ∀ between rest, steps = between ++ .receive :: rest → .dropReceiver ∈ between) :
    (b.run steps).1.flatten = [] := by
  induction steps generalizing b with
  | nil => rfl
  | cons step steps ih =>
    rw [run, List.flatten_cons]
    cases step with
    | receive => exact absurd (hlast [] steps rfl) List.not_mem_nil
    | dropReceiver => exact (b.dropReceiver.run_of_dropped steps rfl).1
    | _ =>
      apply ih
      intro between rest hsteps
      simpa using hlast (_ :: between) rest (congrArg _ hsteps)

theorem run_received_of_lastDrain (steps before after : List Step)
    (hopen : b.channel.isOpen = true) (drain : LastDrain steps before after) :
    (b.run steps).1.flatten = b.channel.queue ++ before.filterMap Step.rendered? := by
  obtain ⟨-, hconserved⟩ := b.run_conserves before hopen drain.held
  rw [drain.split, run_append, run, List.flatten_append, List.flatten_cons,
    run_received_of_no_drain _ after drain.last, List.append_nil]
  exact hconserved

theorem message_of_dropped (steps : List Step) (hdropped : .dropReceiver ∈ steps) (text : String) :
    (b.run steps).2.message .rendering text = (b.run steps).2 := by
  obtain ⟨before, after, rfl⟩ := List.append_of_mem hdropped
  obtain ⟨-, hchannel⟩ := (b.run before).2.dropReceiver.run_of_dropped after rfl
  have hrun : (b.run (before ++ .dropReceiver :: after)).2 =
      ((b.run before).2.dropReceiver.run after).2 := by rw [run_append, run]; rfl
  rw [← hrun] at hchannel
  simp only [message, Channel.send, hchannel]
  rw [if_neg Bool.false_ne_true, ← hchannel]

end

/-- The reporter is told the statuses of both hooks and the messages of the plain ones, in order.
What is received are the messages that the rendering hooks sent before the last drain, each once and
in their order; as long as the receiver exists, those sent since wait in the queue. Once it is gone,
a message of the rendering hooks changes nothing. -/
theorem messages_routed (reporter : Reporter) (steps : List Step) :
    (Board.run { reporter } steps).2.notices = steps.filterMap Step.notice? ∧
    (Board.run { reporter } steps).2.log =
      (steps.filterMap Step.notice?).flatMap reporter.logLines ∧
    (∀ before after, LastDrain steps before after →
      (Board.run { reporter } steps).1.flatten = before.filterMap Step.rendered?) ∧
    ((∀ before after, ¬ LastDrain steps before after) →
      (Board.run { reporter } steps).1.flatten = []) ∧
    (.dropReceiver ∉ steps →
      (Board.run { reporter } steps).1.flatten ++ (Board.run { reporter } steps).2.channel.queue =
        steps.filterMap Step.rendered?) ∧
    (.dropReceiver ∈ steps → ∀ text,
      (Board.run { reporter } steps).2.message .rendering text =
        (Board.run { reporter } steps).2) := by
  obtain ⟨hnotices, hlog⟩ := Board.run_told { reporter } steps
  refine ⟨hnotices, hlog, ?_, ?_, ?_, Board.message_of_dropped { reporter } steps⟩
  · intro before after drain
    exact Board.run_received_of_lastDrain { reporter } steps before after rfl drain
  · intro hnone
    apply Board.run_received_of_no_drain
    intro between rest split
    refine Decidable.byContradiction fun held => ?_
    obtain ⟨before, after, drain⟩ := exists_lastDrain split held
    exact hnone before after drain
  · intro hheld
    exact (Board.run_conserves { reporter } steps rfl hheld).2

/-- Two drains, a message that waits when the receiver goes, and one that comes too late. -/
def dropped : List Step :=
  [.status .plain "connecting", .message .rendering "first", .receive,
    .message .plain "plain", .message .rendering "second", .receive,
    .message .rendering "waiting", .dropReceiver, .status .rendering "done",
    .message .rendering "late", .receive]

theorem dropped_lastDrain : LastDrain dropped (dropped.take 5) (dropped.drop 6) := by
  refine ⟨rfl, by decide, ?_⟩
  -- the receiver goes in the second step after the drain
  rintro (_ | ⟨first, _ | ⟨second, between⟩⟩) rest hsplit
  · cases hsplit
  · cases hsplit
  · obtain ⟨rfl, rfl, -⟩ : _ ∧ _ ∧ _ := by simpa [dropped] using hsplit
    simp

theorem dropped_routed :
    (Board.run { reporter := .external } dropped).1.flatten = ["first", "second"] ∧
      (Board.run { reporter := .external } dropped).2.message .rendering "later" =
        (Board.run { reporter := .external } dropped).2 ∧
      (Board.run { reporter := .external } (dropped.take 7)).1.flatten ++ ["waiting"] =
        ["first", "second", "waiting"] ∧
      (Board.run { reporter := .external } [.message .rendering "unread"]).1.flatten = [] := by
  obtain ⟨-, -, hdrained, -, -, hlate⟩ := messages_routed .external dropped
  obtain ⟨-, -, -, -, hheld, -⟩ := messages_routed .external (dropped.take 7)
  obtain ⟨-, -, -, hnone, -⟩ := messages_routed .external [.message .rendering "unread"]
  refine ⟨hdrained _ _ dropped_lastDrain, hlate (by decide) "later", hheld (by decide), hnone ?_⟩
  rintro before after ⟨split, -, -⟩
  have hmem : Step.receive ∈ [Step.message .rendering "unread"] := by simp [split]
  simp at hmem

end WorkspaceSession.Board
