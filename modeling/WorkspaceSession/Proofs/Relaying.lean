import WorkspaceSession.Proofs.CallPlan

/-! What a connector sends by hooks that render. Its messages queue up in the channel, in the order
in which they were sent, and only what is left of its notices goes on to the reporter. -/
namespace WorkspaceSession

@[simp] theorem Hooks.forwards_status (hooks : Hooks) (text : String) :
    hooks.forwards (.status text) = true := by
  cases hooks <;> rfl

@[simp] theorem Hooks.forwards_rendering_message (text : String) :
    Hooks.rendering.forwards (.message text) = false := rfl

@[simp] theorem Notice.messageText?_status (text : String) :
    (Notice.status text).messageText? = none := rfl

@[simp] theorem Notice.messageText?_message (text : String) :
    (Notice.message text).messageText? = some text := rfl

theorem Board.foldl_send_rendering (b : Board) (notices : List Notice)
    (hopen : b.channel.isOpen = true) :
    ∃ log, notices.foldl (Board.send .rendering) b =
      { b with
        notices := b.notices ++ notices.filter Hooks.rendering.forwards
        log := b.log ++ log
        channel := { b.channel with
          queue := b.channel.queue ++ notices.filterMap Notice.messageText? } } := by
  induction notices generalizing b with
  | nil => exact ⟨[], by simp⟩
  | cons n notices ih =>
    cases n with
    | status text =>
      obtain ⟨log, hlog⟩ := ih (b.send .rendering (.status text)) hopen
      refine ⟨b.reporter.logLines (.status text) ++ log, ?_⟩
      rw [List.foldl_cons, hlog]
      simp [Board.send, Board.setStatus, Board.tell, List.filterMap_cons]
    | message text =>
      have hsend : b.send .rendering (.message text) =
          { b with channel := { b.channel with queue := b.channel.queue ++ [text] } } := by
        simp [Board.send, Board.message, Channel.send, hopen]
      obtain ⟨log, hlog⟩ := ih (b.send .rendering (.message text)) (by rw [hsend]; exact hopen)
      refine ⟨log, ?_⟩
      rw [List.foldl_cons, hlog, hsend]
      simp

theorem Session.accept_rendering (s : Session) (reporter : Reporter) (c : Connection)
    (hback : c.callsBack = false) :
    ∃ log, s.accept reporter .rendering {} c =
      ({ s with
          trace := s.trace ++ c.relays
          log := s.log ++ log
          cancelled := s.cancelled || c.cancels },
        { queue := c.texts }) := by
  obtain ⟨log, hboard⟩ := Board.foldl_send_rendering { reporter } c.sends rfl
  refine ⟨c.log ++ log, ?_⟩
  unfold Session.accept Session.relay
  rw [hboard, hback]
  simp [absorb, Connection.relays, Connection.texts]

/-- All is sent in the order given, unless the reporter panics at a notice: that one is the last. -/
theorem Hooks.sent_eq_take (hooks : Hooks) (reaction : (moment : Nat) → Notice → Reaction)
    (moment : Nat) (notices : List Notice) :
    ∃ count, (hooks.send reaction moment notices).sent = notices.take count ∧
      ((hooks.send reaction moment notices).panic = none → count = notices.length) := by
  induction notices generalizing moment with
  | nil => exact ⟨0, rfl, fun _ => rfl⟩
  | cons n notices ih =>
    simp only [send]
    split
    · split
      · next hpanic =>
        refine ⟨1, rfl, ?_⟩
        intro hnone
        rw [hnone] at hpanic
        contradiction
      · obtain ⟨count, hsent, hall⟩ := ih (moment + 1)
        exact ⟨count + 1, by simp [hsent], fun hnone => by simp [hall hnone]⟩
    · obtain ⟨count, hsent, hall⟩ := ih moment
      exact ⟨count + 1, by simp [hsent], fun hnone => by simp [hall hnone]⟩

/-- A connect that gives a client sent all that its connector had to send. -/
theorem Services.connect_sends_of_done (services : Services) (hooks : Hooks)
    (callback : Option Callback) (moment : Nat) (text : String) (cancelled : Bool)
    (options : ClientOptions) (spec : ClientSpec)
    (hdone : (services.connect hooks callback moment text cancelled options).outcome =
      .done spec) :
    (services.connect hooks callback moment text cancelled options).sends =
      (services.connector moment text cancelled callback options).sends := by
  simp only [connect] at hdone ⊢
  obtain ⟨count, hsent, hall⟩ := hooks.sent_eq_take services.reaction (moment + 1)
    (services.connector moment text cancelled callback options).sends
  cases hpanic : (hooks.send services.reaction (moment + 1)
      (services.connector moment text cancelled callback options).sends).panic with
  | some payload => simp [hpanic] at hdone
  | none => rw [hsent, hall hpanic, List.take_length]

theorem Hooks.send_of_calm (hooks : Hooks) (moment : Nat) (notices : List Notice) :
    hooks.send (fun _ _ => {}) moment notices = { sent := notices } := by
  induction notices generalizing moment with
  | nil => rfl
  | cons n notices ih => simp [send, ih]

theorem Services.connect_of_calm (services : Services) (calm : services.reaction = fun _ _ => {})
    (hooks : Hooks) (callback : Option Callback) (moment : Nat) (text : String) (cancelled : Bool)
    (options : ClientOptions) :
    services.connect hooks callback moment text cancelled options =
      let reply := services.connector moment text cancelled callback options
      { reply with callsBack := reply.callsBack && callback.isSome } := by
  simp [connect, calm, Hooks.send_of_calm]

theorem Services.relayed_of_silent (services : Services)
    (silent : ∀ moment text cancelled options,
      (services.connector moment text cancelled none options).sends = [])
    (moment : Nat) (calls : List Event) : services.relayed moment calls = [] := by
  unfold relayed gather
  rw [List.flatMap_eq_nil_iff]
  intro connection hconnection
  obtain ⟨⟨call, moment⟩, -, hgiven⟩ := List.mem_filterMap.mp hconnection
  cases call with
  | connect text cancelled options =>
    obtain rfl := Option.some.inj hgiven
    simp [Connection.relays, connect, silent, Hooks.send]
  | _ => simp [connection?] at hgiven

end WorkspaceSession
