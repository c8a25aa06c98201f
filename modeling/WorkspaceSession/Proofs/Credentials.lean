import WorkspaceSession.Client.Connection
import WorkspaceSession.Proofs.UrlReading

/-! Credentials in a connection string. What is read behind them is read as if they were not there,
and no error shows them: of the whole string an error says the scheme at most. -/
namespace WorkspaceSession

def StaysInAuthority (s : String) : Prop := ∀ c ∈ s.toList, c ∉ ['/', '?', '#']

/-- What follows credentials: it begins with a host, and no `@` comes before the first `/`, `?` or
`#`. White space at its end and line ends do not count. -/
structure Destination (r : String) : Prop where
  host : ∃ c ∈ (Url.cleanTail r.toList).head?, c ∉ [':', '/', '?', '#']
  plain : '@' ∉ r.toList.takeWhile fun c => c ∉ ['/', '?', '#']

namespace Url

theorem not_mem_authority {cs : List Char} {d : Char}
    (h : d ∉ cs.takeWhile fun c => c ∉ ['/', '?', '#']) :
    d ∉ (cleanTail cs).takeWhile fun c => !endsAuthority false c := by
  have heq : (fun c => decide (c ∉ ['/', '?', '#'])) = fun c => !endsAuthority false c := by
    funext c
    simp only [← endsAuthority_iff, Bool.not_eq_true, Bool.decide_eq_false]
  rw [heq] at h
  refine not_mem_takeWhile_cleanTail ?_ h
  intro c hc
  have hmem := (endsAuthority_iff c).mp (by simpa using hc)
  simp only [List.mem_cons, List.not_mem_nil, or_false] at hmem
  rcases hmem with rfl | rfl | rfl <;> decide

theorem spanHost_ne_nil {cs : List Char} (h : ∃ c ∈ cs.head?, c ∉ [':', '/', '?', '#']) :
    (spanHost false false cs).1 ≠ [] := by
  obtain ⟨c, hc, hplain⟩ := h
  cases cs with
  | nil => cases hc
  | cons d rest =>
    obtain rfl : d = c := Option.some.inj hc
    rw [List.mem_cons, not_or] at hplain
    obtain ⟨hcolon, hplain⟩ := hplain
    rw [spanHost]
    simp [endsAuthority_eq_false hplain, hcolon]

end Url

/-- What stands for a connection string in a message, where `shown` is how one that can be read is
shown. -/
def redacted (shown : String → String) (s : String) : String :=
  match Url.parse s with
  | .ok _ => shown s
  | .error _ => "<unparseable>"

theorem redacted_of_error {shown : String → String} {s : String} {fault : Url.UrlFault}
    (h : Url.parse s = .error fault) : redacted shown s = "<unparseable>" := by
  unfold redacted
  rw [h]

/-- All that an error says of a connection string: nothing, or the scheme in front of the first
colon. -/
inductive Says (s : String) : ErrorChain → Prop where
  | unparseable {fault : Url.UrlFault} : Url.parse s = .error fault →
    Says s ⟨"Invalid connection string: <unparseable>", [fault.message]⟩
  | scheme {written rest : List Char} : Url.clean s = written ++ ':' :: rest →
    (∀ c ∈ written, Url.isSchemeChar c = true) →
    Says s ⟨"unsupported connection string scheme '" ++ String.ofList (written.map Char.toLower) ++
      "', expected postgres", []⟩
  | noHost : Says s ⟨"connection string has no host", []⟩

namespace Endpoint

theorem says_of_parse {s : String} {e : EndpointError} (h : parse s = .error e) :
    Says s e.toChain := by
  unfold parse at h
  split at h
  · next fault hfault =>
    obtain rfl := Except.error.inj h
    exact .unparseable hfault
  · next url hurl =>
    split at h
    · obtain rfl := Except.error.inj h
      obtain ⟨written, rest, hclean, hwritten, hscheme⟩ := Url.exists_scheme_of_parse hurl
      unfold EndpointError.toChain
      rw [hscheme]
      exact .scheme hclean hwritten
    · split at h
      · obtain rfl := Except.error.inj h
        exact .noHost
      · cases h

theorem parse_plain {r : String} (hr : Destination r) :
    Url.parse ("postgres://" ++ r) = Url.readPlace "postgres".toList (Url.cleanTail r.toList) := by
  have hclean : Url.clean ("postgres://" ++ r) =
      "postgres".toList ++ "://".toList ++ Url.cleanTail r.toList := by
    rw [Url.clean_eq_cleanTail (by simp), String.toList_append]
    exact Url.cleanTail_append_of_lt (by simp) r.toList
  rw [Url.parse_of_clean (by decide) hclean]
  exact Url.readAuthority_eq (Url.splitCredentials_of_not_mem (Url.not_mem_authority hr.plain))
    (Url.spanHost_ne_nil hr.host)

/-- The credentials are passed over, whatever they are once line ends are taken out of them. -/
theorem parse_withCredentials {user password r : String} (huser : StaysInAuthority user)
    (hpassword : StaysInAuthority password) (hr : Destination r) :
    Url.parse ("postgres://" ++ user ++ ":" ++ password ++ "@" ++ r) =
      Url.readPlace "postgres".toList (Url.cleanTail r.toList) := by
  have hne : Url.cleanTail r.toList ≠ [] := by
    obtain ⟨c, hc, -⟩ := hr.host
    rintro hnil
    rw [hnil] at hc
    cases hc
  let credentials := user.toList.filter Url.isCounted ++ ':' ::
    password.toList.filter Url.isCounted
  have hclean : Url.clean ("postgres://" ++ user ++ ":" ++ password ++ "@" ++ r) =
      "postgres".toList ++ "://".toList ++ (credentials ++ '@' :: Url.cleanTail r.toList) := by
    rw [Url.clean_eq_cleanTail (by simp), String.toList_append, Url.cleanTail_append _ hne]
    have hscheme : "postgres://".toList.filter Url.isCounted =
        "postgres".toList ++ "://".toList := by decide
    have hcolon : ":".toList.filter Url.isCounted = [':'] := by decide
    have hat : "@".toList.filter Url.isCounted = ['@'] := by decide
    simp only [String.toList_append, List.filter_append, hscheme, hcolon, hat, credentials,
      List.append_assoc, List.cons_append, List.nil_append]
  have hplain : ∀ c ∈ credentials, Url.endsAuthority false c = false := by
    intro c hc
    apply Url.endsAuthority_eq_false
    rcases List.mem_append.mp hc with hc | hc
    · exact huser c (List.mem_filter.mp hc).1
    · rcases List.mem_cons.mp hc with rfl | hc
      · decide
      · exact hpassword c (List.mem_filter.mp hc).1
  rw [Url.parse_of_clean (by decide) hclean]
  exact Url.readAuthority_eq
    (Url.splitCredentials_append (by simp [credentials]) hplain (Url.not_mem_authority hr.plain))
    (Url.spanHost_ne_nil hr.host)

theorem parse_eq_unparseable {s : String} {fault : Url.UrlFault}
    (h : parse s = .error (.unparseable fault)) : Url.parse s = .error fault := by
  unfold parse at h
  split at h
  · next hfault =>
    obtain rfl := EndpointError.unparseable.inj (Except.error.inj h)
    exact hfault
  · split at h
    · cases h
    · split at h <;> cases h

theorem outcome_greet_ne (client : TcpClient) (callback : Option Callback) (chain : ErrorChain) :
    (greet client callback).outcome ≠ .failed chain := by
  unfold greet
  simp only
  generalize ((callback.map fun call => call client.spec).getD ({} : Reaction)).panic = panic
  cases panic <;> simp

theorem says_of_connect {answers shutdowns : (address : String) → Except HostError Unit}
    {s : String} {cancelled : Bool} {callback : Option Callback} {chain : ErrorChain}
    (h : (connect answers shutdowns s cancelled callback).outcome = .failed chain) :
    Says s chain ∨ ∃ endpoint, parse s = .ok endpoint ∧
      (chain = ⟨"connection to " ++ endpoint.address ++ " cancelled", []⟩ ∨
        ∃ fault, answers endpoint.address = .error fault ∧
          chain = ⟨"Failed to connect to " ++ endpoint.address, [fault.message]⟩) := by
  unfold connect at h
  split at h
  · next e he =>
    obtain rfl := Outcome.failed.inj h
    exact .inl (says_of_parse he)
  · next endpoint hparse =>
    refine .inr ⟨endpoint, hparse, ?_⟩
    split at h
    · exact .inl (Outcome.failed.inj h).symm
    · split at h
      · next fault hfault => exact .inr ⟨fault, hfault, (Outcome.failed.inj h).symm⟩
      · exact absurd h (outcome_greet_ne _ callback chain)

/-- Credentials neither count nor leak. A connection string is read as the one without them, as an
endpoint or as the same error, and a connection goes the same way. An error says nothing of the
string but its scheme, and shows no text of one that cannot be read; what a connection that fails or
is cancelled says beyond that is the address. -/
theorem credentials_hidden :
    (∀ user password r : String, StaysInAuthority user → StaysInAuthority password → Destination r →
      parse ("postgres://" ++ user ++ ":" ++ password ++ "@" ++ r) = parse ("postgres://" ++ r) ∧
      ∀ answers shutdowns cancelled callback,
        connect answers shutdowns ("postgres://" ++ user ++ ":" ++ password ++ "@" ++ r) cancelled
            callback =
          connect answers shutdowns ("postgres://" ++ r) cancelled callback) ∧
      (∀ s e, parse s = .error e → Says s e.toChain ∧ ∀ fault, e = .unparseable fault →
        ∀ shown, e.toChain.outermost = "Invalid connection string: " ++ redacted shown s) ∧
      ∀ answers shutdowns s cancelled callback chain,
        (connect answers shutdowns s cancelled callback).outcome = .failed chain →
        Says s chain ∨ ∃ endpoint, parse s = .ok endpoint ∧
          (chain = ⟨"connection to " ++ endpoint.address ++ " cancelled", []⟩ ∨
            ∃ fault, answers endpoint.address = .error fault ∧
              chain = ⟨"Failed to connect to " ++ endpoint.address, [fault.message]⟩) := by
  refine ⟨?_, ?_, ?_⟩
  · intro user password r huser hpassword hr
    have hparse : parse ("postgres://" ++ user ++ ":" ++ password ++ "@" ++ r) =
        parse ("postgres://" ++ r) := by
      unfold parse
      rw [parse_withCredentials huser hpassword hr, parse_plain hr]
    refine ⟨hparse, ?_⟩
    intro answers shutdowns cancelled callback
    unfold connect
    rw [hparse]
  · intro s e he
    refine ⟨says_of_parse he, ?_⟩
    rintro fault rfl shown
    rw [redacted_of_error (parse_eq_unparseable he)]
    rfl
  · exact fun answers shutdowns s cancelled callback chain => says_of_connect

theorem odd_credentials_hidden :
    StaysInAuthority "a:b" ∧ StaysInAuthority "p@:1[@\t" ∧
      Destination "Db.example:5433/sales?at=@" ∧
      parse ("postgres://" ++ "a:b" ++ ":" ++ "p@:1[@\t" ++ "@" ++ "Db.example:5433/sales?at=@") =
        .ok ⟨"Db.example", 5433, some "sales"⟩ := by
  have huser : StaysInAuthority "a:b" := by simp [StaysInAuthority]
  have hpassword : StaysInAuthority "p@:1[@\t" := by simp [StaysInAuthority]
  have hr : Destination "Db.example:5433/sales?at=@" := ⟨⟨'D', by decide, by decide⟩, by decide⟩
  refine ⟨huser, hpassword, hr, ?_⟩
  rw [(credentials_hidden.1 _ _ _ huser hpassword hr).1]
  rfl

end Endpoint

end WorkspaceSession
