import WorkspaceSession.Client.Endpoint
import WorkspaceSession.Proofs.Fallible

/-! Reading URLs of schemes that are none of the web, part by part: what is cut off at the end of a
text, the scheme, the credentials, and what is left once they are passed over. -/
namespace WorkspaceSession.Url

/-- Whether a character counts wherever it stands. -/
def isCounted (c : Char) : Bool := c ≠ '\t' && c ≠ '\n' && c ≠ '\x0d'

def cleanTail (cs : List Char) : List Char :=
  (cs.reverse.dropWhile fun c => c.toNat ≤ 0x20).reverse.filter isCounted

theorem isCounted_of_lt {c : Char} (h : 0x20 < c.toNat) : isCounted c = true := by
  have hne (d : Char) (hd : d.toNat ≤ 0x20) : c ≠ d := by
    rintro rfl
    omega
  simp [isCounted, hne '\t' (by decide), hne '\n' (by decide), hne '\x0d' (by decide)]

theorem clean_eq_cleanTail {s : String} (h : ∀ c ∈ s.toList.head?, 0x20 < c.toNat) :
    clean s = cleanTail s.toList := by
  unfold clean cleanTail Text.stripBoth
  rw [Text.dropWhile_of_head fun c hc => decide_eq_false (Nat.not_le.mpr (h c hc))]
  rfl

theorem cleanTail_append (front : List Char) {behind : List Char} (h : cleanTail behind ≠ []) :
    cleanTail (front ++ behind) = front.filter isCounted ++ cleanTail behind := by
  have hne : behind.reverse.dropWhile (fun c => decide (c.toNat ≤ 0x20)) ≠ [] := by
    intro hnil
    unfold cleanTail at h
    rw [hnil] at h
    exact h rfl
  unfold cleanTail
  rw [List.reverse_append, List.dropWhile_append, if_neg (by simpa using hne), List.reverse_append,
    List.reverse_reverse, List.filter_append]

theorem cleanTail_append_of_lt {front : List Char} (h : ∀ c ∈ front, 0x20 < c.toNat)
    (behind : List Char) : cleanTail (front ++ behind) = front ++ cleanTail behind := by
  have hcounted : front.filter isCounted = front := by
    rw [List.filter_eq_self]
    intro c hc
    exact isCounted_of_lt (h c hc)
  have hfront : front.reverse.dropWhile (fun c => decide (c.toNat ≤ 0x20)) = front.reverse := by
    apply Text.dropWhile_of_head
    intro c hc
    have hmem : c ∈ front := List.mem_reverse.mp (List.mem_of_head? hc)
    exact decide_eq_false (Nat.not_le.mpr (h c hmem))
  unfold cleanTail
  rw [List.reverse_append, List.dropWhile_append]
  split
  · next hnil =>
    rw [List.isEmpty_iff] at hnil
    rw [hfront, hnil, List.reverse_reverse, hcounted]
    exact (List.append_nil front).symm
  · rw [List.reverse_append, List.reverse_reverse, List.filter_append, hcounted]

theorem cleanTail_cons {c : Char} (h : 0x20 < c.toNat) (cs : List Char) :
    cleanTail (c :: cs) = c :: cleanTail cs :=
  cleanTail_append_of_lt (List.forall_mem_singleton.mpr h) cs

theorem mem_of_mem_cleanTail {cs : List Char} {c : Char} (h : c ∈ cleanTail cs) : c ∈ cs := by
  unfold cleanTail at h
  have hmem := List.mem_reverse.mp (List.mem_filter.mp h).1
  exact List.mem_reverse.mp ((List.dropWhile_sublist _).mem hmem)

/-- What is read up to a character that counts everywhere gains nothing when a text is cleaned. -/
theorem not_mem_takeWhile_cleanTail {p : Char → Bool} {cs : List Char} {d : Char}
    (hp : ∀ c, p c = false → 0x20 < c.toNat) (h : d ∉ cs.takeWhile p) :
    d ∉ (cleanTail cs).takeWhile p := by
  intro hd
  have hsplit := cs.takeWhile_append_dropWhile (p := p)
  have hfront : ∀ c ∈ cs.takeWhile p, p c = true := List.all_eq_true.mp List.all_takeWhile
  have hend := cs.head?_dropWhile_not p
  generalize cs.takeWhile p = front at h hsplit hfront
  generalize cs.dropWhile p = behind at hsplit hend
  subst hsplit
  cases behind with
  | nil =>
    rw [List.append_nil] at hd
    exact h (mem_of_mem_cleanTail ((List.takeWhile_sublist p).mem hd))
  | cons e behind =>
    have he : p e = false := hend
    have htail := cleanTail_cons (hp e he) behind
    have hne : cleanTail (e :: behind) ≠ [] := by
      rw [htail]
      exact List.cons_ne_nil _ _
    rw [cleanTail_append front hne, htail,
      List.takeWhile_append_of_pos (fun c hc => hfront c (List.mem_filter.mp hc).1),
      List.takeWhile_cons_of_neg (Bool.eq_false_iff.mp he), List.append_nil] at hd
    exact h (List.mem_filter.mp hd).1

theorem parse_of_clean {scheme s : String} {rest : List Char} (hscheme : scheme ∈ Endpoint.schemes)
    (hclean : clean s = scheme.toList ++ "://".toList ++ rest) :
    parse s = readAuthority scheme.toList false rest := by
  unfold parse
  rw [hclean]
  simp only [Endpoint.schemes, List.mem_cons, List.not_mem_nil, or_false] at hscheme
  rcases hscheme with rfl | rfl <;> rfl

theorem endsAuthority_iff (c : Char) : endsAuthority false c = true ↔ c ∈ ['/', '?', '#'] := by
  simp [endsAuthority, or_assoc]

theorem endsAuthority_eq_false {c : Char} (h : c ∉ ['/', '?', '#']) :
    endsAuthority false c = false := by
  rw [← endsAuthority_iff] at h
  exact Bool.eq_false_iff.mpr h

theorem splitCredentials_of_not_mem {cs : List Char}
    (h : '@' ∉ cs.takeWhile fun c => !endsAuthority false c) :
    splitCredentials false cs = .ok (false, cs) := by
  unfold splitCredentials
  simp only [Text.splitLast?_of_not_mem h]

/-- Whatever stands in the credentials, the last `@` ends them. -/
theorem splitCredentials_append {credentials after : List Char} (hne : credentials ≠ [])
    (hplain : ∀ c ∈ credentials, endsAuthority false c = false)
    (hafter : '@' ∉ after.takeWhile fun c => !endsAuthority false c) :
    splitCredentials false (credentials ++ '@' :: after) =
      .ok (decide (credentials ≠ [':']), after) := by
  have hcredentials : ∀ c ∈ credentials, !endsAuthority false c := by
    intro c hc
    rw [hplain c hc]
    rfl
  have hauthority : (credentials ++ '@' :: after).takeWhile (fun c => !endsAuthority false c) =
      credentials ++ '@' :: after.takeWhile fun c => !endsAuthority false c := by
    rw [List.takeWhile_append_of_pos hcredentials, List.takeWhile_cons_of_pos rfl]
  have hbehind : after.takeWhile (fun c => !endsAuthority false c) ++
      (credentials ++ '@' :: after).drop
        (credentials ++ '@' :: after.takeWhile fun c => !endsAuthority false c).length = after := by
    rw [List.length_append, List.drop_length_add_append, List.length_cons, List.drop_succ_cons]
    exact List.prefix_iff_eq_append.mp (List.takeWhile_prefix _)
  unfold splitCredentials
  simp only [hauthority, Text.splitLast?_append_cons credentials hafter]
  cases credentials with
  | nil => contradiction
  | cons c credentials =>
    exact congrArg (fun rest => Except.ok (decide (c :: credentials ≠ [':']), rest)) hbehind

theorem readBracketed_ne_nil {cs host : List Char} (h : readBracketed cs = .ok host) :
    host ≠ [] := by
  unfold readBracketed at h
  split at h
  · split at h
    · obtain rfl := Except.ok.inj h
      exact List.cons_ne_nil _ _
    · cases h
  · cases h

theorem percentChar_ne_nil (c : Char) : percentChar c ≠ [] := by
  unfold percentChar
  cases hbytes : String.utf8EncodeChar c with
  | nil => exact absurd hbytes String.utf8EncodeChar_ne_nil
  | cons b bs =>
    rw [List.flatMap_cons]
    exact List.append_ne_nil_of_left_ne_nil (List.cons_ne_nil _ _) _

theorem percentEncode_ne_nil {set : Char → Bool} {cs : List Char} (h : cs ≠ []) :
    percentEncode set cs ≠ [] := by
  cases cs with
  | nil => contradiction
  | cons c cs =>
    unfold percentEncode
    rw [List.flatMap_cons]
    apply List.append_ne_nil_of_left_ne_nil
    split
    · exact percentChar_ne_nil c
    · exact List.cons_ne_nil _ _

theorem readOpaqueHost_ne_nil {cs host : List Char} (hne : cs ≠ [])
    (h : readOpaqueHost cs = .ok host) : host ≠ [] := by
  unfold readOpaqueHost at h
  split at h
  · exact readBracketed_ne_nil h
  · split at h
    · cases h
    · obtain rfl := Except.ok.inj h
      exact percentEncode_ne_nil hne

def readPlace (scheme cs : List Char) : Except UrlFault Url := do
  let (written, cs) := spanHost false false cs
  let host ← readOpaqueHost written
  let (port, cs) ← readPort cs
  return { scheme, host, port, path := readPath false cs }

theorem readAuthority_eq {scheme cs rest : List Char} {present : Bool}
    (hsplit : splitCredentials false cs = .ok (present, rest))
    (hhost : (spanHost false false rest).1 ≠ []) :
    readAuthority scheme false cs = readPlace scheme rest := by
  unfold readAuthority readPlace
  rw [hsplit]
  cases hhostRead : readOpaqueHost (spanHost false false rest).1 with
  | error fault => simp [hhostRead, bind, Except.bind]
  | ok host =>
    have hne := readOpaqueHost_ne_nil hhost hhostRead
    simp [hhostRead, bind, Except.bind, pure, Except.pure, hne]

theorem spanHost_append {host rest : List Char}
    (hhost : ∀ c ∈ host, c ∉ [':', '[', '/', '?', '#'])
    (hrest : ∀ c ∈ rest.head?, c ∈ [':', '/', '?', '#']) :
    spanHost false false (host ++ rest) = (host, rest) := by
  induction host with
  | nil =>
    cases rest with
    | nil => rfl
    | cons c rest =>
      have hc := hrest c rfl
      rw [List.nil_append, spanHost, if_pos]
      rw [List.mem_cons, ← endsAuthority_iff] at hc
      rcases hc with hc | hc <;> simp [hc]
  | cons c host ih =>
    obtain ⟨hc, hhost⟩ := List.forall_mem_cons.mp hhost
    simp only [List.mem_cons, not_or] at hc
    obtain ⟨hcolon, hbracket, hends⟩ := hc
    have hplain : endsAuthority false c = false := endsAuthority_eq_false (by simpa using hends)
    rw [List.cons_append, spanHost]
    simp [hplain, hcolon, hbracket, ih hhost]

theorem percentEncode_eq_self {set : Char → Bool} {cs : List Char}
    (h : ∀ c ∈ cs, isControl c = false ∧ set c = false) : percentEncode set cs = cs := by
  induction cs with
  | nil => rfl
  | cons c cs ih =>
    obtain ⟨⟨hcontrol, hset⟩, hcs⟩ := List.forall_mem_cons.mp h
    unfold percentEncode at ih ⊢
    rw [List.flatMap_cons, ih hcs, hcontrol, hset]
    rfl

theorem readPort_of_head {cs : List Char} (h : ∀ c ∈ cs.head?, c ≠ ':') :
    readPort cs = .ok (none, cs) := by
  unfold readPort
  split
  · next rest => exact absurd rfl (h ':' rfl)
  · rfl

theorem readPort_digits {digits rest : List Char} (hdigits : ∀ c ∈ digits, c.isDigit = true)
    (hrest : ∀ c ∈ rest.head?, c ∈ ['/', '?', '#']) :
    readPort (':' :: (digits ++ rest)) =
      if 65535 < Text.decimalValue digits then .error .invalidPort
      else .ok (readPort.portOf digits, rest) := by
  have hhead : ∀ c ∈ rest.head?, c.isDigit = false := by
    intro c hc
    have hmem := hrest c hc
    simp only [List.mem_cons, List.not_mem_nil, or_false] at hmem
    rcases hmem with rfl | rfl | rfl <;> rfl
  have htake : (digits ++ rest).takeWhile Char.isDigit = digits := by
    rw [List.takeWhile_append_of_pos hdigits, Text.takeWhile_of_head hhead, List.append_nil]
  have hdrop : (digits ++ rest).dropWhile Char.isDigit = rest := by
    rw [List.dropWhile_append_of_pos hdigits, Text.dropWhile_of_head hhead]
  unfold readPort
  simp only [htake, hdrop]
  by_cases hlarge : 65535 < Text.decimalValue digits
  · rw [if_pos (show Nat.pow 2 16 ≤ _ from hlarge), if_pos hlarge]
  · rw [if_neg (show ¬ Nat.pow 2 16 ≤ _ from hlarge), if_neg hlarge]
    cases rest with
    | nil => rfl
    | cons c rest =>
      have hends : endsAuthority true c = true := by
        have hplain := (endsAuthority_iff c).mpr (hrest c rfl)
        simp only [endsAuthority, Bool.false_and, Bool.or_false] at hplain
        rw [endsAuthority, hplain]
        rfl
      dsimp only
      rw [if_pos hends]

theorem addSegments_eq {path : List Char} {segments : List (List Char)}
    (h : ∀ segment ∈ segments, isDot segment = false ∧ isDoubleDot segment = false) :
    addSegments path segments = path ++ Text.glue ['/'] segments := by
  fun_induction addSegments path segments with
  | case1 path => simp [Text.glue]
  | case2 path segment =>
    obtain ⟨hdot, hdouble⟩ := h segment List.mem_cons_self
    simp [addSegment, hdot, hdouble, Text.glue]
  | case3 path segment rest hne ih =>
    obtain ⟨⟨hdot, hdouble⟩, hrest⟩ := List.forall_mem_cons.mp h
    rw [ih hrest]
    cases rest with
    | nil => exact absurd rfl hne
    | cons other rest => simp [addSegment, hdot, hdouble, Text.glue]

theorem exists_of_splitScheme? {cs scheme rest : List Char}
    (h : splitScheme? cs = some (scheme, rest)) :
    ∃ written, cs = written ++ ':' :: rest ∧ (∀ c ∈ written, isSchemeChar c = true) ∧
      scheme = written.map Char.toLower := by
  unfold splitScheme? at h
  split at h
  · next c written rest' htake hdrop =>
    split at h
    · obtain ⟨rfl, rfl⟩ := Prod.mk.inj (Option.some.inj h)
      refine ⟨c :: written, ?_, ?_, rfl⟩
      · rw [← htake, ← hdrop, List.takeWhile_append_dropWhile]
      · rw [← htake]
        exact List.all_eq_true.mp List.all_takeWhile
    · cases h
  · cases h

theorem scheme_of_readAuthority (scheme cs : List Char) (web : Bool) :
    Yields (fun url => url.scheme = scheme) (readAuthority scheme web cs) := by
  unfold readAuthority
  -- Each guard throws or goes on, and the text goes on under both.
  refine .bind fun found => .ite (.bind fun _ => ?_) ?_
  all_goals refine .ite (.bind fun host => ?_) (.bind fun host => ?_)
  all_goals refine .ite (.bind fun _ => .bind fun port => ?_) (.bind fun port => ?_)
  all_goals exact .ite (.bind fun _ => .pure rfl) (.pure rfl)

theorem scheme_of_readFile (scheme cs : List Char) :
    Yields (fun url => url.scheme = scheme) (readFile scheme cs) := by
  unfold readFile
  split
  · exact .ite (.ite (.pure rfl) (.bind fun host => .pure rfl)) (.pure rfl)
  · exact .pure rfl

theorem exists_scheme_of_parse {s : String} {url : Url} (h : parse s = .ok url) :
    ∃ written rest, clean s = written ++ ':' :: rest ∧
      (∀ c ∈ written, isSchemeChar c = true) ∧ url.scheme = written.map Char.toLower := by
  unfold parse at h
  split at h
  · cases h
  · next scheme rest hsplit =>
    obtain ⟨written, hclean, hwritten, rfl⟩ := exists_of_splitScheme? hsplit
    refine ⟨written, rest, hclean, hwritten, ?_⟩
    split at h
    · exact scheme_of_readAuthority _ _ _ url h
    · split at h
      · exact scheme_of_readFile _ _ url h
      · split at h
        · exact scheme_of_readAuthority _ _ _ url h
        · obtain rfl := Except.ok.inj h
          rfl

end WorkspaceSession.Url
