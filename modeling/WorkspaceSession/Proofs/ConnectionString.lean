import WorkspaceSession.Proofs.UrlReading

/-! Connection strings put together from their parts. The endpoint read from one has the host and
the database as they are written and the value of the port, and an address is taken apart again at
its last colon. -/
namespace WorkspaceSession

def isHostChar (c : Char) : Bool := c.isAlphanum || c = '-' || c = '.'

def isNameChar (c : Char) : Bool := c.isAlphanum || c = '_'

def markedPart (mark : Char) : Option (List Char) → List Char
  | none => []
  | some part => mark :: part

/-- The path of a connection string: a slash and maybe more, the name of the database, and any
further segments. -/
structure DatabasePath where
  moreSlashes : Nat := 0
  name : List Char
  segments : List (List Char) := []
  name_ne_nil : name ≠ [] := by decide
  name_chars : name.all isNameChar = true := by decide
  segments_chars : segments.all (·.all isNameChar) = true := by decide

structure ConnectionParts where
  scheme : String
  host : List Char
  port : Option (List Char) := none
  path : Option DatabasePath := none
  query : Option (List Char) := none
  fragment : Option (List Char) := none
  scheme_mem : scheme ∈ Endpoint.schemes := by decide
  host_ne_nil : host ≠ [] := by decide
  host_chars : host.all isHostChar = true := by decide
  port_digits : port.all (·.all Char.isDigit) = true := by decide

namespace DatabasePath

variable (p : DatabasePath)

def tail : List Char :=
  List.replicate p.moreSlashes '/' ++ Text.glue ['/'] (p.name :: p.segments)

def chars : List Char := '/' :: p.tail

theorem tail_chars : ∀ c ∈ p.tail, isNameChar c = true ∨ c = '/' := by
  intro c hc
  rcases List.mem_append.mp hc with hc | hc
  · exact .inr (List.eq_of_mem_replicate hc)
  · rcases Text.mem_glue hc with hc | ⟨part, hpart, hc⟩
    · exact .inr (List.mem_singleton.mp hc)
    · rcases List.mem_cons.mp hpart with rfl | hpart
      · exact .inl (List.all_eq_true.mp p.name_chars c hc)
      · exact .inl (List.all_eq_true.mp (List.all_eq_true.mp p.segments_chars part hpart) c hc)

end DatabasePath

namespace ConnectionParts

variable (u : ConnectionParts)

def pathChars : List Char :=
  match u.path with
  | none => []
  | some path => path.chars

def place : List Char := u.host ++ markedPart ':' u.port ++ u.pathChars

def behind : List Char := markedPart '?' u.query ++ markedPart '#' u.fragment

def text : String := u.scheme ++ "://" ++ String.ofList (u.place ++ u.behind)

def portNumber : Nat :=
  match u.port with
  | none | some [] => 5432
  | some digits => Text.decimalValue digits

def database : Option String := u.path.map fun path => String.ofList path.name

end ConnectionParts

def isPlaceChar (c : Char) : Bool := isHostChar c || isNameChar c || c = ':' || c = '/'

theorem toNat_of_isPlaceChar {c : Char} (h : isPlaceChar c = true) :
    45 ≤ c.toNat ∧ c.toNat ≤ 122 := by
  have hkind : c.isAlphanum = true ∨ c ∈ ['-', '.', '_', ':', '/'] := by
    simp only [isPlaceChar, isHostChar, isNameChar, Bool.or_eq_true, decide_eq_true_eq] at h
    simp only [List.mem_cons]
    grind
  rcases hkind with halphanum | hmark
  · obtain ⟨hlow, hhigh⟩ := Text.toNat_of_isAlphanum halphanum
    exact ⟨by omega, hhigh⟩
  · simp only [List.mem_cons, List.not_mem_nil, or_false] at hmark
    rcases hmark with rfl | rfl | rfl | rfl | rfl <;> decide

theorem isControl_of_isPlaceChar {c : Char} (h : isPlaceChar c = true) :
    Url.isControl c = false := by
  obtain ⟨hlow, hhigh⟩ := toNat_of_isPlaceChar h
  simp only [Url.isControl, Bool.or_eq_false_iff, decide_eq_false_iff_not]
  omega

theorem not_mem_of_kind {kind : Char → Bool} {others : List Char} {c : Char}
    (hothers : others.all (fun d => !kind d) = true) (h : kind c = true) : c ∉ others := by
  intro hc
  have hother := List.all_eq_true.mp hothers c hc
  rw [h] at hother
  cases hother

theorem readOpaqueHost_host {host : List Char} (hhost : ∀ c ∈ host, isHostChar c = true) :
    Url.readOpaqueHost host = .ok host := by
  have hbracket : host.head? ≠ some '[' := by
    intro hhead
    exact absurd (hhost '[' (List.mem_of_head? hhead)) (by decide)
  have hforbidden : host.any Url.isForbidden = false := by
    rw [List.any_eq_false]
    intro c hc
    rw [Url.isForbidden, List.contains_iff_mem]
    exact not_mem_of_kind (by decide) (hhost c hc)
  have hencode : Url.percentEncode (fun _ => false) host = host :=
    Url.percentEncode_eq_self fun c hc =>
      ⟨isControl_of_isPlaceChar (by simp [isPlaceChar, hhost c hc]), rfl⟩
  unfold Url.readOpaqueHost
  rw [if_neg hbracket, hforbidden, hencode]
  rfl

theorem isDot_of_name {segment : List Char} (h : ∀ c ∈ segment, isNameChar c = true) :
    Url.isDot segment = false ∧ Url.isDoubleDot segment = false := by
  have hne {dots : List String}
      (hdots : dots.all (fun d => d.toList.any fun c => !isNameChar c) = true) :
      dots.any (·.toList = segment) = false := by
    rw [List.any_eq_false]
    intro d hd hsegment
    obtain ⟨c, hc, hkind⟩ := List.any_eq_true.mp (List.all_eq_true.mp hdots d hd)
    rw [of_decide_eq_true hsegment] at hc
    rw [h c hc] at hkind
    cases hkind
  exact ⟨hne (by decide), hne (by decide)⟩

theorem readPath_tail {tail rest : List Char}
    (htail : ∀ c ∈ tail, isNameChar c = true ∨ c = '/')
    (hrest : ∀ c ∈ rest.head?, c = '?' ∨ c = '#') :
    Url.readPath false ('/' :: tail ++ rest) = '/' :: tail := by
  have hwritten : ∀ c ∈ '/' :: tail, (c ≠ '?' && c ≠ '#') = true := by
    intro c hc
    have hkind : isNameChar c = true ∨ c = '/' := by
      rcases List.mem_cons.mp hc with rfl | hc
      · exact .inr rfl
      · exact htail c hc
    rcases hkind with hname | rfl
    · have hmem : c ∉ ['?', '#'] := not_mem_of_kind (by decide) hname
      simpa using hmem
    · rfl
  have htake : ('/' :: tail ++ rest).takeWhile (fun c => c ≠ '?' && c ≠ '#') = '/' :: tail := by
    rw [List.takeWhile_append_of_pos hwritten, Text.takeWhile_of_head, List.append_nil]
    intro c hc
    rcases hrest c hc with rfl | rfl <;> rfl
  have hsegment : ∀ segment ∈ Text.pieces '/' tail, ∀ c ∈ segment, isNameChar c = true := by
    intro segment hsegment c hc
    have hslash : c ≠ '/' := by
      rintro rfl
      exact Text.not_mem_of_mem_pieces hsegment hc
    exact (htail c (Text.mem_of_mem_pieces hsegment hc)).resolve_right hslash
  have hencoded : Url.readPath.encoded tail = Text.pieces '/' tail := by
    refine (List.map_congr_left (g := id) ?_).trans (List.map_id _)
    intro segment h
    apply Url.percentEncode_eq_self
    intro c hc
    have hname := hsegment segment h c hc
    refine ⟨isControl_of_isPlaceChar (by simp [isPlaceChar, hname]), ?_⟩
    rw [Url.isUnsafeInPath, ← Bool.not_eq_true, List.contains_iff_mem]
    exact not_mem_of_kind (by decide) hname
  unfold Url.readPath
  simp only [htake]
  change Url.addSegments ['/'] (Url.readPath.encoded tail) = '/' :: tail
  rw [hencoded, Url.addSegments_eq fun segment h => isDot_of_name (hsegment segment h),
    Text.glue_pieces]
  rfl

namespace DatabasePath

theorem exists_of_glue (name : List Char) (segments : List (List Char)) :
    ∃ rest, Text.glue ['/'] (name :: segments) = name ++ rest ∧ ∀ c ∈ rest.head?, c = '/' := by
  cases segments with
  | nil => exact ⟨[], (List.append_nil name).symm, by simp⟩
  | cons segment segments =>
    exact ⟨'/' :: Text.glue ['/'] (segment :: segments), by simp [Text.glue], by simp⟩

theorem databaseOf_chars (p : DatabasePath) :
    Endpoint.databaseOf p.chars = some (String.ofList p.name) := by
  obtain ⟨rest, hglue, hrest⟩ := exists_of_glue p.name p.segments
  have hplain : ∀ c ∈ p.name, c ≠ '/' := by
    rintro c hc rfl
    exact absurd (List.all_eq_true.mp p.name_chars '/' hc) (by decide)
  have hdrop : p.chars.dropWhile (· = '/') = p.name ++ rest := by
    unfold chars tail
    rw [List.dropWhile_cons_of_pos rfl, List.dropWhile_append_of_pos, hglue]
    · apply Text.dropWhile_of_head
      intro c hc
      rw [List.head?_append, List.head?_eq_some_head p.name_ne_nil] at hc
      obtain rfl := Option.some.inj hc
      exact decide_eq_false (hplain _ (List.head_mem p.name_ne_nil))
    · intro c hc
      exact decide_eq_true (List.eq_of_mem_replicate hc)
  have htake : (p.name ++ rest).takeWhile (· ≠ '/') = p.name := by
    rw [List.takeWhile_append_of_pos (by simpa using hplain), Text.takeWhile_of_head,
      List.append_nil]
    intro c hc
    simpa using hrest c hc
  unfold Endpoint.databaseOf
  rw [hdrop, htake]
  cases hname : p.name with
  | nil => exact absurd hname p.name_ne_nil
  | cons c name => rfl

end DatabasePath

namespace ConnectionParts

variable (u : ConnectionParts)

theorem digits_of_port {digits : List Char} (h : u.port = some digits) :
    ∀ c ∈ digits, c.isDigit = true := by
  have hdigits := u.port_digits
  rw [h] at hdigits
  exact List.all_eq_true.mp hdigits

theorem place_chars : ∀ c ∈ u.place, isPlaceChar c = true := by
  intro c hc
  rcases List.mem_append.mp hc with hc | hpath
  · rcases List.mem_append.mp hc with hhost | hport
    · simp [isPlaceChar, List.all_eq_true.mp u.host_chars c hhost]
    · cases hu : u.port with
      | none =>
        rw [hu] at hport
        cases hport
      | some digits =>
        rw [hu] at hport
        rcases List.mem_cons.mp hport with rfl | hdigit
        · decide
        · have hc := u.digits_of_port hu c hdigit
          simp [isPlaceChar, isHostChar, Char.isAlphanum, hc]
  · unfold pathChars at hpath
    split at hpath
    · cases hpath
    · next path hu =>
      rcases List.mem_cons.mp hpath with rfl | htail
      · decide
      · rcases path.tail_chars c htail with hc | rfl
        · simp [isPlaceChar, hc]
        · decide

theorem head?_pathChars {rest : List Char} (hrest : ∀ c ∈ rest.head?, c = '?' ∨ c = '#') :
    ∀ c ∈ (u.pathChars ++ rest).head?, c ∈ ['/', '?', '#'] := by
  unfold pathChars
  cases u.path with
  | none =>
    intro c hc
    exact List.mem_cons_of_mem _ (by simpa using hrest c hc)
  | some path =>
    intro c hc
    obtain rfl := Option.some.inj hc
    exact List.mem_cons_self

theorem readPort_port {rest : List Char} (hrest : ∀ c ∈ rest.head?, c ∈ ['/', '?', '#']) :
    Url.readPort (markedPart ':' u.port ++ rest) =
      if 65535 < u.portNumber then .error .invalidPort
      else .ok (u.port.bind Url.readPort.portOf, rest) := by
  unfold portNumber
  cases hu : u.port with
  | none =>
    refine Url.readPort_of_head ?_
    rintro c hc rfl
    exact absurd (hrest ':' hc) (by decide)
  | some digits =>
    have hread := Url.readPort_digits (u.digits_of_port hu) hrest
    cases digits with
    | nil => exact hread
    | cons d ds => exact hread

theorem toNat_port (hport : u.portNumber ≤ 65535) :
    ((u.port.bind Url.readPort.portOf).getD Endpoint.defaultPort).toNat = u.portNumber := by
  unfold portNumber at hport ⊢
  cases hu : u.port with
  | none => rfl
  | some digits =>
    rw [hu] at hport
    cases digits with
    | nil => rfl
    | cons d ds => exact Nat.mod_eq_of_lt (Nat.lt_succ_of_le hport)

theorem readPath_pathChars {rest : List Char} (hrest : ∀ c ∈ rest.head?, c = '?' ∨ c = '#') :
    Url.readPath false (u.pathChars ++ rest) = u.pathChars := by
  unfold pathChars
  cases u.path with
  | none =>
    have hwritten : rest.takeWhile (fun c => c ≠ '?' && c ≠ '#') = [] := by
      apply Text.takeWhile_of_head
      intro c hc
      rcases hrest c hc with rfl | rfl <;> rfl
    unfold Url.readPath
    rw [List.nil_append, hwritten]
    rfl
  | some path => exact readPath_tail path.tail_chars hrest

theorem databaseOf_pathChars : Endpoint.databaseOf u.pathChars = u.database := by
  unfold pathChars database
  cases u.path with
  | none => rfl
  | some path => exact path.databaseOf_chars

theorem head?_cleanTail_behind : ∀ c ∈ (Url.cleanTail u.behind).head?, c = '?' ∨ c = '#' := by
  have hhead (mark : Char) (rest : List Char) (hmark : 0x20 < mark.toNat) :
      (Url.cleanTail (mark :: rest)).head? = some mark := by
    rw [Url.cleanTail_cons hmark, List.head?_cons]
  unfold behind
  cases u.query with
  | some query =>
    intro c hc
    rw [markedPart, List.cons_append, hhead '?' _ (by decide)] at hc
    exact .inl (Option.some.inj hc).symm
  | none =>
    cases u.fragment with
    | some fragment =>
      intro c hc
      rw [markedPart, markedPart, List.nil_append, hhead '#' _ (by decide)] at hc
      exact .inr (Option.some.inj hc).symm
    | none =>
      intro c hc
      cases hc

theorem clean_text :
    Url.clean u.text = u.scheme.toList ++ "://".toList ++ (u.place ++ Url.cleanTail u.behind) := by
  have hscheme : ∀ c ∈ u.scheme.toList ++ "://".toList, 0x20 < c.toNat := by
    have hmem := u.scheme_mem
    simp only [Endpoint.schemes, List.mem_cons, List.not_mem_nil, or_false] at hmem
    rcases hmem with hmem | hmem <;> simp [hmem]
  have hplace : ∀ c ∈ u.place, 0x20 < c.toNat := by
    intro c hc
    exact Nat.lt_of_lt_of_le (by decide) (toNat_of_isPlaceChar (u.place_chars c hc)).1
  have hfront : ∀ c ∈ u.scheme.toList ++ "://".toList ++ u.place, 0x20 < c.toNat := by
    intro c hc
    exact (List.mem_append.mp hc).elim (hscheme c) (hplace c)
  have htext : u.text.toList = u.scheme.toList ++ "://".toList ++ u.place ++ u.behind := by
    simp only [text, String.toList_append, String.toList_ofList, List.append_assoc]
  have hhead : ∀ c ∈ u.text.toList.head?, 0x20 < c.toNat := by
    intro c hc
    rw [htext, List.append_assoc, List.head?_append, List.head?_eq_some_head (by simp)] at hc
    obtain rfl := Option.some.inj hc
    exact hscheme _ (List.head_mem _)
  rw [Url.clean_eq_cleanTail hhead, htext, Url.cleanTail_append_of_lt hfront,
    List.append_assoc _ u.place]

theorem parse_text :
    Url.parse u.text =
      if 65535 < u.portNumber then .error .invalidPort
      else .ok ⟨u.scheme.toList, u.host, u.port.bind Url.readPort.portOf, u.pathChars⟩ := by
  have hauthority : '@' ∉ (u.place ++ Url.cleanTail u.behind).takeWhile
      fun c => !Url.endsAuthority false c := by
    have hbehind : (Url.cleanTail u.behind).takeWhile
        (fun c => !Url.endsAuthority false c) = [] := by
      apply Text.takeWhile_of_head
      intro c hc
      rcases u.head?_cleanTail_behind c hc with rfl | rfl <;> rfl
    intro hat
    rw [List.takeWhile_append, hbehind, List.append_nil] at hat
    have hplace : '@' ∈ u.place := by
      split at hat
      · exact hat
      · exact (List.takeWhile_sublist _).mem hat
    exact absurd (u.place_chars '@' hplace) (by decide)
  have hspan : Url.spanHost false false (u.place ++ Url.cleanTail u.behind) =
      (u.host, markedPart ':' u.port ++ (u.pathChars ++ Url.cleanTail u.behind)) := by
    unfold place
    rw [List.append_assoc, List.append_assoc]
    apply Url.spanHost_append
    · intro c hc
      exact not_mem_of_kind (by decide) (List.all_eq_true.mp u.host_chars c hc)
    · cases u.port with
      | none =>
        intro c hc
        exact List.mem_cons_of_mem _ (u.head?_pathChars u.head?_cleanTail_behind c hc)
      | some digits =>
        intro c hc
        obtain rfl := Option.some.inj hc
        exact List.mem_cons_self
  rw [Url.parse_of_clean u.scheme_mem u.clean_text,
    Url.readAuthority_eq (Url.splitCredentials_of_not_mem hauthority)
      (by rw [hspan]; exact u.host_ne_nil)]
  unfold Url.readPlace
  rw [hspan]
  simp only [readOpaqueHost_host (List.all_eq_true.mp u.host_chars),
    u.readPort_port (u.head?_pathChars u.head?_cleanTail_behind)]
  split
  · rfl
  · simp only [bind, Except.bind, u.readPath_pathChars u.head?_cleanTail_behind]
    rfl

theorem endpoint_text (hport : u.portNumber ≤ 65535) :
    Endpoint.parse u.text = .ok ⟨String.ofList u.host,
      (u.port.bind Url.readPort.portOf).getD Endpoint.defaultPort, u.database⟩ := by
  unfold Endpoint.parse
  simp only [u.parse_text, if_neg (Nat.not_lt.mpr hport), String.ofList_toList, u.host_ne_nil,
    List.contains_iff_mem.mpr u.scheme_mem, u.databaseOf_pathChars]
  rfl

end ConnectionParts

/-- The host may hold colons, the port does not. -/
theorem Endpoint.splitLast?_address (e : Endpoint) :
    Text.splitLast? ':' e.address.toList = some (e.host.toList, Text.decimal e.port.toNat) := by
  have haddress : e.address.toList = e.host.toList ++ ':' :: Text.decimal e.port.toNat := by
    simp [address, Text.naturalText]
  rw [haddress]
  exact Text.splitLast?_append_cons _ ((Text.numeral_decimal _).not_mem rfl)

/-- The endpoint read from a connection string has the host and the database that are written in it
and the value of the port, or the default without one; a port that is too large is an error. The
address of an endpoint gives host and port back at its last colon. -/
theorem ConnectionParts.endpoint_recovered :
    (∀ u : ConnectionParts,
      (u.portNumber ≤ 65535 → ∃ e, Endpoint.parse u.text = .ok e ∧ e.host.toList = u.host ∧
        e.port.toNat = u.portNumber ∧ e.database = u.database) ∧
      (65535 < u.portNumber → Endpoint.parse u.text = .error (.unparseable .invalidPort))) ∧
      ∀ e : Endpoint, ∃ digits,
        Text.splitLast? ':' e.address.toList = some (e.host.toList, digits) ∧
        Text.natural? digits = some e.port.toNat := by
  refine ⟨?_, ?_⟩
  · intro u
    refine ⟨?_, ?_⟩
    · intro hport
      exact ⟨_, u.endpoint_text hport, String.toList_ofList, u.toNat_port hport, rfl⟩
    · intro hport
      unfold Endpoint.parse
      rw [u.parse_text, if_pos hport]
  · intro e
    refine ⟨_, e.splitLast?_address, ?_⟩
    have hdigits : (Text.decimal e.port.toNat).all Char.isDigit = true :=
      List.all_eq_true.mpr fun c hc => Text.isDigit_of_mem_decimal hc
    rw [Text.natural?, if_pos ⟨Text.decimal_ne_nil _, hdigits⟩, Text.decimalValue_decimal]

/-- Every part at once, with signs in the query that could be taken for those of other parts, and a
port that would be 80 if it wrapped. -/
theorem ConnectionParts.crowded_recovered :
    ∃ u v : ConnectionParts,
      u.text = "postgresql://Db-1.Example:00080//sales_1/x//?at=@:/5#one two " ∧
      u.portNumber ≤ 65535 ∧ (∃ e, Endpoint.parse u.text = .ok e ∧
        e.host.toList = "Db-1.Example".toList ∧ e.port.toNat = 80 ∧ e.database = some "sales_1") ∧
      v.text = "postgres://db:65616?at=@" ∧ 65535 < v.portNumber ∧
      Endpoint.parse v.text = .error (.unparseable .invalidPort) := by
  let u : ConnectionParts := {
    scheme := "postgresql"
    host := "Db-1.Example".toList
    port := some "00080".toList
    path := some {
      moreSlashes := 1
      name := "sales_1".toList
      segments := ["x".toList, [], []] }
    query := some "at=@:/5".toList
    fragment := some "one two ".toList }
  let v : ConnectionParts := {
    scheme := "postgres"
    host := "db".toList
    port := some "65616".toList
    query := some "at=@".toList }
  have hu : u.portNumber ≤ 65535 := by decide
  have hv : 65535 < v.portNumber := by decide
  exact ⟨u, v, rfl, hu, (endpoint_recovered.1 u).1 hu, rfl, hv, (endpoint_recovered.1 v).2 hv⟩

end WorkspaceSession
