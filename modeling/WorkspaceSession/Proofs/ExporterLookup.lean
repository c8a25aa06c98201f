import WorkspaceSession.Proofs.FileExtension
import WorkspaceSession.Session.Basic

/-! Which exporter a target gets. Of exporters with the same name the first one stays; a target is
looked up by name, and else by the extension of the file that it names. -/
namespace WorkspaceSession

def Earliest (p : α → Prop) (as : List α) (a : α) : Prop :=
  ∃ before after, as = before ++ a :: after ∧ p a ∧ ∀ b ∈ before, ¬ p b

theorem find?_eq_some_iff_earliest {p : α → Bool} {as : List α} {a : α} :
    as.find? p = some a ↔ Earliest (fun a => p a = true) as a := by
  rw [List.find?_eq_some_iff_append]
  unfold Earliest
  simp only [Bool.not_eq_true', Bool.not_eq_true]
  constructor
  · rintro ⟨ha, before, after, has, hbefore⟩
    exact ⟨before, after, has, ha, hbefore⟩
  · rintro ⟨before, after, has, ha, hbefore⟩
    exact ⟨ha, before, after, has, hbefore⟩

theorem exists_earliest {p : α → Bool} {as : List α} {a : α} (ha : a ∈ as) (hp : p a = true) :
    ∃ first, Earliest (fun a => p a = true) as first := by
  obtain ⟨first, hfirst⟩ := Option.isSome_iff_exists.mp (List.find?_isSome.mpr ⟨a, ha, hp⟩)
  exact ⟨first, find?_eq_some_iff_earliest.mp hfirst⟩

theorem Earliest.append_right {p : α → Prop} {as : List α} {a : α} (h : Earliest p as a)
    (more : List α) : Earliest p (as ++ more) a := by
  obtain ⟨before, after, rfl, ha, hbefore⟩ := h
  exact ⟨before, after ++ more, by simp, ha, hbefore⟩

theorem sameExtension_iff {a b : String} :
    sameExtension a b = true ↔ a.toList.map Char.toLower = b.toList.map Char.toLower :=
  decide_eq_true_iff

theorem sameExtension_congr {a b : String} (h : sameExtension a b = true) (c : String) :
    sameExtension c a = sameExtension c b := by
  unfold sameExtension
  rw [sameExtension_iff.mp h]

theorem sameExtension_append {a b : String} (h : sameExtension a b = true) (front : String) :
    sameExtension (front ++ a) (front ++ b) = true := by
  rw [sameExtension_iff] at h ⊢
  rw [String.toList_append, String.toList_append, List.map_append, List.map_append, h]

theorem ne_empty_of_sameExtension {a b : String} (h : sameExtension a b = true) (hb : b ≠ "") :
    a ≠ "" := by
  rintro rfl
  have hmap := sameExtension_iff.mp h
  rw [eq_comm, String.toList_empty, List.map_nil, List.map_eq_nil_iff] at hmap
  exact hb (String.toList_eq_nil_iff.mp hmap)

theorem eq_of_toLower_eq {c d : Char} (h : c.toLower = d) (hd : d.toNat < 97) : c = d := by
  unfold Char.toLower at h
  split at h
  · next hupper =>
    obtain ⟨hlow, hhigh⟩ := hupper
    have hlow : 65 ≤ c.val.toNat := hlow
    have hhigh : c.val.toNat ≤ 90 := hhigh
    have htoNat : d.toNat = (c.val + ('a'.val - 'A'.val)).toNat := by rw [← h]; rfl
    have hshift : ('a'.val - 'A'.val).toNat = 32 := rfl
    rw [UInt32.toNat_add, hshift] at htoNat
    omega
  · exact h

theorem not_mem_of_sameExtension {a b : String} (h : sameExtension a b = true) {c : Char}
    (hc : c.toLower = c) (hbound : c.toNat < 97) (hb : c ∉ b.toList) : c ∉ a.toList := by
  intro ha
  have hmem : c ∈ b.toList.map Char.toLower := by
    rw [← sameExtension_iff.mp h, ← hc]
    exact List.mem_map_of_mem ha
  obtain ⟨d, hd, hlower⟩ := List.mem_map.mp hmem
  rw [eq_of_toLower_eq hlower hbound] at hd
  exact hb hd

namespace Registry

/-- The registry after a registration, accepted or refused. -/
def add (r : Registry) (e : Exporter) : Registry :=
  match r.register e with
  | .ok r => r
  | .error _ => r

def addAll (r : Registry) (es : List Exporter) : Registry := es.foldl add r

section

variable (r : Registry) (e : Exporter)

theorem register_eq_error_iff (error : ExportError) :
    r.register e = .error error ↔ e.name ∈ r.names ∧ error = .duplicate e.name := by
  unfold register names
  split
  · next h => simp [h, eq_comm]
  · next h => simp [h]

theorem add_of_mem (h : e.name ∈ r.names) : r.add e = r := by
  unfold add
  rw [(r.register_eq_error_iff e _).mpr ⟨h, rfl⟩]

theorem register_of_not_mem (h : e.name ∉ r.names) : r.register e = .ok (r.add e) := by
  unfold add
  cases hregister : r.register e with
  | ok _ => rfl
  | error error => exact absurd ((r.register_eq_error_iff e error).mp hregister).1 h

theorem exporters_add_of_not_mem (h : e.name ∉ r.names) :
    (r.add e).exporters = r.exporters ++ [e] := by
  have h : e.name ∉ r.exporters.map Exporter.name := h
  unfold add register
  rw [dif_neg h]

theorem names_add_of_not_mem (h : e.name ∉ r.names) : (r.add e).names = r.names ++ [e.name] := by
  unfold names
  rw [r.exporters_add_of_not_mem e h, List.map_append]
  rfl

end

/-- By induction over the registrations: names come in the order in which they came first. -/
theorem names_addAll (r : Registry) (es : List Exporter) :
    (r.addAll es).names = r.names ++ ((es.map Exporter.name).removeAll r.names).eraseDups := by
  unfold addAll
  induction es generalizing r with
  | nil => simp [List.removeAll]
  | cons e es ih =>
    rw [List.foldl_cons, ih, List.map_cons]
    by_cases h : e.name ∈ r.names
    · rw [r.add_of_mem e h]
      simp [List.removeAll, h]
    · rw [r.names_add_of_not_mem e h]
      have hremove : (es.map Exporter.name).removeAll (r.names ++ [e.name]) =
          ((es.map Exporter.name).removeAll r.names).filter fun name => !name == e.name := by
        unfold List.removeAll
        rw [List.filter_filter]
        apply List.filter_congr
        intro name _
        rw [List.elem_eq_contains, List.contains_append, Bool.not_or, Bool.and_comm,
          List.contains_cons, List.contains_nil, Bool.or_false]
      have hfirst : (e.name :: es.map Exporter.name).removeAll r.names =
          e.name :: (es.map Exporter.name).removeAll r.names := by
        simp [List.removeAll, h]
      rw [hremove, hfirst, List.eraseDups_cons, List.append_assoc, List.singleton_append]

theorem mem_addAll_iff (r : Registry) (es : List Exporter) (e : Exporter) :
    e ∈ (r.addAll es).exporters ↔
      e ∈ r.exporters ∨ e.name ∉ r.names ∧ es.find? (·.name = e.name) = some e := by
  unfold addAll
  induction es generalizing r with
  | nil => simp
  | cons f es ih =>
    rw [List.foldl_cons, ih]
    by_cases hf : f.name ∈ r.names
    · rw [r.add_of_mem f hf]
      -- `f` is passed over, and so it is in the search for a name that is not taken
      apply or_congr_right
      apply and_congr_right
      intro hname
      have hne : f.name ≠ e.name := fun heq => hname (heq ▸ hf)
      rw [List.find?_cons_of_neg (by simpa using hne)]
    · rw [r.exporters_add_of_not_mem f hf, r.names_add_of_not_mem f hf]
      by_cases heq : f.name = e.name
      · have hname : e.name ∉ r.names := heq ▸ hf
        rw [List.find?_cons_of_pos (by simpa using heq)]
        simp [hname, heq, eq_comm]
      · have hne : e ≠ f := by
          rintro rfl
          exact heq rfl
        rw [List.find?_cons_of_neg (by simpa using heq)]
        simp [hne, Ne.symm heq]

theorem eq_of_name_eq (r : Registry) {e f : Exporter} (he : e ∈ r.exporters)
    (hf : f ∈ r.exporters) (hname : e.name = f.name) : e = f := by
  have hdistinct := List.pairwise_map.mp r.distinct
  have hsame : ∀ e ∈ r.exporters, ∀ f ∈ r.exporters, e.name = f.name → e = f :=
    List.Pairwise.forall_of_forall_of_flip (fun _ _ _ => rfl)
      (hdistinct.imp fun hne heq => absurd heq hne)
      (hdistinct.imp fun hne heq => absurd heq.symm hne)
  exact hsame e he f hf hname

section

variable (r : Registry) (target : String)

theorem find?_name_iff (e : Exporter) :
    r.exporters.find? (·.name = target) = some e ↔ e ∈ r.exporters ∧ e.name = target := by
  constructor
  · intro h
    exact ⟨List.mem_of_find?_eq_some h, by simpa using List.find?_some h⟩
  · rintro ⟨hmem, hname⟩
    cases hfind : r.exporters.find? (·.name = target) with
    | none =>
      rw [List.find?_eq_none] at hfind
      exact absurd (decide_eq_true hname) (hfind e hmem)
    | some f =>
      have hf := List.find?_some hfind
      rw [decide_eq_true_eq] at hf
      rw [r.eq_of_name_eq hmem (List.mem_of_find?_eq_some hfind) (hname.trans hf.symm)]

theorem find?_name_eq_none_iff :
    r.exporters.find? (·.name = target) = none ↔ target ∉ r.names := by
  rw [List.find?_eq_none]
  unfold names
  simp

def FitsExtension (e : Exporter) : Prop :=
  ∃ extension : String, Path.HasExtension target.toList extension.toList ∧
    Earliest (fun f => sameExtension f.extension ("." ++ extension) = true) r.exporters e

theorem findByExtension?_eq_some_iff (e : Exporter) :
    r.findByExtension? target = some e ↔ r.FitsExtension target e := by
  unfold findByExtension? FitsExtension
  simp only [Option.bind_eq_bind, Option.bind_eq_some_iff, Path.extension?_eq_some_iff,
    find?_eq_some_iff_earliest]

theorem find_eq_ok_iff (e : Exporter) :
    r.find target = .ok e ↔
      (e ∈ r.exporters ∧ e.name = target) ∨ (target ∉ r.names ∧ r.FitsExtension target e) := by
  rw [← r.find?_name_iff target e, ← find?_name_eq_none_iff, ← findByExtension?_eq_some_iff,
    ← Option.or_eq_some_iff]
  unfold find
  split
  · next h => rw [h, Except.ok.injEq, Option.some_inj]
  · next h => simp [h]

theorem find_eq_error_iff (error : ExportError) :
    r.find target = .error error ↔ error = .unknown target ∧ target ∉ r.names ∧
      ∀ extension : String, Path.HasExtension target.toList extension.toList →
        ∀ e ∈ r.exporters, sameExtension e.extension ("." ++ extension) = false := by
  have hnone : (r.exporters.find? (·.name = target)).or (r.findByExtension? target) = none ↔
      target ∉ r.names ∧ ∀ extension : String,
        Path.HasExtension target.toList extension.toList →
          ∀ e ∈ r.exporters, sameExtension e.extension ("." ++ extension) = false := by
    unfold findByExtension?
    rw [Option.or_eq_none_iff, find?_name_eq_none_iff]
    simp only [Option.bind_eq_bind, Option.bind_eq_none_iff, Path.extension?_eq_some_iff,
      List.find?_eq_none, Bool.not_eq_true]
  rw [← hnone]
  unfold find
  split
  · next h => simp [h]
  · next h =>
    rw [h, Except.error.injEq, eq_comm]
    simp

end

theorem find_add (r : Registry) (e : Exporter) (target : String) (hname : e.name ≠ target)
    (found : Exporter) (h : r.find target = .ok found) : (r.add e).find target = .ok found := by
  by_cases hmem : e.name ∈ r.names
  · rw [r.add_of_mem e hmem, h]
  · rw [find_eq_ok_iff] at h ⊢
    unfold FitsExtension at h ⊢
    rw [r.exporters_add_of_not_mem e hmem, r.names_add_of_not_mem e hmem]
    rcases h with ⟨hfound, htarget⟩ | ⟨htarget, extension, hextension, hfirst⟩
    · exact .inl ⟨List.mem_append_left _ hfound, htarget⟩
    · right
      refine ⟨?_, extension, hextension, hfirst.append_right [e]⟩
      rw [List.mem_append, List.mem_singleton, not_or]
      exact ⟨htarget, Ne.symm hname⟩

theorem fitsExtension_append (r : Registry) {front stem extension : String}
    (hfront : Path.Leading front.toList) (hstem : stem ≠ "") (hstemSlash : '/' ∉ stem.toList)
    (hne : extension ≠ "") (hdot : '.' ∉ extension.toList) (hslash : '/' ∉ extension.toList)
    (e : Exporter) (hfirst : Earliest
      (fun f => sameExtension f.extension ("." ++ extension) = true) r.exporters e) :
    r.FitsExtension (front ++ stem ++ "." ++ extension) e := by
  refine ⟨extension, ?_, hfirst⟩
  have hnames := Path.hasExtension_append hfront .done (mt String.toList_eq_nil_iff.mp hstem)
    hstemSlash (mt String.toList_eq_nil_iff.mp hne) hdot hslash
  have htarget : (front ++ stem ++ "." ++ extension).toList =
      front.toList ++ (stem.toList ++ '.' :: extension.toList) ++ [] := by
    rw [String.toList_append, String.toList_append, String.toList_append, List.append_nil,
      List.append_assoc, List.append_assoc]
    rfl
  rw [htarget]
  exact hnames

theorem exists_find_of_extension (r : Registry) {e : Exporter} {x front stem written : String}
    (he : e ∈ r.exporters) (hx : e.extension = "." ++ x) (hne : x ≠ "") (hdot : '.' ∉ x.toList)
    (hslash : '/' ∉ x.toList) (hfront : Path.Leading front.toList) (hstem : stem ≠ "")
    (hstemSlash : '/' ∉ stem.toList) (hwritten : sameExtension written x = true)
    (hname : front ++ stem ++ "." ++ written ∉ r.names) :
    ∃ first, r.find (front ++ stem ++ "." ++ written) = .ok first ∧
      Earliest (fun f => sameExtension f.extension e.extension = true) r.exporters first := by
  have hsame : ∀ f : Exporter, sameExtension f.extension ("." ++ written) =
      sameExtension f.extension e.extension := by
    intro f
    rw [hx]
    exact sameExtension_congr (sameExtension_append hwritten ".") f.extension
  obtain ⟨first, hfirst⟩ := exists_earliest (p := fun f => sameExtension f.extension e.extension)
    he (sameExtension_iff.mpr rfl)
  refine ⟨first, ?_, hfirst⟩
  rw [find_eq_ok_iff]
  refine .inr ⟨hname, r.fitsExtension_append hfront hstem hstemSlash
    (ne_empty_of_sameExtension hwritten hne)
    (not_mem_of_sameExtension hwritten rfl (by decide) hdot)
    (not_mem_of_sameExtension hwritten rfl (by decide) hslash) first ?_⟩
  simp only [hsame]
  exact hfirst

end Registry

theorem Session.exporters_register (s : Session) (e : Exporter) :
    (s.register e).exporters = s.exporters.add e := by
  unfold register Registry.add
  cases s.exporters.register e <;> rfl

theorem Session.exporters_foldl_register (s : Session) (es : List Exporter) :
    (es.foldl register s).exporters = s.exporters.addAll es := by
  unfold Registry.addAll
  induction es generalizing s with
  | nil => rfl
  | cons e es ih => rw [List.foldl_cons, List.foldl_cons, ih, s.exporters_register]

namespace Registry

/-- Of the exporters that were ever registered, in any order, those stay that came first under their
name. A target that is no name goes to the first exporter for the extension of its file, and stays
with the exporter that it found until one of its own name comes. -/
theorem lookups_exact :
    (∀ es : List Exporter,
      (empty.addAll es).names.Nodup ∧
      (empty.addAll es).names = (es.map Exporter.name).eraseDups ∧
      ∀ e, e ∈ (empty.addAll es).exporters ↔ Earliest (·.name = e.name) es e) ∧
    (∀ (r : Registry) (e : Exporter),
      (e.name ∈ r.names ∧ r.register e = .error (.duplicate e.name) ∧ r.add e = r) ∨
        (e.name ∉ r.names ∧ r.register e = .ok (r.add e) ∧
          (r.add e).exporters = r.exporters ++ [e])) ∧
    (∀ (s : Session) (es : List Exporter),
      (es.foldl Session.register s).exporters = s.exporters.addAll es) ∧
    (∀ (r : Registry) (target : String),
      (∀ e, r.find target = .ok e ↔
        (e ∈ r.exporters ∧ e.name = target) ∨ (target ∉ r.names ∧ r.FitsExtension target e)) ∧
      ∀ error, r.find target = .error error ↔ error = .unknown target ∧ target ∉ r.names ∧
        ∀ extension : String, Path.HasExtension target.toList extension.toList →
          ∀ e ∈ r.exporters, sameExtension e.extension ("." ++ extension) = false) ∧
    (∀ (r : Registry) (e : Exporter) (x : String), e ∈ r.exporters → e.extension = "." ++ x →
      x ≠ "" → '.' ∉ x.toList → '/' ∉ x.toList →
      ∀ front stem written : String, Path.Leading front.toList → stem ≠ "" →
        '/' ∉ stem.toList → sameExtension written x = true →
        front ++ stem ++ "." ++ written ∉ r.names →
        ∃ first, r.find (front ++ stem ++ "." ++ written) = .ok first ∧
          Earliest (fun f => sameExtension f.extension e.extension = true) r.exporters first) ∧
    ∀ (r : Registry) (e found : Exporter) (target : String), r.find target = .ok found →
      e.name ≠ target → (r.add e).find target = .ok found := by
  refine ⟨?_, ?_, Session.exporters_foldl_register, ?_, ?_, ?_⟩
  · intro es
    refine ⟨(empty.addAll es).distinct, ?_, ?_⟩
    · rw [names_addAll]
      exact congrArg List.eraseDups List.removeAll_nil
    · intro e
      rw [mem_addAll_iff, find?_eq_some_iff_earliest]
      simp [empty, names]
  · intro r e
    by_cases h : e.name ∈ r.names
    · exact .inl ⟨h, (r.register_eq_error_iff e _).mpr ⟨h, rfl⟩, r.add_of_mem e h⟩
    · exact .inr ⟨h, r.register_of_not_mem e h, r.exporters_add_of_not_mem e h⟩
  · intro r target
    exact ⟨r.find_eq_ok_iff target, r.find_eq_error_iff target⟩
  · intro r e x he hx hne hdot hslash front stem written hfront hstem hstemSlash hwritten hname
    exact r.exists_find_of_extension he hx hne hdot hslash hfront hstem hstemSlash hwritten hname
  · intro r e found target hfound hname
    exact r.find_add e target hname found hfound

def offered : List Exporter :=
  [.json, ⟨"csv", ".csv", .foreign⟩, ⟨"json", ".xml", .foreign⟩, ⟨"lines", ".Json", .foreign⟩]

theorem offered_lookups :
    (empty.addAll offered).names = ["json", "csv", "lines"] ∧
      (empty.addAll offered).find ("out/./" ++ "a.b" ++ "." ++ "JSON") = .ok .json ∧
      ((empty.addAll offered).add ⟨"other", ".json", .foreign⟩).find
        ("out/./" ++ "a.b" ++ "." ++ "JSON") = .ok .json := by
  obtain ⟨hnames, -, -, -, hextension, hstable⟩ := lookups_exact
  have hoffered : (empty.addAll offered).names = ["json", "csv", "lines"] := (hnames offered).2.1
  obtain ⟨first, hfound, hfirst⟩ := hextension (empty.addAll offered)
    ⟨"lines", ".Json", .foreign⟩ "Json" (by decide) rfl (by decide) (by decide) (by decide)
    "out/./" "a.b" "JSON" (.inr ⟨"out/.".toList, rfl⟩) (by decide) (by decide) (by decide)
    (by decide)
  obtain rfl : Exporter.json = first := Except.ok.inj hfound
  exact ⟨hoffered, hfound, hstable _ _ _ _ hfound (by decide)⟩

end Registry
end WorkspaceSession
