import Mathlib.Data.List.TakeWhile
import WorkspaceSession.Workspace.Location

/-! The search for the root of a workspace, upwards from a path. The way up is that of
`Path.parent?`. Every path on it is a shorter part of the one before, absolute if that one is, and
the way from a relative path ends in the empty path. -/
namespace WorkspaceSession

theorem Text.glue_prefix_append (sep : List Char) (as bs : List (List Char)) :
    glue sep as <+: glue sep (as ++ bs) := by
  fun_induction glue sep as with
  | case1 => exact List.nil_prefix
  | case2 piece =>
    cases bs with
    | nil => exact List.prefix_rfl
    | cons b bs =>
      simp only [List.singleton_append, glue, List.append_assoc]
      exact List.prefix_append _ _
  | case3 piece others hothers ih =>
    cases others with
    | nil => simp at hothers
    | cons o os =>
      simp only [List.cons_append, glue] at ih ⊢
      exact (List.prefix_append_right_inj _).mpr ih

namespace Path

theorem splitHead_append (path : List Char) : (splitHead path).1 ++ (splitHead path).2 = path := by
  unfold splitHead
  split <;> rfl

theorem isPrefix_parentChars? {path parent : List Char} (h : parentChars? path = some parent) :
    parent <+: path := by
  unfold parentChars? at h
  dsimp only at h
  split at h
  · next segment rest heq =>
    obtain ⟨-, blank, hpieces⟩ := pieces_eq_of_backSegments heq
    obtain rfl := Option.some.inj h
    have hbody := Text.glue_prefix_append ['/'] (rest.dropWhile isBlankSegment).reverse
      ((rest.takeWhile isBlankSegment).reverse ++ segment :: blank)
    rw [← List.append_assoc, ← List.reverse_append, List.takeWhile_append_dropWhile, ← hpieces,
      Text.glue_pieces] at hbody
    have hpath := (List.prefix_append_right_inj (splitHead path).1).mpr hbody
    rwa [splitHead_append] at hpath
  · split at h
    · obtain rfl := Option.some.inj h
      exact List.nil_prefix
    · cases h

theorem head?_parentChars? {path parent : List Char} (h : parentChars? path = some parent)
    (habsolute : path.head? = some '/') : parent.head? = some '/' := by
  obtain ⟨rest, rfl⟩ := List.head?_eq_some_iff.mp habsolute
  unfold parentChars? at h
  simp only [splitHead] at h
  split at h
  · obtain rfl := Option.some.inj h
    rfl
  · simp at h

theorem backSegments_ne_nil {path : List Char} (hne : path ≠ []) (hrelative : path.head? ≠ some '/')
    (hdot : path ≠ ['.']) (hdotSlash : ∀ rest, path ≠ '.' :: '/' :: rest) :
    backSegments path ≠ [] := by
  unfold backSegments
  rw [ne_eq, List.dropWhile_eq_nil_iff]
  intro hblank
  cases hpieces : Text.pieces '/' path with
  | nil => exact Text.pieces_ne_nil '/' path hpieces
  | cons first others =>
    have hpath := Text.glue_pieces '/' path
    have hfirst := hblank first (by simp [hpieces])
    rw [hpieces] at hpath
    simp only [isBlankSegment, Bool.or_eq_true, decide_eq_true_eq] at hfirst
    rcases hfirst with rfl | rfl
    · cases others with
      | nil => exact hne hpath.symm
      | cons other others =>
        rw [← hpath] at hrelative
        exact hrelative rfl
    · cases others with
      | nil => exact hdot hpath.symm
      | cons other others => exact hdotSlash _ hpath.symm

theorem parentChars?_ne_none {path : List Char} (hne : path ≠ [])
    (hrelative : path.head? ≠ some '/') : parentChars? path ≠ none := by
  unfold parentChars?
  fun_cases splitHead path with
  | case1 rest => simp at hrelative
  | case2 => decide
  | case3 rest =>
    dsimp only
    split <;> simp
  | case4 _ hslash hdot hdotSlash =>
    have hback := backSegments_ne_nil hne hrelative hdot hdotSlash
    obtain ⟨segment, rest, hback⟩ := List.exists_cons_of_ne_nil hback
    simp [hback]

def above? : Nat → String → Option String
  | 0, path => some path
  | n + 1, path => (parent? path).bind (above? n)

section

variable {path parent : String}

theorem exists_parentChars? (h : parent? path = some parent) :
    parentChars? path.toList = some parent.toList := by
  obtain ⟨chars, hchars, rfl⟩ := Option.map_eq_some_iff.mp h
  rw [hchars, String.toList_ofList]

theorem length_parent?_lt (h : parent? path = some parent) : parent.length < path.length :=
  length_parentChars? (exists_parentChars? h)

theorem isPrefix_parent? (h : parent? path = some parent) : parent.toList <+: path.toList :=
  isPrefix_parentChars? (exists_parentChars? h)

theorem isAbsolute_parent? (h : parent? path = some parent) :
    isAbsolute parent = isAbsolute path := by
  have hchars := exists_parentChars? h
  unfold isAbsolute
  rw [decide_eq_decide]
  constructor
  · intro hparent
    obtain ⟨rest, hrest⟩ := List.head?_eq_some_iff.mp hparent
    obtain ⟨tail, htail⟩ := isPrefix_parentChars? hchars
    rw [← htail, hrest]
    rfl
  · exact head?_parentChars? hchars

theorem parent?_of_relative (hrelative : isAbsolute path = false) (hne : path ≠ "") :
    ∃ parent, parent? path = some parent := by
  unfold isAbsolute at hrelative
  have hchars := parentChars?_ne_none (by simpa using hne) (of_decide_eq_false hrelative)
  obtain ⟨chars, hchars⟩ := Option.ne_none_iff_exists'.mp hchars
  exact ⟨.ofList chars, by rw [parent?, hchars, Option.map_some]⟩

end

section

variable {start path : String} {n : Nat}

theorem above?_add (m n : Nat) (path : String) :
    above? (m + n) path = (above? m path).bind (above? n) := by
  induction m generalizing path with
  | zero => rw [Nat.zero_add, above?, Option.bind_some]
  | succ m ih =>
    have hstep : above? (m + n) = fun parent => (above? m parent).bind (above? n) := funext ih
    rw [Nat.add_right_comm, above?, above?, hstep, Option.bind_assoc]

theorem length_above? (h : above? n start = some path) : path.length + n ≤ start.length := by
  induction n generalizing start with
  | zero =>
    obtain rfl := Option.some.inj h
    exact Nat.le_refl _
  | succ n ih =>
    obtain ⟨parent, hparent, habove⟩ := Option.bind_eq_some_iff.mp h
    have hlength := ih habove
    have hlt := length_parent?_lt hparent
    omega

theorem above?_eq_none (h : start.length < n) : above? n start = none := by
  cases habove : above? n start with
  | none => rfl
  | some path =>
    have hlength := length_above? habove
    omega

/-- No path comes twice on the way up. -/
theorem above?_inj {m : Nat} (hm : above? m start = some path) (hn : above? n start = some path) :
    m = n := by
  -- from a path that comes again later the way up to itself would take no character off
  have hle {k l : Nat} (hk : above? k start = some path) (hl : above? l start = some path) :
      l ≤ k := by
    by_contra hlt
    obtain ⟨d, rfl⟩ := Nat.exists_eq_add_of_lt (Nat.lt_of_not_le hlt)
    rw [Nat.add_assoc, above?_add, hk, Option.bind_some] at hl
    have hlength := length_above? hl
    omega
  exact Nat.le_antisymm (hle hn hm) (hle hm hn)

theorem isPrefix_above? (h : above? n start = some path) : path.toList <+: start.toList := by
  induction n generalizing start with
  | zero =>
    obtain rfl := Option.some.inj h
    exact List.prefix_rfl
  | succ n ih =>
    obtain ⟨parent, hparent, habove⟩ := Option.bind_eq_some_iff.mp h
    exact (ih habove).trans (isPrefix_parent? hparent)

theorem isAbsolute_above? (h : above? n start = some path) :
    isAbsolute path = isAbsolute start := by
  induction n generalizing start with
  | zero =>
    obtain rfl := Option.some.inj h
    rfl
  | succ n ih =>
    obtain ⟨parent, hparent, habove⟩ := Option.bind_eq_some_iff.mp h
    rw [ih habove, isAbsolute_parent? hparent]

end

/-- The empty path has nothing above it, and every other relative path has. -/
theorem exists_above?_empty (start : String) (hrelative : isAbsolute start = false) :
    ∃ n, above? n start = some "" ∧ above? (n + 1) start = none := by
  by_cases hempty : start = ""
  · subst hempty
    exact ⟨0, rfl, rfl⟩
  · obtain ⟨parent, hparent⟩ := parent?_of_relative hrelative hempty
    have hlt := length_parent?_lt hparent
    obtain ⟨n, htop, hend⟩ := exists_above?_empty parent
      ((isAbsolute_parent? hparent).trans hrelative)
    refine ⟨n + 1, ?_, ?_⟩
    · rw [above?, hparent, Option.bind_some, htop]
    · rw [above?, hparent, Option.bind_some, hend]
termination_by start.length

theorem ancestors_eq (path : String) :
    ancestors path = path :: (parent? path).elim [] ancestors := by
  unfold ancestors parent?
  rw [ancestorsChars, List.map_cons, String.ofList_toList]
  split
  · next parent hparent => simp [hparent]
  · next hparent => simp [hparent]

theorem getElem?_ancestors (n : Nat) (path : String) : (ancestors path)[n]? = above? n path := by
  induction n generalizing path with
  | zero => rw [ancestors_eq, List.getElem?_cons_zero, above?]
  | succ n ih =>
    rw [ancestors_eq, List.getElem?_cons_succ, above?]
    cases parent? path with
    | none => rfl
    | some parent => exact ih parent

end Path

namespace Workspace

open WorkspaceSession.Path

def HasManifest (present : String → Bool) (path : String) : Prop :=
  present (join path Manifest.fileName) = true

instance (present : String → Bool) (path : String) : Decidable (HasManifest present path) :=
  inferInstanceAs (Decidable (_ = true))

/-- The first path on the way up that has a manifest, and how many steps up it is. -/
structure Nearest (present : String → Bool) (start root : String) (n : Nat) : Prop where
  above : above? n start = some root
  manifest : HasManifest present root
  none_nearer : ∀ k < n, ∀ path, above? k start = some path → ¬ HasManifest present path

section

variable {present : String → Bool} {start root : String}

theorem findRoot_eq_find? (present : String → Bool) (start : String) :
    (findRoot (m := Id) present start).run =
      (ancestors start).find? fun path => present (join path Manifest.fileName) :=
  List.idRun_findM? _ _

theorem findRoot_eq_some_iff :
    (findRoot (m := Id) present start).run = some root ↔ ∃ n, Nearest present start root n := by
  rw [findRoot_eq_find?, List.find?_eq_some_iff_getElem]
  constructor
  · rintro ⟨hmanifest, n, hn, hroot, hnearer⟩
    refine ⟨n, ?_, hmanifest, ?_⟩
    · rw [← getElem?_ancestors, List.getElem?_eq_getElem hn, hroot]
    · intro k hk path hpath hpresent
      rw [← getElem?_ancestors] at hpath
      obtain ⟨hlength, rfl⟩ := List.getElem?_eq_some_iff.mp hpath
      have habsent := hnearer k hk
      rw [hpresent] at habsent
      contradiction
  · rintro ⟨n, habove, hmanifest, hnearer⟩
    rw [← getElem?_ancestors] at habove
    obtain ⟨hn, hroot⟩ := List.getElem?_eq_some_iff.mp habove
    refine ⟨hmanifest, n, hn, hroot, ?_⟩
    intro k hk
    have habsent := hnearer k hk (ancestors start)[k]
    rw [← getElem?_ancestors, List.getElem?_eq_getElem (hk.trans hn)] at habsent
    simpa [HasManifest] using habsent rfl

theorem findRoot_eq_none_iff :
    (findRoot (m := Id) present start).run = none ↔
      ∀ n path, above? n start = some path → ¬ HasManifest present path := by
  rw [findRoot_eq_find?, List.find?_eq_none]
  constructor
  · intro h n path habove
    rw [← getElem?_ancestors] at habove
    exact h path (List.mem_of_getElem? habove)
  · intro h path hpath
    obtain ⟨n, hn⟩ := List.mem_iff_getElem?.mp hpath
    rw [getElem?_ancestors] at hn
    exact h n path hn

theorem Nearest.of_above? {n k : Nat} {path : String} (nearest : Nearest present start root (k + n))
    (hpath : above? k start = some path) : Nearest present path root n := by
  have hfrom (j : Nat) : above? (k + j) start = above? j path := by
    rw [above?_add, hpath, Option.bind_some]
  refine ⟨?_, nearest.manifest, ?_⟩
  · rw [← hfrom]
    exact nearest.above
  · intro j hj nearer hnearer
    rw [← hfrom] at hnearer
    exact nearest.none_nearer (k + j) (Nat.add_lt_add_left hj k) nearer hnearer

theorem findRoot_of_between {n k : Nat} {path : String}
    (hfound : (findRoot (m := Id) present start).run = some root)
    (hpath : above? k start = some path) (hroot : above? n path = some root) :
    (findRoot (m := Id) present path).run = some root := by
  obtain ⟨steps, nearest⟩ := findRoot_eq_some_iff.mp hfound
  have habove : above? (k + n) start = some root := by
    rw [above?_add, hpath, Option.bind_some, hroot]
  obtain rfl := above?_inj nearest.above habove
  exact findRoot_eq_some_iff.mpr ⟨n, nearest.of_above? hpath⟩

end

/-- The search goes up path by path and comes to an end, which is the empty path if it started at a
relative one. It finds the first path with a manifest, which is a leading part of the start, and
nothing where no path on the way has one. From the path it found, and from all paths on the way to
it, it finds the same. -/
theorem findRoot_nearest (present : String → Bool) (start : String) :
    (∀ n, start.length < n → above? n start = none) ∧
    (isAbsolute start = false → ∃ n, above? n start = some "" ∧ above? (n + 1) start = none) ∧
    (∀ n path, above? n start = some path →
      path.toList <+: start.toList ∧ isAbsolute path = isAbsolute start) ∧
    (∀ root, (findRoot (m := Id) present start).run = some root ↔
      ∃ n, Nearest present start root n) ∧
    ((findRoot (m := Id) present start).run = none ↔
      ∀ n path, above? n start = some path → ¬ HasManifest present path) ∧
    ∀ root, (findRoot (m := Id) present start).run = some root →
      ∀ k n path, above? k start = some path → above? n path = some root →
        (findRoot (m := Id) present path).run = some root := by
  refine ⟨fun n => above?_eq_none, exists_above?_empty start, ?_, fun root => findRoot_eq_some_iff,
    findRoot_eq_none_iff, ?_⟩
  · intro n path habove
    exact ⟨isPrefix_above? habove, isAbsolute_above? habove⟩
  · intro root hfound k n path hpath hroot
    exact findRoot_of_between hfound hpath hroot

def nested (path : String) : Bool := path ∈ ["/w/mod.json", "/w/a/mod.json"]

theorem nearest_nested : Nearest nested "/w/a//b/./c" "/w/a" 2 := by
  refine ⟨by decide, by decide, ?_⟩
  rintro (_ | _ | k) hk path hpath
  · obtain rfl := Option.some.inj hpath
    decide
  · have hparent : above? 1 "/w/a//b/./c" = some "/w/a//b" := by decide
    obtain rfl := Option.some.inj (hparent.symm.trans hpath)
    decide
  · omega

theorem nested_nearest :
    (findRoot (m := Id) nested "/w/a//b/./c").run = some "/w/a" ∧
      (findRoot (m := Id) nested "/w/a//b").run = some "/w/a" ∧
      (∃ n, above? n "./x" = some "" ∧ above? (n + 1) "./x" = none) ∧
      above? 6 "/w/a" = none := by
  obtain ⟨-, -, -, hfound, -, hbetween⟩ := findRoot_nearest nested "/w/a//b/./c"
  have hroot := (hfound "/w/a").mpr ⟨2, nearest_nested⟩
  refine ⟨hroot, hbetween "/w/a" hroot 1 1 "/w/a//b" (by decide) (by decide), ?_, ?_⟩
  · exact (findRoot_nearest nested "./x").2.1 (by decide)
  · exact (findRoot_nearest nested "/w/a").1 6 (by decide)

end Workspace
end WorkspaceSession
