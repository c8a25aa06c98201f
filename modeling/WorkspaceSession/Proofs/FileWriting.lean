import WorkspaceSession.Host.FileTree
import WorkspaceSession.Proofs.Fallible

/-! Writing files. A path that was written to reads back what was written: only directories are on
the way to a file, and putting the file changes none of them. -/
namespace WorkspaceSession

namespace FileTree

structure Target (t : FileTree) (current : List String) (path : String) (place : List String) :
    Prop where
  allowed : refuse path = .ok ()
  short : refuseLong path = .ok ()
  way : (segments path).foldlM t.advance (origin current path) = .ok place
  fileless : t.entry? place ≠ some .directory

variable {t : FileTree} {place : List String} {content : ByteArray}

theorem entry?_put_self (e : FileEntry) (fileless : t.entry? place ≠ some .directory) :
    entry? (t.put place e) place = some e := by
  have hplace : place ≠ [] := by
    rintro rfl
    exact fileless rfl
  unfold entry? put
  rw [if_neg hplace]
  exact if_pos rfl

theorem entry?_put_of_ne (e : FileEntry) {other : List String} (hne : other ≠ place) :
    entry? (t.put place e) other = t.entry? other := by
  unfold entry? put
  simp only [if_neg hne]

theorem entry?_of_advance {start goal : List String} {segment : String}
    (h : t.advance start segment = .ok goal) : t.entry? start = some .directory := by
  unfold advance at h
  split at h
  · cases h
  · cases h
  · assumption

theorem eq_of_advance_dot {start goal : List String} (h : t.advance start "." = .ok goal) :
    goal = start := by
  have hstart := entry?_of_advance h
  unfold advance at h
  rw [hstart] at h
  cases h
  rfl

theorem advance_put (fileless : t.entry? place ≠ some .directory) {start goal : List String}
    {segment : String} (h : t.advance start segment = .ok goal) :
    (t.put place (.file content)).advance start segment = .ok goal := by
  have hne : start ≠ place := by
    rintro rfl
    exact fileless (entry?_of_advance h)
  rw [← h]
  unfold advance
  rw [entry?_put_of_ne _ hne]

theorem foldlM_advance_put (fileless : t.entry? place ≠ some .directory) {segments : List String}
    {start goal : List String} (h : segments.foldlM t.advance start = .ok goal) :
    segments.foldlM (t.put place (.file content)).advance start = .ok goal := by
  induction segments generalizing start with
  | nil => exact h
  | cons segment segments ih =>
    rw [List.foldlM_cons] at h ⊢
    obtain ⟨next, hnext, h⟩ := bind_eq_ok_iff.mp h
    rw [advance_put fileless hnext]
    exact ih h

theorem Target.read_put {current : List String} {path : String}
    (target : t.Target current path place) :
    (t.put place (.file content)).read current path = .ok content := by
  have hway : (segments path).foldlM (t.put place (.file content)).advance (origin current path) =
      .ok place := foldlM_advance_put target.fileless target.way
  have hentry := entry?_put_self (.file content) target.fileless
  unfold read find follow
  simp only [target.allowed, target.short, hway, hentry, bind, Except.bind, pure, Except.pure]

theorem foldlM_advance_concat {start parent goal way : List String} {name : String}
    (hparent : (way ++ ["."]).foldlM t.advance start = .ok parent)
    (hname : t.advance parent name = .ok goal) :
    (way ++ [name]).foldlM t.advance start = .ok goal := by
  rw [List.foldlM_append] at hparent ⊢
  obtain ⟨stop, hstop, hdot⟩ := bind_eq_ok_iff.mp hparent
  obtain ⟨_, hdot, hsame⟩ := bind_eq_ok_iff.mp hdot
  cases hsame
  cases eq_of_advance_dot hdot
  rw [hstop]
  change t.advance parent name >>= _ = _
  rw [hname]
  rfl

theorem segments_of_back {path name : String} {way : List String}
    (hback : (segments path).reverse.dropWhile (· = "") = name :: way)
    (hhead : (segments path).reverse.head? ≠ some "") : segments path = way.reverse ++ [name] := by
  have hsame : (segments path).reverse = name :: way := by
    cases hsegments : (segments path).reverse with
    | nil =>
      rw [hsegments] at hback
      cases hback
    | cons last before =>
      rw [hsegments] at hback hhead
      rwa [List.dropWhile_cons_of_neg (by simpa using hhead)] at hback
  rw [← List.reverse_reverse (segments path), hsame, List.reverse_cons]

/-- Whether a path can be written to does not hang on the content. -/
theorem exists_target_of_write {t' : FileTree} {current : List String} {path : String}
    (h : t.write current path content = .ok t') :
    ∃ place, t.Target current path place ∧
      ∀ content, t.write current path content = .ok (t.put place (.file content)) := by
  unfold write at h ⊢
  obtain ⟨_, allowed, h⟩ := bind_eq_ok_iff.mp h
  obtain ⟨_, short, h⟩ := bind_eq_ok_iff.mp h
  dsimp only at h
  split at h
  · cases h
  · next name way hback =>
    obtain ⟨parent, hparent, h⟩ := bind_eq_ok_iff.mp h
    split at h
    · cases h
    · next hname =>
      obtain ⟨place, hplace, h⟩ := bind_eq_ok_iff.mp h
      have hhead : (segments path).reverse.head? ≠ some "" := by
        simp only [Bool.or_eq_true, decide_eq_true_eq, not_or] at hname
        exact hname.2
      -- a directory in the place is refused in the last step of a write
      have fileless : t.entry? place ≠ some .directory := by
        intro hentry
        rw [hentry] at h
        cases h
      refine ⟨place, ⟨allowed, short, ?_, fileless⟩, ?_⟩
      · rw [segments_of_back hback hhead]
        exact foldlM_advance_concat hparent hplace
      · intro content
        simp only [allowed, short, hback, hparent, hplace, bind, Except.bind]
        exact if_neg hname

theorem read_of_write {t' : FileTree} {current : List String} {path : String}
    (h : t.write current path content = .ok t') : t'.read current path = .ok content := by
  obtain ⟨place, target, hwrite⟩ := exists_target_of_write h
  rw [hwrite] at h
  cases h
  exact target.read_put

end FileTree
end WorkspaceSession
