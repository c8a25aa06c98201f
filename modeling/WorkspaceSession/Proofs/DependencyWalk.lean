import WorkspaceSession.Mod.Violation

/-! The walk of a mod tree against reachability. A key met before is passed over with everything
below it; where equal keys stand for equal mods nothing is lost by that, and no violation found
means that every reachable mod has what it needs. -/
namespace WorkspaceSession

def Need.Met (need : Need) (versions : Table String) : Prop :=
  ∃ version requirement, versions.get? need.name = some version ∧
    Requirement.parse need.constraint = .ok requirement ∧
    requirement.satisfiedBy version = true

@[simp] theorem Need.shortfall?_eq_none_iff (need : Need) (versions : Table String) :
    need.shortfall? (versions.get? need.name) = none ↔ need.Met versions := by
  unfold Need.shortfall? Need.Met
  cases versions.get? need.name with
  | none => simp
  | some version =>
    cases Requirement.parse need.constraint with
    | error fault => simp
    | ok requirement => simp

instance (need : Need) (versions : Table String) : Decidable (need.Met versions) :=
  decidable_of_iff _ (need.shortfall?_eq_none_iff versions)

namespace Mod

def visitedKeys (visits : List Visit) : List String := visits.filterMap Visit.key

@[simp] theorem mem_visitedKeys (visits : List Visit) (key : String) :
    key ∈ visitedKeys visits ↔ ∃ visit ∈ visits, visit.key = some key := by
  simp [visitedKeys]

/-- What holds of the entries pending, and of a dependency wherever it holds of the parent, holds
of every visit. -/
theorem visitPending_forall (met : List String) (pending : List (String × Mod))
    (good : String → Mod → Prop)
    (live : ∀ key parent key' child, good key parent → parent.Live key' child → good key' child)
    (start : ∀ key m, (key, m) ∈ pending → good key m) :
    ∀ visit ∈ visitPending met pending, ∃ key, visit.key = some key ∧ good key visit.mod := by
  fun_induction visitPending met pending with
  | case1 met =>
    intro visit hvisit
    simp at hvisit
  | case2 met key m pending hmet ih =>
    apply ih
    intro key' m' hmem
    exact start key' m' (List.mem_cons_of_mem _ hmem)
  | case3 met key m pending hmet ih =>
    have hgood : good key m := start key m List.mem_cons_self
    intro visit hvisit
    rcases List.mem_cons.mp hvisit with rfl | hvisit
    · exact ⟨key, rfl, hgood⟩
    · refine ih ?_ visit hvisit
      intro key' m' hmem
      rcases List.mem_append.mp hmem with hmem | hmem
      · exact live key m key' m' hgood ((mem_dependencies m key' m').mp hmem)
      · exact start key' m' (List.mem_cons_of_mem _ hmem)

/-- No key is dropped: a key pending is met or visited, and so is the key of every dependency of a
mod visited. -/
theorem visitPending_closed (met : List String) (pending : List (String × Mod)) :
    (∀ key m, (key, m) ∈ pending → key ∈ met ∨ key ∈ visitedKeys (visitPending met pending)) ∧
      ∀ visit ∈ visitPending met pending, ∀ key m, visit.mod.Live key m →
        key ∈ met ∨ key ∈ visitedKeys (visitPending met pending) := by
  fun_induction visitPending met pending with
  | case1 met => simp
  | case2 met key m pending hmet ih =>
    refine ⟨?_, ih.2⟩
    intro key' m' hmem
    rcases List.mem_cons.mp hmem with heq | hmem
    · obtain ⟨rfl, rfl⟩ := Prod.mk.inj heq
      exact Or.inl hmet
    · exact ih.1 key' m' hmem
  | case3 met key m pending hmet ih =>
    -- A key met or visited after this visit is met before it, or visited by it or later.
    have shift (key' : String)
        (h : key' ∈ key :: met ∨
          key' ∈ visitedKeys (visitPending (key :: met) (m.dependencies ++ pending))) :
        key' ∈ met ∨ key' ∈ visitedKeys
          (⟨some key, m⟩ :: visitPending (key :: met) (m.dependencies ++ pending)) := by
      simp only [mem_visitedKeys, List.mem_cons, exists_eq_or_imp] at h ⊢
      rcases h with (rfl | h) | h
      · exact Or.inr (Or.inl rfl)
      · exact Or.inl h
      · exact Or.inr (Or.inr h)
    refine ⟨?_, ?_⟩
    · intro key' m' hmem
      rcases List.mem_cons.mp hmem with heq | hmem
      · obtain ⟨rfl, rfl⟩ := Prod.mk.inj heq
        exact shift key' (Or.inl List.mem_cons_self)
      · exact shift key' (ih.1 key' m' (List.mem_append_right _ hmem))
    · intro visit hvisit key' m' hlive
      rcases List.mem_cons.mp hvisit with rfl | hvisit
      · have hmem := (mem_dependencies m key' m').mpr hlive
        exact shift key' (ih.1 key' m' (List.mem_append_left _ hmem))
      · exact shift key' (ih.2 visit hvisit key' m' hlive)

theorem reachable_of_visit (root : Mod) (visit : Visit)
    (hvisit : visit ∈ visitPending root.rootKeys root.dependencies) :
    ∃ key, visit.key = some key ∧ root.Reachable key visit.mod := by
  refine visitPending_forall root.rootKeys root.dependencies root.Reachable ?_ ?_ visit hvisit
  · intro key parent key' child hparent hlive
    exact hparent.step hlive
  · intro key m hmem
    exact .child ((mem_dependencies root key m).mp hmem)

theorem walk_sound (root : Mod) (visit : Visit) (hvisit : visit ∈ root.walk) :
    visit = ⟨none, root⟩ ∨ ∃ key, visit.key = some key ∧ root.Reachable key visit.mod := by
  rcases List.mem_cons.mp hvisit with rfl | hvisit
  · exact Or.inl rfl
  · exact Or.inr (root.reachable_of_visit visit hvisit)

structure Consistent (root : Mod) : Prop where
  equal : ∀ key m m', root.Reachable key m → root.Reachable key m' → m = m'
  unaliased : root.dependencyName ≠ "" → ∀ m, ¬ root.Reachable root.dependencyName m

theorem Consistent.not_mem_rootKeys {root : Mod} (consistent : root.Consistent) {key : String}
    {m : Mod} (reachable : root.Reachable key m) : key ∉ root.rootKeys := by
  rw [mem_rootKeys]
  rintro ⟨hname, rfl⟩
  exact consistent.unaliased hname m reachable

theorem Consistent.mem_visits {root : Mod} (consistent : root.Consistent) {key : String} {m : Mod}
    (reachable : root.Reachable key m)
    (hkey : key ∈ root.rootKeys ∨
      key ∈ visitedKeys (visitPending root.rootKeys root.dependencies)) :
    ⟨some key, m⟩ ∈ visitPending root.rootKeys root.dependencies := by
  have hvisited := hkey.resolve_left (consistent.not_mem_rootKeys reachable)
  obtain ⟨visit, hvisit, hvisitKey⟩ := (mem_visitedKeys _ key).mp hvisited
  rcases walk_sound root visit (List.mem_cons_of_mem _ hvisit) with rfl | ⟨key', hkey', hreach'⟩
  · simp at hvisitKey
  · obtain rfl : key' = key := Option.some.inj (hkey'.symm.trans hvisitKey)
    rw [consistent.equal key' m visit.mod reachable hreach', ← hkey']
    exact hvisit

/-- By induction along the path of live edges: the parent was visited, so the walk closed over the
key of the child. -/
theorem Consistent.mem_walk {root : Mod} (consistent : root.Consistent) {key : String} {m : Mod}
    (reachable : root.Reachable key m) : ⟨some key, m⟩ ∈ root.walk := by
  have closed := visitPending_closed root.rootKeys root.dependencies
  apply List.mem_cons_of_mem
  induction reachable with
  | @child key m live =>
    apply consistent.mem_visits (.child live)
    exact closed.1 key m ((mem_dependencies root key m).mpr live)
  | @step key m key' m' reachable live ih =>
    apply consistent.mem_visits (reachable.step live)
    exact closed.2 ⟨some key, m⟩ ih key' m' live

def Satisfied (m : Mod) (plugins : Table String) : Prop :=
  ∀ need ∈ m.require.plugins, need.Met plugins

theorem violations_eq_nil_iff (m : Mod) (plugins : Table String) :
    m.violations plugins = [] ↔ m.Satisfied plugins := by
  simp [violations, violationsOf, Satisfied, List.filterMap_eq_nil_iff]

theorem treeMessages_eq_nil_iff (root : Mod) (plugins : Table String) :
    root.treeMessages plugins = [] ↔ ∀ visit ∈ root.walk, visit.mod.Satisfied plugins := by
  simp [treeMessages, treeViolations, List.flatMap_eq_nil_iff, violations_eq_nil_iff]

/-- Where equal keys stand for equal mods, dropping a later occurrence of a key loses no mod: the
keys visited are those of the reachable mods, and no message means that the root and every
reachable mod has the plugins it needs. -/
theorem walk_covers_reachable (root : Mod) (plugins : Table String)
    (consistent : root.Consistent) :
    (∀ key, key ∈ visitedKeys root.walk ↔ ∃ m, root.Reachable key m) ∧
      (root.treeMessages plugins = [] ↔
        root.Satisfied plugins ∧ ∀ key m, root.Reachable key m → m.Satisfied plugins) := by
  refine ⟨?_, ?_⟩
  · intro key
    rw [mem_visitedKeys]
    constructor
    · rintro ⟨visit, hvisit, hkey⟩
      rcases walk_sound root visit hvisit with rfl | ⟨key', hkey', reachable⟩
      · simp at hkey
      · obtain rfl : key' = key := Option.some.inj (hkey'.symm.trans hkey)
        exact ⟨visit.mod, reachable⟩
    · rintro ⟨m, reachable⟩
      exact ⟨⟨some key, m⟩, consistent.mem_walk reachable, rfl⟩
  · rw [treeMessages_eq_nil_iff]
    constructor
    · intro satisfied
      refine ⟨satisfied ⟨none, root⟩ List.mem_cons_self, ?_⟩
      intro key m reachable
      exact satisfied ⟨some key, m⟩ (consistent.mem_walk reachable)
    · rintro ⟨hroot, hreachable⟩ visit hvisit
      rcases walk_sound root visit hvisit with rfl | ⟨key, -, reachable⟩
      · exact hroot
      · exact hreachable key visit.mod reachable

def common : Mod :=
  { name := "common", dependencyName := "common", require := { plugins := [⟨"aws", ">=5"⟩] } }

def onCommon (name : String) : Mod :=
  { name, dependencyName := name, mods := [("common", common), ("local", { name := "alias" })] }

def sharing : Mod :=
  { name := "root"
    mods := [("a", onCommon "a"), ("b", onCommon "b"), ("local", onCommon "local")] }

theorem live_onCommon {name key : String} {m : Mod} (live : (onCommon name).Live key m) :
    key = "common" ∧ m = common := by
  obtain ⟨hmem, hkey, -⟩ := live
  simp only [onCommon, List.mem_cons, List.not_mem_nil, Prod.mk.injEq, or_false] at hmem
  exact hmem.resolve_right fun hlocal => hkey hlocal.1

theorem mem_of_sharing_reachable {key : String} {m : Mod} (reachable : sharing.Reachable key m) :
    (key, m) ∈ [("a", onCommon "a"), ("b", onCommon "b"), ("common", common)] := by
  induction reachable with
  | @child key m live =>
    obtain ⟨hmem, hkey, -⟩ := live
    simp only [sharing, List.mem_cons, List.not_mem_nil, Prod.mk.injEq, or_false] at hmem ⊢
    rcases hmem with h | h | ⟨hlocal, -⟩
    · exact Or.inl h
    · exact Or.inr (Or.inl h)
    · exact absurd hlocal hkey
  | @step key m key' m' _ live ih =>
    simp only [List.mem_cons, List.not_mem_nil, Prod.mk.injEq, or_false] at ih ⊢
    rcases ih with ⟨-, rfl⟩ | ⟨-, rfl⟩ | ⟨-, rfl⟩
    · exact Or.inr (Or.inr (live_onCommon live))
    · exact Or.inr (Or.inr (live_onCommon live))
    · exact absurd live.1 List.not_mem_nil

theorem sharing_consistent : sharing.Consistent where
  equal := by
    intro key m m' reachable reachable'
    have hmem := mem_of_sharing_reachable reachable
    have hmem' := mem_of_sharing_reachable reachable'
    simp only [List.mem_cons, List.not_mem_nil, Prod.mk.injEq, or_false] at hmem hmem'
    grind
  unaliased := by
    intro hname
    exact absurd rfl hname

theorem walk_covers_sharing :
    sharing.Consistent ∧
      (∀ key, key ∈ visitedKeys sharing.walk ↔ ∃ m, sharing.Reachable key m) ∧
      (sharing.treeMessages .empty = [] ↔
        sharing.Satisfied .empty ∧ ∀ key m, sharing.Reachable key m → m.Satisfied .empty) :=
  ⟨sharing_consistent, walk_covers_reachable sharing .empty sharing_consistent⟩

end Mod
end WorkspaceSession
