import WorkspaceSession.Proofs.DependencyWalk

/-! The history of a walk, whatever keys the tree repeats. Every visit has a new key and comes after
that of a mod it is a dependency of, and the walk closes over the dependencies of all it visits. -/
namespace WorkspaceSession.Mod

@[simp] theorem visitedKeys_cons_some (key : String) (m : Mod) (visits : List Visit) :
    visitedKeys (⟨some key, m⟩ :: visits) = key :: visitedKeys visits := rfl

@[simp] theorem visitedKeys_cons_none (m : Mod) (visits : List Visit) :
    visitedKeys (⟨none, m⟩ :: visits) = visitedKeys visits := rfl

theorem visitPending_nodup (met : List String) (pending : List (String × Mod)) :
    (visitedKeys (visitPending met pending)).Nodup ∧
      ∀ key ∈ visitedKeys (visitPending met pending), key ∉ met := by
  fun_induction visitPending met pending with
  | case1 met => simp [visitedKeys]
  | case2 met key m pending hmet ih => exact ih
  | case3 met key m pending hmet ih =>
    obtain ⟨hnodup, hnew⟩ := ih
    rw [visitedKeys_cons_some]
    constructor
    · refine List.nodup_cons.mpr ⟨?_, hnodup⟩
      intro hkey
      exact hnew key hkey List.mem_cons_self
    · intro key' hkey'
      rcases List.mem_cons.mp hkey' with rfl | hkey'
      · exact hmet
      · intro hmem
        exact hnew key' hkey' (List.mem_cons_of_mem _ hmem)

/-- By induction over the visits: whatever is pending is a dependency of a mod seen by then. -/
theorem visitPending_parent (met : List String) (pending : List (String × Mod)) (seen : List Visit)
    (start : ∀ key m, (key, m) ∈ pending → ∃ parent ∈ seen, parent.mod.Live key m)
    (before after : List Visit) (visit : Visit)
    (hvisits : visitPending met pending = before ++ visit :: after) :
    ∃ parent ∈ seen ++ before, ∃ key, visit.key = some key ∧ parent.mod.Live key visit.mod := by
  fun_induction visitPending met pending generalizing seen before with
  | case1 met => simp at hvisits
  | case2 met key m pending hmet ih =>
    apply ih seen _ before hvisits
    intro key' m' hmem
    exact start key' m' (List.mem_cons_of_mem _ hmem)
  | case3 met key m pending hmet ih =>
    cases before with
    | nil =>
      obtain ⟨rfl, -⟩ := List.cons.inj hvisits
      obtain ⟨parent, hparent, live⟩ := start key m List.mem_cons_self
      exact ⟨parent, List.mem_append_left _ hparent, key, rfl, live⟩
    | cons first before =>
      rw [List.cons_append] at hvisits
      obtain ⟨rfl, hrest⟩ := List.cons.inj hvisits
      rw [List.append_cons]
      refine ih (seen ++ [(⟨some key, m⟩ : Visit)]) ?_ before hrest
      intro key' m' hmem
      rcases List.mem_append.mp hmem with hmem | hmem
      · refine ⟨⟨some key, m⟩, by simp, ?_⟩
        exact (mem_dependencies m key' m').mp hmem
      · obtain ⟨parent, hparent, live⟩ := start key' m' (List.mem_cons_of_mem _ hmem)
        exact ⟨parent, List.mem_append_left _ hparent, live⟩

theorem size_le_sizes (key : String) (child : Mod) (children : List (String × Mod))
    (hchild : (key, child) ∈ children) : child.size ≤ sizes children := by
  induction children with
  | nil => cases hchild
  | cons e rest ih =>
    simp only [sizes]
    rcases List.mem_cons.mp hchild with rfl | hchild
    · exact Nat.le_add_right _ _
    · exact Nat.le_trans (ih hchild) (Nat.le_add_left _ _)

theorem Live.size_lt {parent child : Mod} {key : String} (live : parent.Live key child) :
    child.size < parent.size :=
  Nat.lt_of_le_of_lt (size_le_sizes key child _ ((mem_dependencies parent key child).mpr live))
    parent.sizes_dependencies_lt

theorem Reachable.size_lt {root m : Mod} {key : String} (reachable : root.Reachable key m) :
    m.size < root.size := by
  induction reachable with
  | child live => exact live.size_lt
  | step _ live ih => exact Nat.lt_trans live.size_lt ih

theorem Reachable.key_ne_local {root m : Mod} {key : String} (reachable : root.Reachable key m) :
    key ≠ "local" := by
  cases reachable with
  | child live => exact live.2.1
  | step _ live => exact live.2.1

theorem map_key_visitPending (root : Mod) :
    (visitPending root.rootKeys root.dependencies).map Visit.key =
      (visitedKeys (visitPending root.rootKeys root.dependencies)).map some := by
  unfold visitedKeys
  rw [List.map_filterMap_some_eq_filter_map_isSome]
  symm
  apply List.filter_eq_self.mpr
  intro key hkey
  obtain ⟨visit, hvisit, rfl⟩ := List.mem_map.mp hkey
  obtain ⟨key, hkey, -⟩ := root.reachable_of_visit visit hvisit
  rw [hkey]
  rfl

/-- A walk visits the root first and never again. The keys of the other visits are distinct, and
neither the local one nor the name of the root is among them. Each of these visits comes after that
of a mod it is a dependency of; and every dependency of a mod visited stands under the name of the
root or under a key that is visited. -/
theorem walk_closes (root : Mod) :
    ∃ visits, root.walk = ⟨none, root⟩ :: visits ∧
      (∀ visit ∈ visits, visit.mod ≠ root) ∧
      visits.map Visit.key = (visitedKeys visits).map some ∧
      (visitedKeys visits).Nodup ∧ "local" ∉ visitedKeys visits ∧
      (root.dependencyName ≠ "" → root.dependencyName ∉ visitedKeys visits) ∧
      (∀ before visit after, visits = before ++ visit :: after →
        ∃ parent ∈ (⟨none, root⟩ : Visit) :: before, ∃ key,
          visit.key = some key ∧ parent.mod.Live key visit.mod) ∧
      ∀ visit ∈ root.walk, ∀ key child, visit.mod.Live key child →
        root.dependencyName ≠ "" ∧ key = root.dependencyName ∨ key ∈ visitedKeys visits := by
  obtain ⟨hnodup, hnew⟩ := visitPending_nodup root.rootKeys root.dependencies
  obtain ⟨hpending, hclosed⟩ := visitPending_closed root.rootKeys root.dependencies
  refine ⟨visitPending root.rootKeys root.dependencies, rfl, ?_, root.map_key_visitPending, hnodup,
    ?_, ?_, ?_, ?_⟩
  · intro visit hvisit hmod
    -- what is reached is smaller than the root, and so it is not the root again
    obtain ⟨key, -, reachable⟩ := root.reachable_of_visit visit hvisit
    rw [hmod] at reachable
    exact Nat.lt_irrefl _ reachable.size_lt
  · intro hlocal
    obtain ⟨visit, hvisit, hkey⟩ := (mem_visitedKeys _ _).mp hlocal
    obtain ⟨key, hkey', reachable⟩ := root.reachable_of_visit visit hvisit
    exact reachable.key_ne_local (Option.some.inj (hkey'.symm.trans hkey))
  · intro hname hroot
    exact hnew _ hroot ((root.mem_rootKeys _).mpr ⟨hname, rfl⟩)
  · intro before visit after hvisits
    apply visitPending_parent root.rootKeys root.dependencies [⟨none, root⟩] _ before after visit
      hvisits
    intro key m hmem
    exact ⟨⟨none, root⟩, List.mem_singleton_self _, (mem_dependencies root key m).mp hmem⟩
  · intro visit hvisit key child live
    rw [← mem_rootKeys]
    rcases List.mem_cons.mp hvisit with rfl | hvisit
    · exact hpending key child ((mem_dependencies root key child).mpr live)
    · exact hclosed visit hvisit key child live

/-- A named root that a dependency leads back to. One key stands for two mods in it, and in the root
for an artifact. -/
def tangled : Mod :=
  { name := "root"
    dependencyName := "root"
    mods :=
      [("a",
        { name := "a"
          dependencyName := "a"
          mods := [("b", { name := "b", dependencyName := "b" }), ("root", { name := "again" })] }),
        ("b", { name := "alias", dependencyName := "root" })] }

theorem tangled_closes :
    tangled.dependencyName ≠ "" ∧ "root" ∉ visitedKeys tangled.walk ∧
      (∃ child, tangled.Live "a" child) ∧ "a" ∈ visitedKeys tangled.walk := by
  obtain ⟨visits, hwalk, -, -, -, -, hroot, -, hclosed⟩ := walk_closes tangled
  have hname : tangled.dependencyName ≠ "" := by decide
  have live : tangled.Live "a" _ := ⟨List.mem_cons_self, by decide, by decide⟩
  rw [hwalk, visitedKeys_cons_none]
  refine ⟨hname, hroot hname, ⟨_, live⟩, ?_⟩
  rw [hwalk] at hclosed
  rcases hclosed ⟨none, tangled⟩ List.mem_cons_self "a" _ live with ⟨-, hkey⟩ | hkey
  · exact absurd hkey (by decide)
  · exact hkey

end WorkspaceSession.Mod
