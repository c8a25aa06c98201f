import WorkspaceSession.Workspace.Install

/-! Artifacts of loading play no part. A walk of the tree without them meets the same mods, so that
everything read off a walk is the same, and putting an artifact into a tree changes nothing. -/
namespace WorkspaceSession

namespace Mod

def pruneEntry (e : String × Mod) : String × Mod := (e.1, e.2.prune)

def Visit.prune (visit : Visit) : Visit := ⟨visit.key, visit.mod.prune⟩

@[simp] theorem prune_name (m : Mod) : m.prune.name = m.name := by
  cases m
  rfl

@[simp] theorem prune_dependencyName (m : Mod) : m.prune.dependencyName = m.dependencyName := by
  cases m
  rfl

@[simp] theorem prune_require (m : Mod) : m.prune.require = m.require := by
  cases m
  rfl

@[simp] theorem prune_displayName (m : Mod) : m.prune.displayName = m.displayName := by
  simp [displayName]

@[simp] theorem isSelfReference_prune (parent key : String) (child : Mod) :
    isSelfReference parent key child.prune = isSelfReference parent key child := by
  simp [isSelfReference]

theorem pruneChildren_eq (parent : String) (children : List (String × Mod)) :
    pruneChildren parent children =
      (children.filter fun e => !isSelfReference parent e.1 e.2).map pruneEntry := by
  induction children with
  | nil => rfl
  | cons e rest ih =>
    rw [pruneChildren, List.filter_cons, ih]
    cases isSelfReference parent e.1 e.2 <;> rfl

theorem prune_mods (m : Mod) : m.prune.mods = m.dependencies.map pruneEntry := by
  obtain ⟨_, dependencyName, _, _, mods⟩ := m
  exact pruneChildren_eq dependencyName mods

theorem prune_dependencies (m : Mod) : m.prune.dependencies = m.prune.mods := by
  unfold dependencies
  rw [prune_mods, List.filter_eq_self, prune_dependencyName]
  intro e he
  obtain ⟨⟨key, child⟩, hchild, rfl⟩ := List.mem_map.mp he
  simpa [pruneEntry] using (List.mem_filter.mp hchild).2

theorem keepsDependencies_prune : KeepsDependencies prune where
  dependencyName := prune_dependencyName
  dependencies m := by
    rw [prune_dependencies, prune_mods]
    rfl

theorem walk_prune (root : Mod) : root.prune.walk = root.walk.map Visit.prune :=
  keepsDependencies_prune.walk_eq root

theorem flatMap_walk_prune (read : Mod → List α) (hread : ∀ m : Mod, read m.prune = read m)
    (root : Mod) :
    root.prune.walk.flatMap (fun visit => read visit.mod) =
      root.walk.flatMap fun visit => read visit.mod := by
  rw [keepsDependencies_prune.flatMap_walk]
  simp only [hread]

theorem treeMessages_prune (root : Mod) (plugins : Table String) :
    root.prune.treeMessages plugins = root.treeMessages plugins := by
  unfold treeMessages treeViolations
  rw [flatMap_walk_prune fun m => m.violations plugins]
  intro m
  simp [violations]

theorem modNeeds_prune (root : Mod) : root.prune.modNeeds = root.modNeeds := by
  unfold modNeeds
  rw [flatMap_walk_prune fun m => m.require.mods.map fun need => (m.displayName, need)]
  intro m
  simp

end Mod

theorem Lock.violations_prune (lock : Lock) (root : Mod) :
    lock.violations root.prune = lock.violations root := by
  unfold violations
  rw [Mod.flatMap_walk_prune fun m => violationsOf m.displayName m.require.mods lock.mods]
  intro m
  simp

theorem Workspace.install_prune (w : Workspace) (force cancelled : Bool) :
    ({ w with root := w.root.prune } : Workspace).install force cancelled =
      w.install force cancelled := by
  simp only [install, Lock.report, Lock.provided, Lock.violations_prune, Mod.modNeeds_prune]

namespace Mod

/-- No outcome tells the trees apart: not the names that a walk meets, not the plugin needs found
unmet, and not an install, whatever the lock and the options. -/
structure Alike (root root' : Mod) : Prop where
  names : root.walk.map (fun visit => (visit.mod.name, visit.mod.displayName)) =
    root'.walk.map fun visit => (visit.mod.name, visit.mod.displayName)
  messages : ∀ plugins, root.treeMessages plugins = root'.treeMessages plugins
  install : ∀ (w : Workspace) force cancelled,
    ({ w with root := root } : Workspace).install force cancelled =
      ({ w with root := root' } : Workspace).install force cancelled

theorem Alike.symm {root root' : Mod} (alike : Alike root root') : Alike root' root where
  names := alike.names.symm
  messages plugins := (alike.messages plugins).symm
  install w force cancelled := (alike.install w force cancelled).symm

theorem Alike.trans {root root' root'' : Mod} (alike : Alike root root')
    (alike' : Alike root' root'') : Alike root root'' where
  names := alike.names.trans alike'.names
  messages plugins := (alike.messages plugins).trans (alike'.messages plugins)
  install w force cancelled := (alike.install w force cancelled).trans (alike'.install w _ _)

theorem alike_prune (root : Mod) : Alike root.prune root where
  names := by simp [walk_prune, Visit.prune]
  messages plugins := root.treeMessages_prune plugins
  install w force cancelled := ({ w with root := root } : Workspace).install_prune force cancelled

/-- The second tree is the first with an artifact put into it, under a key not in use: into the root
or into a tree anywhere below it. -/
inductive Grafted : Mod → Mod → Prop where
  | here (parent : Mod) (key : String) (child : Mod) (unused : ∀ e ∈ parent.mods, e.1 ≠ key)
      (artifact : isSelfReference parent.dependencyName key child = true) :
      Grafted parent (parent.withChild key child)
  | inside (parent : Mod) (key : String) (child child' : Mod) (before after : List (String × Mod))
      (mods : parent.mods = before ++ (key, child) :: after) (grafted : Grafted child child') :
      Grafted parent { parent with mods := before ++ (key, child') :: after }

theorem Grafted.dependencyName_eq {root root' : Mod} (grafted : Grafted root root') :
    root'.dependencyName = root.dependencyName := by
  cases grafted <;> rfl

theorem pruneChildren_insert (parent key : String) (child : Mod) (children : List (String × Mod))
    (unused : ∀ e ∈ children, e.1 ≠ key) (artifact : isSelfReference parent key child = true) :
    pruneChildren parent (Entries.insert key child children) = pruneChildren parent children := by
  induction children with
  | nil => simp [Entries.insert, pruneChildren, artifact]
  | cons e rest ih =>
    obtain ⟨hne, hrest⟩ := List.forall_mem_cons.mp unused
    rw [Entries.insert]
    split
    · rw [pruneChildren, if_pos artifact]
    · rw [if_neg hne.symm, pruneChildren, pruneChildren, ih hrest]

theorem Grafted.prune_eq {root root' : Mod} (grafted : Grafted root root') :
    root'.prune = root.prune := by
  induction grafted with
  | here parent key child unused artifact =>
    obtain ⟨_, dependencyName, _, _, mods⟩ := parent
    simp only [withChild, prune, pruneChildren_insert dependencyName key child mods unused artifact]
  | inside parent key child child' before after mods grafted ih =>
    obtain ⟨_, dependencyName, _, _, _⟩ := parent
    have hself : isSelfReference dependencyName key child' =
        isSelfReference dependencyName key child := by
      simp [isSelfReference, grafted.dependencyName_eq]
    obtain rfl := mods
    simp only [prune, pruneChildren_eq, List.filter_append, List.filter_cons, hself,
      List.map_append]
    split
    · simp only [List.map_cons, pruneEntry, ih]
    · rfl

/-- Artifacts of loading never influence an outcome. A tree without those at any of its levels has
the outcomes of the whole tree, and so has a tree with another artifact put in anywhere. -/
theorem artifacts_ignored (root : Mod) :
    Alike root.prune root ∧ ∀ root', Grafted root root' → Alike root' root := by
  refine ⟨root.alike_prune, ?_⟩
  intro root' grafted
  have hprune : Alike root'.prune root := by
    rw [grafted.prune_eq]
    exact root.alike_prune
  exact root'.alike_prune.symm.trans hprune

def shared : Mod :=
  { name := "shared"
    dependencyName := "c"
    require := { plugins := [⟨"x", ""⟩], mods := [⟨"d", ""⟩] } }

def plain : Mod :=
  { name := "root", mods := [("a", { name := "a", dependencyName := "a" }), ("c", shared)] }

def nickname : Mod := { name := "alias", mods := [("c", { shared with name := "other" })] }

def planted : Mod :=
  { plain with
    mods := [("a", { name := "a", dependencyName := "a", mods := [("local", nickname)] }),
      ("c", shared)] }

theorem planted_ignored : Grafted plain planted ∧ Alike planted plain := by
  have grafted : Grafted plain planted :=
    .inside plain "a" { name := "a", dependencyName := "a" } _ [] [("c", shared)] rfl
      (.here _ "local" nickname (by simp) rfl)
  exact ⟨grafted, (artifacts_ignored plain).2 planted grafted⟩

end Mod
end WorkspaceSession
