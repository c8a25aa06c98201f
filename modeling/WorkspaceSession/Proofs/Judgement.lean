import WorkspaceSession.Proofs.Installation

/-! An install and the check of plugin needs judge alike. Where every mod needs as plugins what it
needs as mods, and the same versions are there, both find the same needs unmet, of the same mods and
for the same causes; only the wording differs. -/
namespace WorkspaceSession

namespace Mod

mutual

def mapRequire (rewrite : Require → Require) : Mod → Mod
  | ⟨name, dependencyName, version, require, mods⟩ =>
    ⟨name, dependencyName, version, rewrite require, mapRequireChildren rewrite mods⟩

def mapRequireChildren (rewrite : Require → Require) : List (String × Mod) → List (String × Mod)
  | [] => []
  | (key, child) :: rest => (key, child.mapRequire rewrite) :: mapRequireChildren rewrite rest

end

section

variable (rewrite : Require → Require)

@[simp] theorem mapRequire_dependencyName (m : Mod) :
    (m.mapRequire rewrite).dependencyName = m.dependencyName := by
  cases m
  rfl

@[simp] theorem mapRequire_displayName (m : Mod) :
    (m.mapRequire rewrite).displayName = m.displayName := by
  cases m
  rfl

@[simp] theorem mapRequire_require (m : Mod) :
    (m.mapRequire rewrite).require = rewrite m.require := by
  cases m
  rfl

theorem mapRequireChildren_eq (children : List (String × Mod)) :
    mapRequireChildren rewrite children =
      children.map fun e => (e.1, e.2.mapRequire rewrite) := by
  induction children with
  | nil => rfl
  | cons e rest ih => rw [mapRequireChildren, ih, List.map_cons]

theorem mapRequire_mods (m : Mod) :
    (m.mapRequire rewrite).mods = m.mods.map fun e => (e.1, e.2.mapRequire rewrite) := by
  obtain ⟨_, _, _, _, mods⟩ := m
  exact mapRequireChildren_eq rewrite mods

theorem keepsDependencies_mapRequire : KeepsDependencies (mapRequire rewrite) where
  dependencyName := mapRequire_dependencyName rewrite
  dependencies m := by
    unfold dependencies
    rw [mapRequire_mods, mapRequire_dependencyName, List.filter_map]
    simp only [Function.comp_def, isSelfReference, mapRequire_dependencyName]

end

def needingPlugins (root : Mod) : Mod :=
  root.mapRequire fun require => { require with plugins := require.mods }

theorem treeViolations_needingPlugins (root : Mod) (lock : Lock) :
    root.needingPlugins.treeViolations lock.mods = lock.violations root := by
  unfold treeViolations needingPlugins Lock.violations violations
  rw [(keepsDependencies_mapRequire _).flatMap_walk fun m =>
    violationsOf m.displayName m.require.plugins lock.mods]
  simp only [mapRequire_displayName, mapRequire_require]

end Mod

/-- Hold the mod needs of a tree against a lock, and the same needs as plugin needs against the
versions in it: a forced install and the check find the same violations, each of a need of a mod
that the versions leave unmet, in the order in which the needs are visited. -/
theorem Workspace.install_judges_as_check (w : Workspace) (lock : Lock) :
    ∃ (report : InstallReport) (violations : List Violation),
      ({ w with lock := some lock } : Workspace).install true false = .ok report ∧
      report.failures = violations.map Violation.lockMessage ∧
      w.root.needingPlugins.treeMessages lock.mods = violations.map Violation.pluginMessage ∧
      report.failures.length = (w.root.needingPlugins.treeMessages lock.mods).length ∧
      violations.map (fun v => (v.requirer, v.need)) =
        w.root.modNeeds.filter (fun e => ¬ e.2.Met lock.mods) ∧
      ∀ v ∈ violations, v.need.Lacks lock.mods v.cause := by
  have hmessages : w.root.needingPlugins.treeMessages lock.mods =
      (lock.violations w.root).map Violation.pluginMessage := by
    unfold Mod.treeMessages
    rw [Mod.treeViolations_needingPlugins]
  refine ⟨lock.report w.root, lock.violations w.root, install_forced rfl, rfl, hmessages, ?_,
    lock.map_violations w.root, fun v => Lock.lacks_of_mem_violations⟩
  rw [hmessages, List.length_map]
  exact List.length_map _

end WorkspaceSession
