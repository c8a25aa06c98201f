import WorkspaceSession.Mod.Tree
import WorkspaceSession.Requirement.Matching
import WorkspaceSession.Requirement.Parser

/-! Needs that are not met. The same causes serve plugins and dependency mods; only the wording
differs. -/
namespace WorkspaceSession

inductive Shortfall where
  | absent
  | unreadable (fault : RequirementFault)
  | unsatisfied (version : String)
deriving DecidableEq

def Need.shortfall? (need : Need) : (available : Option String) → Option Shortfall
  | none => some .absent
  | some version =>
    match Requirement.parse need.constraint with
    | .error fault => some (.unreadable fault)
    | .ok requirement =>
      if requirement.satisfiedBy version then none else some (.unsatisfied version)

structure Violation where
  requirer : String
  need : Need
  cause : Shortfall
deriving DecidableEq

def violationsOf (requirer : String) (needs : List Need) (versions : Table String) :
    List Violation :=
  needs.filterMap fun need =>
    (need.shortfall? (versions.get? need.name)).map fun cause => ⟨requirer, need, cause⟩

theorem mem_violationsOf {requirer : String} {needs : List Need} {versions : Table String}
    {v : Violation} : v ∈ violationsOf requirer needs versions ↔
      v.requirer = requirer ∧ v.need ∈ needs ∧
        v.need.shortfall? (versions.get? v.need.name) = some v.cause := by
  unfold violationsOf
  rw [List.mem_filterMap]
  constructor
  · rintro ⟨need, hneed, h⟩
    obtain ⟨cause, hcause, rfl⟩ := Option.map_eq_some_iff.mp h
    exact ⟨rfl, hneed, hcause⟩
  · rintro ⟨rfl, hneed, hcause⟩
    exact ⟨v.need, hneed, by simp [hcause]⟩

section

variable {requirer : String} {versions versions' : Table String}

theorem violationsOf_cons (need : Need) (needs : List Need) :
    violationsOf requirer (need :: needs) versions =
      ((need.shortfall? (versions.get? need.name)).map fun cause =>
        ⟨requirer, need, cause⟩).toList ++ violationsOf requirer needs versions := by
  unfold violationsOf
  rw [List.filterMap_cons]
  cases need.shortfall? (versions.get? need.name) <;> rfl

theorem filter_violationsOf (named : String → Bool) (needs : List Need) :
    (violationsOf requirer needs versions).filter (fun v => named v.need.name) =
      violationsOf requirer (needs.filter fun need => named need.name) versions := by
  induction needs with
  | nil => rfl
  | cons need needs ih =>
    rw [violationsOf_cons, List.filter_append, ih, List.filter_cons]
    cases hnamed : named need.name with
    | false => cases need.shortfall? (versions.get? need.name) <;> simp [hnamed]
    | true =>
      rw [if_pos rfl, violationsOf_cons]
      cases need.shortfall? (versions.get? need.name) <;> simp [hnamed]

theorem violationsOf_congr {needs : List Need}
    (agree : ∀ need ∈ needs, versions.get? need.name = versions'.get? need.name) :
    violationsOf requirer needs versions = violationsOf requirer needs versions' := by
  induction needs with
  | nil => rfl
  | cons need needs ih =>
    obtain ⟨hneed, hneeds⟩ := List.forall_mem_cons.mp agree
    rw [violationsOf_cons, violationsOf_cons, hneed, ih hneeds]

end

def Violation.pluginMessage (v : Violation) : String :=
  match v.cause with
  | .absent =>
    "could not find plugin " ++ v.need.name ++ " which is required by mod '" ++ v.requirer ++ "'"
  | .unreadable fault =>
    "mod '" ++ v.requirer ++ "' declares an unusable requirement for plugin " ++ v.need.name ++
      ": " ++ Requirement.invalidMessage v.need.constraint fault
  | .unsatisfied version =>
    "mod '" ++ v.requirer ++ "' requires plugin " ++ v.need.name ++ " version " ++
      v.need.constraint ++ ", but version " ++ version ++ " is installed"

namespace Mod

def violations (m : Mod) (plugins : Table String) : List Violation :=
  violationsOf m.displayName m.require.plugins plugins

/-- Those of the mod and of every dependency, each dependency once. -/
def treeViolations (root : Mod) (plugins : Table String) : List Violation :=
  root.walk.flatMap fun visit => visit.mod.violations plugins

def treeMessages (root : Mod) (plugins : Table String) : List String :=
  (root.treeViolations plugins).map Violation.pluginMessage

end Mod
end WorkspaceSession
