import WorkspaceSession.Proofs.Preorder

/-! How violations follow the plugins that are there. What is said of one plugin does not hang on
the others, and plugins that are added let violations go: those of an added plugin are met or come
to another cause, and all else stays in its place. -/
namespace WorkspaceSession

namespace Table

def AgreeExcept (t t' : Table α) (name : String) : Prop :=
  ∀ other, other ≠ name → t.get? other = t'.get? other

def Extends (t t' : Table α) : Prop := ∀ name v, t.get? name = some v → t'.get? name = some v

def Adds (t t' : Table α) (name : String) : Prop :=
  t.get? name = none ∧ ∃ v, t'.get? name = some v

end Table

/-- What becomes of violations, one by one, when names are added. One of another name stays as it
is. One of an added name was that there is no such plugin; it is met, or another cause stands in its
place, for the same need of the same mod. -/
inductive Settles (added : String → Prop) : List Violation → List Violation → Prop where
  | nil : Settles added [] []
  | kept {v : Violation} {vs vs' : List Violation} : ¬ added v.need.name → Settles added vs vs' →
    Settles added (v :: vs) (v :: vs')
  | met {v : Violation} {vs vs' : List Violation} : added v.need.name → v.cause = .absent →
    Settles added vs vs' → Settles added (v :: vs) vs'
  | turned {v : Violation} {vs vs' : List Violation} {cause : Shortfall} : added v.need.name →
    v.cause = .absent → cause ≠ .absent → Settles added vs vs' →
    Settles added (v :: vs) ({ v with cause } :: vs')

namespace Settles

variable {added : String → Prop} {vs vs' ws ws' : List Violation}

theorem append (settles : Settles added vs vs') (settles' : Settles added ws ws') :
    Settles added (vs ++ ws) (vs' ++ ws') := by
  induction settles with
  | nil => exact settles'
  | kept hname _ ih => exact .kept hname ih
  | met hname hcause _ ih => exact .met hname hcause ih
  | turned hname hcause hpresent _ ih => exact .turned hname hcause hpresent ih

theorem flatMap {α : Type} {read read' : α → List Violation}
    (settles : ∀ a, Settles added (read a) (read' a)) (as : List α) :
    Settles added (as.flatMap read) (as.flatMap read') := by
  induction as with
  | nil => exact .nil
  | cons a as ih =>
    rw [List.flatMap_cons, List.flatMap_cons]
    exact (settles a).append ih

theorem length_le (settles : Settles added vs vs') : vs'.length ≤ vs.length := by
  induction settles with
  | nil => exact Nat.le_refl _
  | kept _ _ ih => exact Nat.succ_le_succ ih
  | met _ _ _ ih => exact Nat.le_succ_of_le ih
  | turned _ _ _ _ ih => exact Nat.succ_le_succ ih

end Settles

theorem Need.shortfall?_some_ne_absent {need : Need} {version : String} {cause : Shortfall}
    (h : need.shortfall? (some version) = some cause) : cause ≠ .absent := by
  rintro rfl
  unfold Need.shortfall? at h
  dsimp only at h
  split at h
  · cases h
  · split at h <;> cases h

/-- Need by need: a name that was there is judged as before, and so is one that is missing still. -/
theorem settles_violationsOf {requirer : String} {plugins plugins' : Table String}
    (more : plugins.Extends plugins') (needs : List Need) :
    Settles (plugins.Adds plugins') (violationsOf requirer needs plugins)
      (violationsOf requirer needs plugins') := by
  induction needs with
  | nil => exact .nil
  | cons need needs ih =>
    rw [violationsOf_cons, violationsOf_cons]
    cases hbefore : plugins.get? need.name with
    | some version =>
      have hold : ¬ plugins.Adds plugins' need.name := by
        rintro ⟨hnone, -⟩
        rw [hbefore] at hnone
        cases hnone
      rw [more need.name version hbefore]
      cases need.shortfall? (some version) with
      | none => exact ih
      | some cause => exact .kept hold ih
    | none =>
      have habsent : need.shortfall? none = some .absent := rfl
      rw [habsent]
      cases hafter : plugins'.get? need.name with
      | none =>
        have hstill : ¬ plugins.Adds plugins' need.name := by
          rintro ⟨-, version, hsome⟩
          rw [hafter] at hsome
          cases hsome
        exact .kept hstill ih
      | some version =>
        have hadded : plugins.Adds plugins' need.name := ⟨hbefore, version, hafter⟩
        cases hcause : need.shortfall? (some version) with
        | none => exact .met hadded rfl ih
        | some cause => exact .turned hadded rfl (Need.shortfall?_some_ne_absent hcause) ih

namespace Mod

theorem filter_treeViolations_of_agree {name : String} {plugins plugins' : Table String}
    (agree : plugins.AgreeExcept plugins' name) (root : Mod) :
    (root.treeViolations plugins).filter (fun v => v.need.name ≠ name) =
      (root.treeViolations plugins').filter fun v => v.need.name ≠ name := by
  unfold treeViolations
  rw [List.filter_flatMap, List.filter_flatMap]
  congr
  funext visit
  unfold violations
  rw [filter_violationsOf (fun other => other ≠ name),
    filter_violationsOf (fun other => other ≠ name)]
  apply violationsOf_congr
  intro need hneed
  exact agree need.name (of_decide_eq_true (List.mem_filter.mp hneed).2)

theorem settles_treeViolations {plugins plugins' : Table String} (more : plugins.Extends plugins')
    (root : Mod) :
    Settles (plugins.Adds plugins') (root.treeViolations plugins)
      (root.treeViolations plugins') := by
  unfold treeViolations
  apply Settles.flatMap
  intro visit
  exact settles_violationsOf more _

/-- The violations of all other plugins do not hang on what is there of one, and when plugins are
added there are no more violations than before: each of an added plugin, which was that the plugin
could not be found, is met or has come to another cause for the same need of the same mod, and each
of the others stays where it stood. -/
theorem violations_follow_plugins (root : Mod) :
    (∀ (name : String) (plugins plugins' : Table String), plugins.AgreeExcept plugins' name →
      (root.treeViolations plugins).filter (fun v => v.need.name ≠ name) =
        (root.treeViolations plugins').filter fun v => v.need.name ≠ name) ∧
      ∀ plugins plugins' : Table String, plugins.Extends plugins' →
        (root.treeMessages plugins').length ≤ (root.treeMessages plugins).length ∧
        Settles (plugins.Adds plugins') (root.treeViolations plugins)
          (root.treeViolations plugins') := by
  refine ⟨fun name plugins plugins' agree => filter_treeViolations_of_agree agree root, ?_⟩
  intro plugins plugins' more
  have settles := settles_treeViolations more root
  refine ⟨?_, settles⟩
  unfold treeMessages
  rw [List.length_map, List.length_map]
  exact settles.length_le

def greedy : Mod :=
  { name := "root"
    require := { plugins := [⟨"gcp", ""⟩, ⟨"aws", ">=1"⟩] }
    mods := [("net", { name := "net", dependencyName := "net", require :=
      { plugins := [⟨"aws", ">=2"⟩, ⟨"gcp", ">=x"⟩, ⟨"aws", "<1"⟩] } })] }

def oneInstalled : Table String := Table.empty.insert "gcp" "1.0"

def bothInstalled : Table String := oneInstalled.insert "aws" "1.5"

theorem treeViolations_greedy (plugins : Table String) :
    greedy.treeViolations plugins =
      violationsOf "root" [⟨"gcp", ""⟩, ⟨"aws", ">=1"⟩] plugins ++
        violationsOf "net" [⟨"aws", ">=2"⟩, ⟨"gcp", ">=x"⟩, ⟨"aws", "<1"⟩] plugins := by
  rw [treeViolations, walk_eq_preorder]
  exact congrArg _ (List.append_nil _)

theorem greedy_follows_plugins :
    oneInstalled.AgreeExcept bothInstalled "aws" ∧ oneInstalled.Extends bothInstalled ∧
      (greedy.treeViolations oneInstalled).filter (fun v => v.need.name ≠ "aws") =
        (greedy.treeViolations bothInstalled).filter (fun v => v.need.name ≠ "aws") ∧
      (greedy.treeViolations oneInstalled).length = 4 ∧
      (greedy.treeViolations bothInstalled).length = 3 ∧
      Settles (oneInstalled.Adds bothInstalled) (greedy.treeViolations oneInstalled)
        (greedy.treeViolations bothInstalled) := by
  have agree : oneInstalled.AgreeExcept bothInstalled "aws" := by
    intro other hother
    rw [bothInstalled, Table.get?_insert, if_neg hother]
  have more : oneInstalled.Extends bothInstalled := by
    intro name v hv
    rw [bothInstalled, Table.get?_insert, if_neg, hv]
    rintro rfl
    cases hv
  obtain ⟨hothers, hmore⟩ := violations_follow_plugins greedy
  refine ⟨agree, more, hothers "aws" oneInstalled bothInstalled agree, ?_, ?_,
    (hmore oneInstalled bothInstalled more).2⟩
  · rw [treeViolations_greedy]
    decide
  · rw [treeViolations_greedy]
    decide

end Mod
end WorkspaceSession
