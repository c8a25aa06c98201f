import WorkspaceSession.Mod.Basic

/-! Walking the tree of a mod: the root, then its dependencies depth first, each key once. A child
that only refers back to its parent is no dependency. -/
namespace WorkspaceSession.Mod

/-- The key by which a mod goes under itself. -/
def localKey : String := "local"

/-- Whether the child is an artifact of loading. -/
def isSelfReference (parent : String) (key : String) (child : Mod) : Bool :=
  key = localKey || parent = child.dependencyName

def dependencies (m : Mod) : List (String × Mod) :=
  m.mods.filter fun e => !isSelfReference m.dependencyName e.1 e.2

/-- A mod met on a walk, with the key it stood under; the root has none. -/
structure Visit where
  key : Option String
  mod : Mod

mutual

def size : Mod → Nat
  | ⟨_, _, _, _, mods⟩ => sizes mods + 1

def sizes : List (String × Mod) → Nat
  | [] => 0
  | (_, child) :: rest => child.size + sizes rest

end

theorem sizes_append (xs ys : List (String × Mod)) : sizes (xs ++ ys) = sizes xs + sizes ys := by
  induction xs with
  | nil => simp [sizes]
  | cons x xs ih => simp [sizes, ih, Nat.add_assoc]

theorem sizes_filter_le (p : String × Mod → Bool) (xs : List (String × Mod)) :
    sizes (xs.filter p) ≤ sizes xs := by
  induction xs with
  | nil => simp [sizes]
  | cons x xs ih =>
    simp only [List.filter_cons]
    split <;> simp only [sizes] <;> omega

theorem sizes_dependencies_lt (m : Mod) : sizes m.dependencies < m.size := by
  obtain ⟨_, parent, _, _, mods⟩ := m
  have := sizes_filter_le (fun e => !isSelfReference parent e.1 e.2) mods
  simp only [dependencies, size]
  omega

/-- Visits what is pending, the first entry first, and puts dependencies before what else is
pending. Keys met before are passed over. -/
def visitPending (met : List String) : (pending : List (String × Mod)) → List Visit
  | [] => []
  | (key, m) :: pending =>
    if key ∈ met then visitPending met pending
    else ⟨some key, m⟩ :: visitPending (key :: met) (m.dependencies ++ pending)
termination_by pending => (sizes pending, pending.length)
decreasing_by
  · simp only [sizes, List.length_cons]
    have : 0 < m.size := by cases m; simp [size]
    exact Prod.Lex.left _ _ (by omega)
  · have := m.sizes_dependencies_lt
    simp only [sizes, sizes_append]
    exact Prod.Lex.left _ _ (by omega)

/-- The key that a root is known by from the start, if it has a dependency name. -/
def rootKeys (root : Mod) : List String :=
  if root.dependencyName = "" then [] else [root.dependencyName]

theorem mem_rootKeys (root : Mod) (key : String) :
    key ∈ root.rootKeys ↔ root.dependencyName ≠ "" ∧ key = root.dependencyName := by
  unfold rootKeys
  by_cases hname : root.dependencyName = "" <;> simp [hname]

def walk (root : Mod) : List Visit :=
  ⟨none, root⟩ :: visitPending root.rootKeys root.dependencies

/-- A change of mods that a walk goes along with: the dependencies of a mod once it is changed are
those it had, changed as well. -/
structure KeepsDependencies (change : Mod → Mod) : Prop where
  dependencyName : ∀ m, (change m).dependencyName = m.dependencyName
  dependencies : ∀ m, (change m).dependencies = m.dependencies.map fun e => (e.1, change e.2)

def Visit.map (change : Mod → Mod) (visit : Visit) : Visit := ⟨visit.key, change visit.mod⟩

namespace KeepsDependencies

variable {change : Mod → Mod}

theorem visitPending_map (keeps : KeepsDependencies change) (met : List String)
    (pending : List (String × Mod)) :
    visitPending met (pending.map fun e => (e.1, change e.2)) =
      (visitPending met pending).map (Visit.map change) := by
  fun_induction visitPending met pending with
  | case1 met => simp [visitPending]
  | case2 met key m pending hmet ih =>
    rw [List.map_cons, visitPending, if_pos hmet]
    exact ih
  | case3 met key m pending hmet ih =>
    rw [List.map_append, ← keeps.dependencies] at ih
    rw [List.map_cons, visitPending, if_neg hmet, ih]
    rfl

theorem walk_eq (keeps : KeepsDependencies change) (root : Mod) :
    (change root).walk = root.walk.map (Visit.map change) := by
  unfold walk rootKeys
  rw [keeps.dependencyName, keeps.dependencies, keeps.visitPending_map]
  rfl

theorem flatMap_walk (keeps : KeepsDependencies change) (read : Mod → List α) (root : Mod) :
    (change root).walk.flatMap (fun visit => read visit.mod) =
      root.walk.flatMap fun visit => read (change visit.mod) := by
  rw [keeps.walk_eq, List.flatMap_map]
  rfl

end KeepsDependencies

mutual

def walkBelow (met : List String) : Mod → List Visit × List String
  | ⟨_, dependencyName, _, _, mods⟩ => walkChildren dependencyName met mods

def walkChildren (parent : String) (met : List String) :
    List (String × Mod) → List Visit × List String
  | [] => ([], met)
  | (key, child) :: rest =>
    if isSelfReference parent key child || met.contains key then walkChildren parent met rest
    else
      let below := walkBelow (key :: met) child
      let others := walkChildren parent below.2 rest
      (⟨some key, child⟩ :: below.1 ++ others.1, others.2)

end

/-- The same walk by recursion on the tree. -/
def preorder (root : Mod) : List Visit := ⟨none, root⟩ :: (walkBelow root.rootKeys root).1

mutual

/-- The tree without artifacts of loading. -/
def prune : Mod → Mod
  | ⟨name, dependencyName, version, require, mods⟩ =>
    ⟨name, dependencyName, version, require, pruneChildren dependencyName mods⟩

def pruneChildren (parent : String) : List (String × Mod) → List (String × Mod)
  | [] => []
  | (key, child) :: rest =>
    if isSelfReference parent key child then pruneChildren parent rest
    else (key, child.prune) :: pruneChildren parent rest

end

/-- The parent has the child under the key, and the child is no artifact of loading. -/
def Live (parent : Mod) (key : String) (child : Mod) : Prop :=
  (key, child) ∈ parent.mods ∧ key ≠ "local" ∧ child.dependencyName ≠ parent.dependencyName

@[simp] theorem mem_dependencies (parent : Mod) (key : String) (child : Mod) :
    (key, child) ∈ parent.dependencies ↔ parent.Live key child := by
  unfold dependencies Live
  rw [List.mem_filter]
  simp only [isSelfReference, Bool.not_eq_true', Bool.or_eq_false_iff, decide_eq_false_iff_not,
    ne_eq, @eq_comm _ child.dependencyName]
  rfl

inductive Reachable (root : Mod) : String → Mod → Prop where
  | child {key m} : root.Live key m → Reachable root key m
  | step {key m key' m'} : Reachable root key m → m.Live key' m' → Reachable root key' m'

end WorkspaceSession.Mod
