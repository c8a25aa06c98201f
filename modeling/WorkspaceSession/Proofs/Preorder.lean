import WorkspaceSession.Proofs.DependencyWalk

/-! The walk of a mod tree as a loop over a stack, and as recursion on the tree. A key is marked
when its entry is taken off, so that it may wait on the stack several times while a deeper mod
claims it. Both visit the same mods in the same order, and the loop comes to an end. -/
namespace WorkspaceSession.Mod

structure Loop where
  met : List String
  stack : List (Option String × Mod)
  visits : List Visit

namespace Loop

def start (root : Mod) : Loop := ⟨root.rootKeys, [(none, root)], []⟩

def push (parent : String) (stack : List (Option String × Mod)) (child : String × Mod) :
    List (Option String × Mod) :=
  if isSelfReference parent child.1 child.2 then stack else (some child.1, child.2) :: stack

/-- Takes one entry off the stack. If its key is new, the mod is visited and its children are
pushed, the last of them first. -/
def turn (l : Loop) : Loop :=
  match l.stack with
  | [] => l
  | (key, m) :: stack =>
    if key.any l.met.contains then { l with stack }
    else
      { met := key.toList ++ l.met
        stack := m.mods.reverse.foldl (push m.dependencyName) stack
        visits := l.visits ++ [⟨key, m⟩] }

def turns (l : Loop) : Nat → Loop
  | 0 => l
  | n + 1 => l.turn.turns n

def entries (pending : List (String × Mod)) : List (Option String × Mod) :=
  pending.map fun e => (some e.1, e.2)

theorem foldr_push (parent : String) (stack : List (Option String × Mod))
    (children : List (String × Mod)) :
    children.foldr (fun child stack => push parent stack child) stack =
      entries (children.filter fun e => !isSelfReference parent e.1 e.2) ++ stack := by
  induction children with
  | nil => rfl
  | cons child children ih =>
    rw [List.foldr_cons, ih, List.filter_cons]
    unfold push
    cases isSelfReference parent child.1 child.2 <;> rfl

theorem push_children (m : Mod) (pending : List (String × Mod)) :
    m.mods.reverse.foldl (push m.dependencyName) (entries pending) =
      entries (m.dependencies ++ pending) := by
  rw [List.foldl_reverse, foldr_push]
  unfold entries dependencies
  rw [List.map_append]

theorem turn_of_met (met : List String) (key : String) (m : Mod) (pending : List (String × Mod))
    (visits : List Visit) (hmet : key ∈ met) :
    turn ⟨met, entries ((key, m) :: pending), visits⟩ = ⟨met, entries pending, visits⟩ := by
  simp [turn, entries, hmet]

theorem turn_of_new (met : List String) (key : String) (m : Mod) (pending : List (String × Mod))
    (visits : List Visit) (hmet : key ∉ met) :
    turn ⟨met, entries ((key, m) :: pending), visits⟩ =
      ⟨key :: met, entries (m.dependencies ++ pending), visits ++ [⟨some key, m⟩]⟩ := by
  rw [← push_children]
  simp [turn, entries, hmet]

theorem turn_start (root : Mod) :
    turn (start root) = ⟨root.rootKeys, entries root.dependencies, [⟨none, root⟩]⟩ := by
  have hpush := push_children root []
  rw [List.append_nil] at hpush
  rw [← hpush]
  rfl

/-- Every mod below the stack is taken off once at most, so the loop ends within their number. -/
theorem turns_pending (met : List String) (pending : List (String × Mod)) (visits : List Visit) :
    ∃ n ≤ sizes pending, ∃ met', turns ⟨met, entries pending, visits⟩ n =
      ⟨met', [], visits ++ visitPending met pending⟩ := by
  fun_induction visitPending met pending generalizing visits with
  | case1 met =>
    refine ⟨0, Nat.le_refl _, met, ?_⟩
    rw [List.append_nil]
    rfl
  | case2 met key m pending hmet ih =>
    obtain ⟨n, hn, met', hturns⟩ := ih visits
    refine ⟨n + 1, ?_, met', ?_⟩
    · have := m.sizes_dependencies_lt
      simp only [sizes]
      omega
    · rw [turns, turn_of_met met key m pending visits hmet, hturns]
  | case3 met key m pending hmet ih =>
    obtain ⟨n, hn, met', hturns⟩ := ih (visits ++ [⟨some key, m⟩])
    refine ⟨n + 1, ?_, met', ?_⟩
    · have := m.sizes_dependencies_lt
      rw [sizes_append] at hn
      simp only [sizes]
      omega
    · rw [turns, turn_of_new met key m pending visits hmet, hturns, List.append_assoc]
      rfl

theorem turns_start (root : Mod) :
    ∃ n ≤ root.size, ∃ met, turns (start root) n = ⟨met, [], root.walk⟩ := by
  obtain ⟨n, hn, met, hturns⟩ :=
    turns_pending root.rootKeys root.dependencies [⟨none, root⟩]
  have := root.sizes_dependencies_lt
  refine ⟨n + 1, by omega, met, ?_⟩
  rw [turns, turn_start, hturns]
  rfl

end Loop

mutual

/-- Whatever else is pending waits until everything below the mod was met. -/
theorem visitPending_below (met : List String) (pending : List (String × Mod)) :
    (m : Mod) → visitPending met (m.dependencies ++ pending) =
      (walkBelow met m).1 ++ visitPending (walkBelow met m).2 pending
  | ⟨_, dependencyName, _, _, mods⟩ => visitPending_children dependencyName met pending mods

theorem visitPending_children (parent : String) (met : List String)
    (pending : List (String × Mod)) : (children : List (String × Mod)) →
    visitPending met
        (children.filter (fun e => !isSelfReference parent e.1 e.2) ++ pending) =
      (walkChildren parent met children).1 ++
        visitPending (walkChildren parent met children).2 pending
  | [] => by simp [walkChildren]
  | (key, child) :: rest => by
    have others (met : List String) := visitPending_children parent met pending rest
    rw [walkChildren]
    by_cases hself : isSelfReference parent key child
    · rw [List.filter_cons_of_neg (by simp [hself]), others met]
      simp [hself]
    · rw [List.filter_cons_of_pos (by simp [hself]), List.cons_append, visitPending]
      by_cases hmet : key ∈ met
      · simp [hself, hmet, others met]
      · simp [hself, hmet, visitPending_below (key :: met) _ child, others]

end

theorem walk_eq_preorder (root : Mod) : root.walk = root.preorder := by
  have hbelow := visitPending_below root.rootKeys [] root
  rw [List.append_nil] at hbelow
  unfold walk preorder
  rw [hbelow, visitPending, List.append_nil]

theorem AllOrdered.ordered {children : List (String × Mod)} (ordered : AllOrdered children)
    (key : String) (child : Mod) (hchild : (key, child) ∈ children) : child.Ordered := by
  induction children with
  | nil => cases hchild
  | cons e rest ih =>
    obtain ⟨hfirst, hrest⟩ := ordered
    rcases List.mem_cons.mp hchild with rfl | hchild
    · exact hfirst
    · exact ih hrest hchild

theorem Ordered.live {parent child : Mod} {key : String} (ordered : parent.Ordered)
    (live : parent.Live key child) : child.Ordered := by
  obtain ⟨_, _, _, _, mods⟩ := parent
  exact ordered.2.ordered key child live.1

theorem Ordered.reachable {root m : Mod} {key : String} (ordered : root.Ordered)
    (reachable : root.Reachable key m) : m.Ordered := by
  induction reachable with
  | child live => exact ordered.live live
  | step _ live ih => exact ih.live live

theorem Ordered.ascending {m : Mod} (ordered : m.Ordered) : Entries.Ascending m.mods := by
  cases m
  exact ordered.1

/-- The loop over the stack empties it within as many turns as the tree has mods, and has then
visited what the recursion visits, in the same order. In a tree whose keys ascend, the children of
every mod visited are taken in ascending order of their keys. -/
theorem loop_in_preorder (root : Mod) :
    (∃ n ≤ root.size, ((Loop.start root).turns n).stack = [] ∧
      ((Loop.start root).turns n).visits = root.preorder) ∧
      root.walk = root.preorder ∧
      (root.Ordered → ∀ visit ∈ root.preorder, Entries.Ascending visit.mod.mods) := by
  refine ⟨?_, root.walk_eq_preorder, ?_⟩
  · obtain ⟨n, hn, met, hturns⟩ := Loop.turns_start root
    refine ⟨n, hn, ?_, ?_⟩
    · rw [hturns]
    · rw [hturns]
      exact root.walk_eq_preorder
  · intro ordered visit hvisit
    rw [← walk_eq_preorder] at hvisit
    rcases root.walk_sound visit hvisit with rfl | ⟨key, -, reachable⟩
    · exact ordered.ascending
    · exact (ordered.reachable reachable).ascending

def crossing : Mod :=
  { name := "root"
    mods :=
      [("a", { name := "a", dependencyName := "a", mods := [("b", { name := "deep" })] }),
        ("b", { name := "shallow", dependencyName := "b" })] }

theorem crossing_in_preorder :
    crossing.Ordered ∧ crossing.walk.map (·.mod.name) = ["root", "a", "deep"] ∧
      ∀ visit ∈ crossing.preorder, Entries.Ascending visit.mod.mods := by
  obtain ⟨-, hwalk, hascending⟩ := loop_in_preorder crossing
  have ordered : crossing.Ordered := by decide
  refine ⟨ordered, ?_, hascending ordered⟩
  rw [hwalk]
  rfl

end WorkspaceSession.Mod
