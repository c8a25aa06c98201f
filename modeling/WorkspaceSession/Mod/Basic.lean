import WorkspaceSession.Table

/-! Mods: what a mod is called, what it needs, and the mods it was loaded with. -/
namespace WorkspaceSession

structure Need where
  name : String
  constraint : String := ""
deriving DecidableEq, Inhabited

structure Require where
  plugins : List Need := []
  mods : List Need := []
deriving DecidableEq, Inhabited

/-- A root mod has no dependency name. Children stand under the key they were loaded by. -/
structure Mod where
  name : String
  dependencyName : String := ""
  version : Option String := none
  require : Require := {}
  mods : List (String × Mod) := []

instance : Inhabited Mod := ⟨{ name := "" }⟩

namespace Mod

def displayName (m : Mod) : String := if m.dependencyName = "" then m.name else m.dependencyName

def withPlugin (m : Mod) (need : Need) : Mod :=
  { m with require := { m.require with plugins := m.require.plugins ++ [need] } }

def withModNeed (m : Mod) (need : Need) : Mod :=
  { m with require := { m.require with mods := m.require.mods ++ [need] } }

/-- A child of the same key is replaced. -/
def withChild (m : Mod) (key : String) (child : Mod) : Mod :=
  { m with mods := Entries.insert key child m.mods }

mutual

/-- Children stand in ascending order of their keys, at every level. -/
def Ordered : Mod → Prop
  | ⟨_, _, _, _, mods⟩ => Entries.Ascending mods ∧ AllOrdered mods

def AllOrdered : List (String × Mod) → Prop
  | [] => True
  | (_, child) :: rest => child.Ordered ∧ AllOrdered rest

end

mutual

def decOrdered : (m : Mod) → Decidable m.Ordered
  | ⟨_, _, _, _, mods⟩ =>
    have := decAllOrdered mods
    inferInstanceAs (Decidable (Entries.Ascending mods ∧ AllOrdered mods))

def decAllOrdered : (mods : List (String × Mod)) → Decidable (AllOrdered mods)
  | [] => .isTrue trivial
  | (_, child) :: rest =>
    have := decOrdered child
    have := decAllOrdered rest
    inferInstanceAs (Decidable (child.Ordered ∧ AllOrdered rest))

end

instance (m : Mod) : Decidable m.Ordered := decOrdered m

end Mod
end WorkspaceSession
