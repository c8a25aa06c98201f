import WorkspaceSession.Json.Basic
import WorkspaceSession.Mod.Basic

/-! Mods as JSON. Members stand in ascending order of their names; an absent version has none. -/
namespace WorkspaceSession

/-- The field that holds the constraint is called differently for plugins and for mods. -/
def Need.toJson (field : String) (need : Need) : Json :=
  Json.ofMembers [("name", .text need.name), (field, .text need.constraint)]

def Require.toJson (r : Require) : Json :=
  .object [("mods", .list (r.mods.map (Need.toJson "version"))),
    ("plugins", .list (r.plugins.map (Need.toJson "min_version")))]

namespace Mod

mutual

def toJson : Mod → Json
  | ⟨name, dependencyName, version, require, mods⟩ =>
    .object ([("dependency_name", .text dependencyName), ("mods", .object (childrenToJson mods)),
      ("name", .text name), ("require", require.toJson)] ++
      match version with
      | some v => [("version", .text v)]
      | none => [])

def childrenToJson : List (String × Mod) → List (String × Json)
  | [] => []
  | (key, child) :: rest => (key, child.toJson) :: childrenToJson rest

end

end Mod
end WorkspaceSession
