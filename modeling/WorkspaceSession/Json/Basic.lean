import WorkspaceSession.Table

/-! JSON values. Members of an object stand in ascending order of their keys. -/
namespace WorkspaceSession

/-- Integers are kept exactly; every other number is a double. -/
inductive Number where
  | int (n : Int)
  | float (x : Float)

inductive Json where
  | null
  | boolean (b : Bool)
  | number (n : Number)
  | text (s : String)
  | list (items : List Json)
  | object (members : List (String × Json))

instance : Inhabited Json := ⟨.null⟩

namespace Json

def int (n : Int) : Json := .number (.int n)

/-- An object from its members in any order; of members with the same key the last one stays. -/
def ofMembers (members : List (String × Json)) : Json :=
  .object (members.foldl (fun es e => Entries.insert e.1 e.2 es) [])

def texts (ss : List String) : Json := .list (ss.map .text)

def ofText? : Option String → Json
  | some s => .text s
  | none => .null

def get? (key : String) : Json → Option Json
  | .object members => Entries.find? key members
  | _ => none

end Json
end WorkspaceSession
