import WorkspaceSession.Json.Document

/-! The lock of a workspace: the versions that dependencies were resolved to. -/
namespace WorkspaceSession

structure Lock where
  mods : Table String := .empty
  plugins : Table String := .empty

namespace Lock

open Json Document

def tableJson (t : Table String) : Json :=
  .object (t.entries.map fun (key, value) => (key, .text value))

def toJson (l : Lock) : Json :=
  .object [("mods", tableJson l.mods), ("plugins", tableJson l.plugins)]

structure Draft where
  mods : Option (Table String) := none
  plugins : Option (Table String) := none

def Draft.finish (d : Draft) : Lock := ⟨d.mods.getD .empty, d.plugins.getD .empty⟩

def versions (d : Document) : Except Fault (Table String) := d.asTable asText

def readMembers : Draft → List (Except Fault String × Document) → Except Fault Draft
  | d, [] => .ok d
  | d, (key, value) :: rest => do
    let key ← key
    if key = "mods" then
      let mods ← once "mods" d.mods (versions value)
      readMembers { d with mods } rest
    else if key = "plugins" then
      let plugins ← once "plugins" d.plugins (versions value)
      readMembers { d with plugins } rest
    else
      value.skip
      readMembers d rest

def readItems (level : Option Nat) : List Document → Except Fault Lock
  | [] => .ok {}
  | [mods] => do return { mods := ← versions mods }
  | mods :: plugins :: rest => do
    let mods ← versions mods
    let plugins ← versions plugins
    endOfItems level (2 + rest.length) rest
    return { mods, plugins }

def ofDocument : Document → Except Fault Lock
  | .table level members => do
    checkLevel level
    return (← readMembers {} members).finish
  | .list level items => do
    checkLevel level
    readItems level items
  | d => .error (d.mismatch (.record "WorkspaceLock"))

def ofDocument? : Document → Except Fault (Option Lock)
  | .null => .ok none
  | d => (ofDocument d).map some

def ofJson? (j : Json) : Except Fault (Option Lock) := ofDocument? (Document.ofJson j)

end Lock
end WorkspaceSession
