import WorkspaceSession.Mod.Basic
import WorkspaceSession.Text.Quoted
import WorkspaceSession.Workspace.Lock

/-! Workspaces: a root mod with its lock, and the handlers to run when it is closed. -/
namespace WorkspaceSession

/-- Handlers go by a name. -/
structure Workspace where
  path : String
  root : Mod
  lock : Option Lock := none
  handlers : List String := []
  closed : Bool := false

namespace Workspace

def pluginVersions (w : Workspace) : Table String :=
  match w.lock with
  | some lock => lock.plugins
  | none => .empty

def onClose (w : Workspace) (handler : String) : Workspace :=
  { w with handlers := w.handlers ++ [handler] }

/-- The handlers that run. They run in the first close alone. -/
def close (w : Workspace) : Workspace × List String :=
  if w.closed then (w, []) else ({ w with handlers := [], closed := true }, w.handlers)

def debugText (w : Workspace) : String :=
  "Workspace \x7b path: " ++ Text.quoted w.path ++ ", root_mod: " ++ Text.quoted w.root.name ++
    ", closed: " ++ (if w.closed then "true" else "false") ++ " \x7d"

end Workspace
end WorkspaceSession
