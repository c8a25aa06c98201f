import WorkspaceSession.Workspace.Manifest

/-! Where the workspace is: as given, else the nearest directory upwards that has a manifest. -/
namespace WorkspaceSession.Workspace

def findRoot [Monad m] (present : (path : String) → m Bool) (start : String) :
    m (Option String) :=
  (Path.ancestors start).findM? fun path => present (Path.join path Manifest.fileName)

/-- Without a workspace given, the current directory counts where the search finds nothing. -/
def resolve [Monad m] (host : Host m) : Option String → m (Except ErrorChain String)
  | some path => do
    return (← host.canonicalize path).mapError fun e =>
      ⟨"Failed to canonicalize provided workspace path: " ++ path, [e.message]⟩
  | none => do
    match ← host.currentDirectory with
    | .ok current => return .ok ((← findRoot host.present current).getD current)
    | .error e => return .error ⟨"Failed to get current directory", [e.message]⟩

end WorkspaceSession.Workspace
