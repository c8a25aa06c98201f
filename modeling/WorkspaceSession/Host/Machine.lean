import WorkspaceSession.Host.FileTree

/-! Machines given as values: files, a current directory, an environment, and who answers a call. -/
namespace WorkspaceSession

structure Machine where
  files : FileTree := {}
  current : List String := []
  environment : String → Option String := fun _ => none
  answers : (address : String) → Except HostError Unit := fun _ => .error .unreachable
  time : String := ""

namespace Machine

def ask (question : Machine → α) : StateM Machine α := fun m => (question m, m)

def write (m : Machine) (path content : String) : Except HostError Unit × Machine :=
  match m.files.write m.current path content.toUTF8 with
  | .ok files => (.ok (), { m with files })
  | .error e => (.error e, m)

def host : Host (StateM Machine) where
  currentDirectory := ask fun m => .ok (FileTree.placeText m.current)
  canonicalize path := ask fun m => m.files.canonicalize m.current path
  isDirectory path := ask fun m => m.files.isDirectory m.current path
  present path := ask fun m => m.files.present m.current path
  read path := ask fun m => m.files.read m.current path
  write path content := fun m => m.write path content
  dial address := ask fun m => m.answers address
  environment name := ask fun m => m.environment name
  timestamp := ask fun m => m.time

end Machine
end WorkspaceSession
