import WorkspaceSession.ErrorChain
import WorkspaceSession.Export.Registry
import WorkspaceSession.Host.Basic
import WorkspaceSession.Json.Printer
import WorkspaceSession.Text.Quoted

/-! Exporting a value to a file, by the exporter that the file's name calls for. -/
namespace WorkspaceSession

/-- An exporter with a format of its own writes nothing here. -/
def Exporter.write [Monad m] (e : Exporter) (host : Host m) (payload : Json)
    (destination : String) : m (Except ErrorChain Unit) := do
  match e.format with
  | .foreign => return .ok ()
  | .json =>
    return (← host.write destination payload.pretty).mapError fun e =>
      ⟨"Failed to write export file: " ++ Text.quoted destination, [e.message]⟩

def Registry.write [Monad m] (r : Registry) (host : Host m) (payload : Json)
    (destination : String) : m (Except ErrorChain Exporter) := do
  match r.find destination with
  | .error e => return .error ⟨e.message, []⟩
  | .ok e => return (← e.write host payload destination).map fun () => e

end WorkspaceSession
