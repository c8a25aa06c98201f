import WorkspaceSession.Path

/-! Exporters by name, in the order of their registration. -/
namespace WorkspaceSession

/-- How an exporter writes: as JSON text into the file, or by means of its own. -/
inductive ExportFormat where
  | json | foreign
deriving DecidableEq

/-- The extension has its dot. -/
structure Exporter where
  name : String
  extension : String
  format : ExportFormat
deriving DecidableEq

def Exporter.json : Exporter := ⟨"json", ".json", .json⟩

inductive ExportError where
  | duplicate (name : String)
  | unknown (target : String)
deriving DecidableEq

def ExportError.message : ExportError → String
  | .duplicate name => "an exporter named '" ++ name ++ "' is already registered"
  | .unknown target => "no exporter found for '" ++ target ++ "'"

/-- No two exporters have the same name. -/
structure Registry where
  exporters : List Exporter
  distinct : (exporters.map Exporter.name).Nodup := by decide

/-- Equal but for the case of ASCII letters. -/
def sameExtension (a b : String) : Bool :=
  a.toList.map Char.toLower = b.toList.map Char.toLower

namespace Registry

def empty : Registry := ⟨[], by simp⟩

def names (r : Registry) : List String := r.exporters.map Exporter.name
def isEmpty (r : Registry) : Bool := r.exporters.isEmpty

def register (r : Registry) (e : Exporter) : Except ExportError Registry :=
  if h : e.name ∈ r.exporters.map Exporter.name then .error (.duplicate e.name)
  else .ok ⟨r.exporters ++ [e], by
    rw [List.map_append, List.nodup_append]
    exact ⟨r.distinct, by simp, by
      intro a ha b hb
      simp only [List.map_cons, List.map_nil, List.mem_singleton] at hb
      subst hb
      exact fun heq => h (heq ▸ ha)⟩⟩

def findByExtension? (r : Registry) (target : String) : Option Exporter := do
  let extension ← Path.extension? target
  r.exporters.find? fun e => sameExtension e.extension ("." ++ extension)

/-- The exporter of that name, else the first for the extension of the target. -/
def find (r : Registry) (target : String) : Except ExportError Exporter :=
  match (r.exporters.find? (·.name = target)).or (r.findByExtension? target) with
  | some e => .ok e
  | none => .error (.unknown target)

end Registry
end WorkspaceSession
