import WorkspaceSession.ErrorChain

/-! What can end an initialisation, and the findings of a stage: an error, warnings, or both. -/
namespace WorkspaceSession

inductive SessionError where
  | invalidState (text : String)
  | workspace (cause : ErrorChain)
  | noConnectionString
  | install (cause : ErrorChain)
  | connection (cause : ErrorChain)
  | cacheSettings (text : String)
  | modRequirements (violations : List String)
  | panicked (text : String)
  | cancelled
deriving DecidableEq

namespace SessionError

def message : SessionError → String
  | .invalidState text => "invalid state: " ++ text
  | .workspace cause => "failed to load workspace: " ++ cause.full
  | .noConnectionString => "no connection string is set"
  | .install cause => "failed to install workspace dependencies: " ++ cause.full
  | .connection cause => "failed to connect to database: " ++ cause.full
  | .cacheSettings text => "invalid cache settings: " ++ text
  | .modRequirements violations => Text.join "\n" violations
  | .panicked text => "unexpected failure during initialisation: " ++ text
  | .cancelled => "initialisation cancelled"

def isCancelled (e : SessionError) : Bool := e = .cancelled

def sources : SessionError → List String
  | .workspace cause | .install cause | .connection cause => cause.texts
  | _ => []

end SessionError

structure Findings where
  error : Option SessionError := none
  warnings : List String := []
deriving DecidableEq

namespace Findings

def empty : Findings := {}
def ofError (error : Option SessionError) : Findings := { error }

def addWarning (f : Findings) (text : String) : Findings :=
  { f with warnings := f.warnings ++ [text] }

/-- The first error stays. -/
def merge (f other : Findings) : Findings :=
  { error := f.error.or other.error, warnings := f.warnings ++ other.warnings }

def isEmpty (f : Findings) : Bool := f.error.isNone && f.warnings.isEmpty

end Findings
end WorkspaceSession
