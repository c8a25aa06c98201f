import WorkspaceSession.Json.Basic
import WorkspaceSession.Session.Error

/-! The result of an initialisation so far: at most one error, warnings, and messages. -/
namespace WorkspaceSession

structure SessionResult where
  error : Option SessionError := none
  warnings : List String := []
  messages : List String := []
deriving DecidableEq

namespace SessionResult

def ofError (error : SessionError) : SessionResult := { error := some error }

def setError (r : SessionResult) (error : SessionError) : SessionResult :=
  { r with error := some error }

def hasError (r : SessionResult) : Bool := r.error.isSome

def addWarnings (r : SessionResult) (texts : List String) : SessionResult :=
  { r with warnings := r.warnings ++ texts }

def addMessages (r : SessionResult) (texts : List String) : SessionResult :=
  { r with messages := r.messages ++ texts }

def lines (r : SessionResult) : List String :=
  r.messages ++ r.warnings.map ("Warning: " ++ ·)

def display (r : SessionResult) : String := String.join (r.lines.map (· ++ "\n"))

def summary (r : SessionResult) (writtenAt : Option String) : Json :=
  Json.ofMembers (
    [("success", .boolean (!r.hasError)), ("warnings", .texts r.warnings),
      ("messages", .texts r.messages)] ++
    (r.error.map fun e => ("error", .text e.message)).toList ++
    (writtenAt.map fun time => ("generated_at", .text time)).toList)

end SessionResult
end WorkspaceSession
