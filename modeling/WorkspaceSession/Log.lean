/-! Lines of the log. -/
namespace WorkspaceSession

inductive LogLevel where
  | info | warn | error
deriving DecidableEq

structure LogLine where
  level : LogLevel
  text : String
deriving DecidableEq

def LogLevel.word : LogLevel → String
  | .info => "INFO"
  | .warn => "WARN"
  | .error => "ERROR"

namespace LogLine

def info (text : String) : LogLine := ⟨.info, text⟩
def warn (text : String) : LogLine := ⟨.warn, text⟩
def error (text : String) : LogLine := ⟨.error, text⟩

def render (l : LogLine) : String := l.level.word ++ " " ++ l.text

end LogLine
end WorkspaceSession
