import WorkspaceSession.Text.Decimal

/-! What the program asks of the machine it runs on, and how a machine refuses. -/
namespace WorkspaceSession

inductive HostError where
  | numbered (number : Nat) (text : String)
  | other (text : String)
deriving DecidableEq

namespace HostError

def notFound : HostError := .numbered 2 "No such file or directory"
def notDirectory : HostError := .numbered 20 "Not a directory"
def isDirectory : HostError := .numbered 21 "Is a directory"
def nameTooLong : HostError := .numbered 36 "File name too long"
def unreachable : HostError := .numbered 101 "Network is unreachable"
def nulByte : HostError := .other "file name contained an unexpected NUL byte"
def notText : HostError := .other "stream did not contain valid UTF-8"

def message : HostError → String
  | .numbered number text => text ++ " (os error " ++ Text.naturalText number ++ ")"
  | .other text => text

end HostError

/-- The calls to a machine. Relative paths start at the current directory. Dialling an address says
whether somebody answers there. -/
structure Host (m : Type → Type) where
  currentDirectory : m (Except HostError String)
  canonicalize : (path : String) → m (Except HostError String)
  isDirectory : (path : String) → m Bool
  present : (path : String) → m Bool
  read : (path : String) → m (Except HostError ByteArray)
  write : (path content : String) → m (Except HostError Unit)
  dial : (address : String) → m (Except HostError Unit)
  environment : (name : String) → m (Option String)
  timestamp : m String

def textOf (content : Except HostError ByteArray) : Except HostError String := do
  match String.fromUTF8? (← content) with
  | some text => .ok text
  | none => .error .notText

end WorkspaceSession
