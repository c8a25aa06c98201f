import WorkspaceSession.Table
import WorkspaceSession.Text.Blank
import WorkspaceSession.Text.Decimal
import WorkspaceSession.Text.Lowercase

/-! Settings by key. A look-up never fails: what is not set, or is of another kind, reads as the
zero of the kind asked for, and texts are read as booleans and integers where they spell one. -/
namespace WorkspaceSession

inductive Setting where
  | boolean (b : Bool)
  | integer (i : Int64)
  | text (s : String)
deriving DecidableEq

def isYes (s : String) : Bool := ["1", "true", "yes", "on"].contains (Text.lowercase s)

namespace Setting

def asBool : Setting → Bool
  | .boolean b => b
  | .integer _ => false
  | .text s => isYes s

def asInt : Setting → Int64
  | .integer i => i
  | .boolean _ => 0
  | .text s => (Text.int64? (Text.trimChars s.toList)).getD 0

def asText : Setting → String
  | .boolean b => if b then "true" else "false"
  | .integer i => Text.int64Text i
  | .text s => s

end Setting

structure Settings where
  values : Table Setting := .empty

namespace Settings

def empty : Settings := {}

def set (s : Settings) (key : String) (value : Setting) : Settings := ⟨s.values.insert key value⟩

def isSet (s : Settings) (key : String) : Bool := s.values.contains key

def getBool (s : Settings) (key : String) : Bool :=
  ((s.values.get? key).map Setting.asBool).getD false

def getInt (s : Settings) (key : String) : Int64 :=
  ((s.values.get? key).map Setting.asInt).getD 0

def getText (s : Settings) (key : String) : String :=
  ((s.values.get? key).map Setting.asText).getD ""

def modInstall : String := "mod-install"

def connectionString : String := "connection-string"

def clientCacheEnabled : String := "client-cache-enabled"

/-- How long the client keeps results, in seconds. -/
def cacheTtl : String := "cache-ttl"

end Settings
end WorkspaceSession
