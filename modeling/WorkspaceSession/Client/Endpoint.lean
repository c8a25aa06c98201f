import WorkspaceSession.ErrorChain
import WorkspaceSession.Url.Reader

/-! The endpoint that a connection string names. Errors never show the string, so credentials do
not leak. -/
namespace WorkspaceSession

structure Endpoint where
  host : String
  port : UInt16
  database : Option String
deriving DecidableEq

inductive EndpointError where
  | unparseable (fault : Url.UrlFault)
  | unsupportedScheme (scheme : String)
  | noHost
deriving DecidableEq

def EndpointError.toChain : EndpointError → ErrorChain
  | .unparseable fault => ⟨"Invalid connection string: <unparseable>", [fault.message]⟩
  | .unsupportedScheme scheme =>
    ⟨"unsupported connection string scheme '" ++ scheme ++ "', expected postgres", []⟩
  | .noHost => ⟨"connection string has no host", []⟩

namespace Endpoint

def defaultPort : UInt16 := 5432

def schemes : List String := ["postgres", "postgresql"]

/-- The first segment of a path, if it is not empty. -/
def databaseOf (path : List Char) : Option String :=
  match (path.dropWhile (· = '/')).takeWhile (· ≠ '/') with
  | [] => none
  | name => some (String.ofList name)

def parse (connectionString : String) : Except EndpointError Endpoint :=
  match Url.parse connectionString with
  | .error fault => .error (.unparseable fault)
  | .ok url =>
    if !schemes.contains (String.ofList url.scheme) then
      .error (.unsupportedScheme (String.ofList url.scheme))
    else if url.host = [] then .error .noHost
    else .ok ⟨String.ofList url.host, url.port.getD defaultPort, databaseOf url.path⟩

def address (e : Endpoint) : String := e.host ++ ":" ++ Text.naturalText e.port.toNat

end Endpoint
end WorkspaceSession
