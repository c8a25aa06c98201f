import WorkspaceSession.Client.Endpoint
import WorkspaceSession.Host.Basic
import WorkspaceSession.Session.Services

/-! Clients over a plain connection. Such a client says nothing about its server. -/
namespace WorkspaceSession

/-- A client of an endpoint. Its stream, while there is one, is known by how its shutdown ends. -/
structure TcpClient where
  endpoint : Endpoint
  stream : Option (Except HostError Unit)

namespace TcpClient

/-- Shuts the stream down. Once that was tried there is no stream left. -/
def close (c : TcpClient) : Except ErrorChain Unit × TcpClient :=
  match c.stream with
  | none => (.ok (), c)
  | some (.ok ()) => (.ok (), { c with stream := none })
  | some (.error e) =>
    (.error ⟨"Failed to close connection to " ++ c.endpoint.address, [e.message]⟩,
      { c with stream := none })

def spec (c : TcpClient) : ClientSpec where
  close _ :=
    match c.close.1 with
    | .ok () => { outcome := .done () }
    | .error cause => { outcome := .failed cause }

end TcpClient

namespace Endpoint

def greeting (e : Endpoint) : String :=
  "Connected to " ++ e.address ++
    match e.database with
    | some database => " (database " ++ database ++ ")"
    | none => ""

def greet (client : TcpClient) (callback : Option Callback) : Connection :=
  let reaction := (callback.map fun call => call client.spec).getD {}
  { log := [.info ("Connected to " ++ client.endpoint.address)]
    cancels := reaction.cancels
    sends := [.message client.endpoint.greeting]
    callsBack := callback.isSome
    outcome := (reaction.panic.map .panicked).getD (.done client.spec) }

/-- `answers` and `shutdowns` say how dialling an address and shutting its stream down end. A
session already cancelled dials nothing. -/
def connect (answers shutdowns : (address : String) → Except HostError Unit)
    (connectionString : String) (cancelled : Bool) (callback : Option Callback) : Connection :=
  match Endpoint.parse connectionString with
  | .error e => { outcome := .failed e.toChain }
  | .ok endpoint =>
    if cancelled then
      { outcome := .failed ⟨"connection to " ++ endpoint.address ++ " cancelled", []⟩ }
    else match answers endpoint.address with
      | .error e =>
        { outcome := .failed ⟨"Failed to connect to " ++ endpoint.address, [e.message]⟩ }
      | .ok () => greet ⟨endpoint, some (shutdowns endpoint.address)⟩ callback

end Endpoint
end WorkspaceSession
