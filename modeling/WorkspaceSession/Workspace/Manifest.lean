import WorkspaceSession.ErrorChain
import WorkspaceSession.Host.Basic
import WorkspaceSession.Log
import WorkspaceSession.Mod.Decoding
import WorkspaceSession.Path
import WorkspaceSession.Workspace.Basic

/-! Manifests: the root mod of a workspace and its lock in one file. Workspaces are loaded from
them. -/
namespace WorkspaceSession

structure Manifest where
  root : Mod
  lock : Option Lock := none

namespace Manifest

open Json Document

def fileName : String := "mod.json"

structure Draft where
  root : Option Mod := none
  lock : Option (Option Lock) := none

def Draft.finish (d : Draft) : Except Fault Manifest := do
  let root ← required "mod" d.root
  return { root, lock := d.lock.getD none }

def readMembers : Draft → List (Except Fault String × Document) → Except Fault Draft
  | d, [] => .ok d
  | d, (key, value) :: rest => do
    let key ← key
    if key = "mod" then
      let root ← once "mod" d.root (Mod.ofDocument value)
      readMembers { d with root } rest
    else if key = "lock" then
      let lock ← once "lock" d.lock (Lock.ofDocument? value)
      readMembers { d with lock } rest
    else
      value.skip
      readMembers d rest

def readItems (level : Option Nat) : List Document → Except Fault Manifest
  | [] => .error (.tooFewItems 0 "Manifest" 2)
  | [root] => do return { root := ← Mod.ofDocument root }
  | root :: lock :: rest => do
    let root ← Mod.ofDocument root
    let lock ← Lock.ofDocument? lock
    endOfItems level (2 + rest.length) rest
    return { root, lock }

def ofDocument : Document → Except Fault Manifest
  | .table level members => do
    checkLevel level
    (← readMembers {} members).finish
  | .list level items => do
    checkLevel level
    readItems level items
  | d => .error (d.mismatch (.record "Manifest"))

def parse (text : String) : Except Fault Manifest := decode ofDocument text

end Manifest

namespace Workspace

def manifestError (doing path : String) (cause : String) : ErrorChain :=
  ⟨"Failed to " ++ doing ++ " workspace manifest: " ++ Text.quoted path, [cause]⟩

def ofManifest (path : String) (content : Except HostError ByteArray) :
    Except ErrorChain Workspace := do
  let text ← (textOf content).mapError fun e => manifestError "read" path e.message
  let manifest ← (Manifest.parse text).mapError fun f => manifestError "parse" path f.message
  return { path := (Path.parent? path).getD "", root := manifest.root, lock := manifest.lock }

def manifestPath [Monad m] (host : Host m) (path : String) : m String := do
  return if ← host.isDirectory path then Path.join path Manifest.fileName else path

def load [Monad m] (host : Host m) (path : String) : m (Except ErrorChain Workspace) := do
  let path ← manifestPath host path
  return ofManifest path (← host.read path)

def loadedLine (w : Workspace) : LogLine :=
  .info ("Loaded workspace mod '" ++ w.root.name ++ "' (" ++
    Text.naturalText w.root.mods.length ++ " dependency mods)")

end Workspace
end WorkspaceSession
