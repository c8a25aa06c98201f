import WorkspaceSession.Json.Document
import WorkspaceSession.Session.Error
import WorkspaceSession.Settings

/-! The cache settings of the client against those of the server. -/
namespace WorkspaceSession

/-- What a server says about its cache; the time is in seconds. -/
structure ServerSettings where
  cacheEnabled : Bool
  cacheMaxTtl : Int64
deriving DecidableEq

namespace ServerSettings

open Json Document

structure Draft where
  cacheEnabled : Option Bool := none
  cacheMaxTtl : Option Int64 := none

def Draft.finish (d : Draft) : Except Fault ServerSettings := do
  let cacheEnabled ← required "cache_enabled" d.cacheEnabled
  let cacheMaxTtl ← required "cache_max_ttl" d.cacheMaxTtl
  return { cacheEnabled, cacheMaxTtl }

def readMembers : Draft → List (Except Fault String × Document) → Except Fault Draft
  | d, [] => .ok d
  | d, (key, value) :: rest => do
    let key ← key
    if key = "cache_enabled" then
      let cacheEnabled ← once "cache_enabled" d.cacheEnabled value.asBool
      readMembers { d with cacheEnabled } rest
    else if key = "cache_max_ttl" then
      let cacheMaxTtl ← once "cache_max_ttl" d.cacheMaxTtl value.asInt64
      readMembers { d with cacheMaxTtl } rest
    else
      value.skip
      readMembers d rest

def readItems (level : Option Nat) : List Document → Except Fault ServerSettings
  | [] => .error (.tooFewItems 0 "ServerSettings" 2)
  | [enabled] => do
    let _ ← enabled.asBool
    throw (.tooFewItems 1 "ServerSettings" 2)
  | enabled :: ttl :: rest => do
    let cacheEnabled ← enabled.asBool
    let cacheMaxTtl ← ttl.asInt64
    endOfItems level (2 + rest.length) rest
    return { cacheEnabled, cacheMaxTtl }

def ofDocument : Document → Except Fault ServerSettings
  | .table level members => do
    checkLevel level
    (← readMembers {} members).finish
  | .list level items => do
    checkLevel level
    readItems level items
  | d => .error (d.mismatch (.record "ServerSettings"))

def ofJson? : Json → Except Fault (Option ServerSettings)
  | .null => .ok none
  | j => (ofDocument (Document.ofJson j)).map some

end ServerSettings

def seconds (i : Int64) : String := Text.int64Text i ++ "s"

namespace ServerSettings

def cacheWarnings (server : ServerSettings) (settings : Settings) : List String :=
  if settings.isSet Settings.clientCacheEnabled && settings.getBool Settings.clientCacheEnabled &&
      !server.cacheEnabled
  then ["Caching is disabled on the server."] else []

/-- A time to live must be positive, and is no longer than the server allows. -/
def ttlFindings (server : ServerSettings) (settings : Settings) : Findings :=
  if settings.isSet Settings.cacheTtl then
    let ttl := settings.getInt Settings.cacheTtl
    if ttl ≤ 0 then
      .ofError (some (.cacheSettings
        ("cache ttl must be greater than zero, got " ++ Text.int64Text ttl)))
    else if ttl > server.cacheMaxTtl then
      { warnings := ["The server cache ttl (" ++ seconds server.cacheMaxTtl ++
        ") is lower than the client cache ttl (" ++ seconds ttl ++
        "). Cached results will be refreshed after " ++ seconds server.cacheMaxTtl ++ "."] }
    else {}
  else {}

def check (server : ServerSettings) (settings : Settings) : Findings :=
  ({ warnings := server.cacheWarnings settings } : Findings).merge (server.ttlFindings settings)

end ServerSettings
end WorkspaceSession
