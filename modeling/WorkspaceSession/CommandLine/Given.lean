import WorkspaceSession.CommandLine.Basic

/-! What arguments give, value by value. No value is given twice, and the environment is asked only
for what the arguments leave open. -/
namespace WorkspaceSession.CommandLine

inductive Flag where
  | verbose | modInstall | help | version
deriving DecidableEq

inductive Field where
  | workspace | connectionString | cacheTtl | clientCacheEnabled | invoker | destination
deriving DecidableEq

inductive Switch where
  | flag (flag : Flag)
  | field (field : Field)
deriving DecidableEq

def Switch.ofLong? : String → Option Switch
  | "verbose" => some (.flag .verbose)
  | "mod-install" => some (.flag .modInstall)
  | "help" => some (.flag .help)
  | "version" => some (.flag .version)
  | "workspace" => some (.field .workspace)
  | "connection-string" => some (.field .connectionString)
  | "cache-ttl" => some (.field .cacheTtl)
  | "client-cache-enabled" => some (.field .clientCacheEnabled)
  | "invoker" => some (.field .invoker)
  | "export" => some (.field .destination)
  | _ => none

def Switch.ofShort? : Char → Option Switch
  | 'v' => some (.flag .verbose)
  | 'h' => some (.flag .help)
  | 'V' => some (.flag .version)
  | 'w' => some (.field .workspace)
  | _ => none

structure Variables where
  connectionString : Option String := none
  modInstall : Option String := none
  cacheTtl : Option String := none
  clientCacheEnabled : Option String := none

namespace Variables

def connectionStringName : String := "MODINIT_CONNECTION_STRING"
def modInstallName : String := "MODINIT_MOD_INSTALL"
def cacheTtlName : String := "MODINIT_CACHE_TTL"
def clientCacheEnabledName : String := "MODINIT_CLIENT_CACHE_ENABLED"

def read [Monad m] (environment : (name : String) → m (Option String)) : m Variables := do
  return {
    connectionString := ← environment connectionStringName
    modInstall := ← environment modInstallName
    cacheTtl := ← environment cacheTtlName
    clientCacheEnabled := ← environment clientCacheEnabledName }

end Variables

def readBool : String → Except ArgumentError Bool
  | "true" => .ok true
  | "false" => .ok false
  | _ => .error .invalidValue

def readInt64 (text : String) : Except ArgumentError Int64 :=
  match Text.int64? text.toList with
  | some i => .ok i
  | none => .error .malformedValue

def readInvoker : String → Except ArgumentError Invoker
  | "query" => .ok .query
  | "check" => .ok .check
  | "dashboard" => .ok .dashboard
  | "server" => .ok .server
  | _ => .error .invalidValue

def readPath (text : String) : Except ArgumentError String :=
  if text = "" then .error .invalidValue else .ok text

structure Given where
  verbose : Option Bool := none
  workspace : Option String := none
  connectionString : Option String := none
  modInstall : Option Bool := none
  cacheTtl : Option Int64 := none
  clientCacheEnabled : Option Bool := none
  invoker : Option Invoker := none
  destination : Option String := none

/-- A second value is refused before it is looked at. -/
def give (held : Option α) (value : Except ArgumentError α) : Except ArgumentError (Option α) :=
  if held.isSome then .error .conflict else value.map some

/-- A variable is looked at only where nothing is held. -/
def fallBack (held : Option α) (raw : Option String) (read : String → Except ArgumentError α) :
    Except ArgumentError (Option α) :=
  match held, raw with
  | some value, _ => .ok (some value)
  | none, some raw => (read raw).map some
  | none, none => .ok none

namespace Given

def raise (g : Given) : Flag → Except ArgumentError Given
  | .verbose => do return { g with verbose := ← give g.verbose (.ok true) }
  | .modInstall => do return { g with modInstall := ← give g.modInstall (.ok true) }
  | .help => .error .helpWanted
  | .version => .error .versionWanted

def set (g : Given) (text : String) : Field → Except ArgumentError Given
  | .workspace => do return { g with workspace := ← give g.workspace (.ok text) }
  | .connectionString => do
    return { g with connectionString := ← give g.connectionString (.ok text) }
  | .cacheTtl => do return { g with cacheTtl := ← give g.cacheTtl (readInt64 text) }
  | .clientCacheEnabled => do
    return { g with clientCacheEnabled := ← give g.clientCacheEnabled (readBool text) }
  | .invoker => do return { g with invoker := ← give g.invoker (readInvoker text) }
  | .destination => do return { g with destination := ← give g.destination (readPath text) }

def fill (g : Given) (env : Variables) : Except ArgumentError Given := do
  let connectionString ← fallBack g.connectionString env.connectionString .ok
  let modInstall ← fallBack g.modInstall env.modInstall readBool
  let cacheTtl ← fallBack g.cacheTtl env.cacheTtl readInt64
  let clientCacheEnabled ← fallBack g.clientCacheEnabled env.clientCacheEnabled readBool
  return { g with connectionString, modInstall, cacheTtl, clientCacheEnabled }

def finish (g : Given) : CommandLine where
  verbose := g.verbose.getD false
  workspace := g.workspace
  connectionString := g.connectionString
  modInstall := g.modInstall.getD false
  cacheTtl := g.cacheTtl
  clientCacheEnabled := g.clientCacheEnabled
  invoker := g.invoker.getD .check
  destination := g.destination

end Given
end WorkspaceSession.CommandLine
