import WorkspaceSession.Session.Basic

/-! Command lines: the options of the program, and the settings that they make. -/
namespace WorkspaceSession

structure CommandLine where
  verbose : Bool := false
  workspace : Option String := none
  connectionString : Option String := none
  modInstall : Bool := false
  cacheTtl : Option Int64 := none
  clientCacheEnabled : Option Bool := none
  invoker : Invoker := .check
  destination : Option String := none
deriving DecidableEq

inductive ArgumentError where
  | conflict
  | invalidValue
  | malformedValue
  | tooManyValues
  | unknownArgument
  | helpWanted
  | versionWanted
deriving DecidableEq

def ArgumentError.message : ArgumentError → String
  | .conflict => "an argument is given twice"
  | .invalidValue => "an argument lacks its value, or has one that it does not take"
  | .malformedValue => "a number is malformed or out of range"
  | .tooManyValues => "an argument that takes no value has one"
  | .unknownArgument => "an argument is not known"
  | .helpWanted => "usage: " ++ Session.appName ++ " [-v] [-w WORKSPACE] [--mod-install] " ++
      "[--connection-string TEXT] [--cache-ttl SECONDS] [--client-cache-enabled true|false] " ++
      "[--invoker query|check|dashboard|server] [--export FILE]"
  | .versionWanted => Session.appName ++ " 0.3.0"

namespace CommandLine

def setIfGiven (s : Settings) (key : String) : Option Setting → Settings
  | some value => s.set key value
  | none => s

/-- What is not given is not set, but for the install, which is then set to no. -/
def settings (c : CommandLine) : Settings :=
  let s := Settings.empty.set Settings.modInstall (.boolean c.modInstall)
  let s := setIfGiven s Settings.connectionString (c.connectionString.map .text)
  let s := setIfGiven s Settings.cacheTtl (c.cacheTtl.map .integer)
  setIfGiven s Settings.clientCacheEnabled (c.clientCacheEnabled.map .boolean)

end CommandLine
end WorkspaceSession
