import Std.Async.DNS
import Std.Async.TCP
import Std.Time
import WorkspaceSession.Program

/-! The program on a real machine. -/
namespace WorkspaceSession

namespace HostError

def known : List HostError :=
  [notFound, .numbered 13 "Permission denied", notDirectory, isDirectory, nameTooLong, unreachable,
    .numbered 110 "Connection timed out", .numbered 111 "Connection refused",
    .numbered 113 "No route to host"]

def hasNumber (number : Nat) : HostError → Bool
  | .numbered n _ => n = number
  | .other _ => false

/-- Some calls give the number negated. -/
def ofNumber (number : UInt32) (details : String) : HostError :=
  let number := if number ≥ 0x80000000 then (0 - number).toNat else number.toNat
  (known.find? (hasNumber number)).getD (.numbered number details)

def ofIO : IO.Error → HostError
  | .alreadyExists _ number details | .otherError number details
  | .resourceBusy number details | .resourceVanished number details
  | .unsupportedOperation number details | .hardwareFault number details
  | .unsatisfiedConstraints number details | .illegalOperation number details
  | .protocolError number details | .timeExpired number details
  | .interrupted _ number details | .noFileOrDirectory _ number details
  | .invalidArgument _ number details | .permissionDenied _ number details
  | .resourceExhausted _ number details | .inappropriateType _ number details
  | .noSuchThing _ number details => ofNumber number details
  | .unexpectedEof => .other "unexpected end of file"
  | .userError text => .other text

end HostError

def attempt (action : IO α) : IO (Except HostError α) := do
  try
    return .ok (← action)
  catch e => return .error (.ofIO e)

def onPath (path : String) (action : IO α) : IO (Except HostError α) := do
  if path.toList.contains '\x00' then return .error .nulByte
  else if path = "" then return .error .notFound
  else attempt action

/-- Opening a path that cannot be resolved tells why. -/
def canonicalize (path : String) : IO (Except HostError String) := do
  match ← onPath path do return (← IO.FS.realPath path).toString with
  | .ok resolved => return .ok resolved
  | .error e =>
    match ← onPath path (IO.FS.readBinFile path) with
    | .ok _ => return .error e
    | .error reason => return .error reason

/-- Opens a connection and gives it up; of several addresses the first that answers will do. -/
def dial (address : String) : IO (Except HostError Unit) := do
  let parts := (Text.pieces ':' address.toList).reverse
  let port := ((Text.natural? (parts.headD [])).getD 0).toUInt16
  let host := (Text.glue [':'] (parts.drop 1).reverse).filter fun c => c ≠ '[' && c ≠ ']'
  let found ← attempt (Std.Async.DNS.getAddrInfo (String.ofList host) "").block
  let mut last : Except HostError Unit := found.map fun _ => ()
  for target in found.toOption.getD #[] do
    let socket ← Std.Async.TCP.Socket.Client.mk
    last ← attempt (socket.connect (match target with
      | .v4 addr => .v4 ⟨addr, port⟩
      | .v6 addr => .v6 ⟨addr, port⟩)).block
    if last.isOk then return last
  return last

def timestamp : IO String := do
  let now ← Std.Time.Timestamp.now
  return (Std.Time.DateTime.ofTimestampWithZone now .UTC).toISO8601String

def realHost : Host IO where
  currentDirectory := attempt do return (← IO.currentDir).toString
  canonicalize := canonicalize
  isDirectory path := do return (← onPath path (IO.FS.realPath (path ++ "/."))).isOk
  present path := do return (← onPath path (IO.FS.realPath path)).isOk
  read path := onPath path (IO.FS.readBinFile path)
  write path content := onPath path (IO.FS.writeFile path content)
  dial := dial
  environment name := IO.getEnv name
  timestamp := timestamp

def runProgram (args : List String) : IO UInt32 := do
  match ← Program.start realHost args with
  | .ok report =>
    for line in report.log do
      IO.eprintln line.render
    IO.print report.output
    if let some text := report.failure then
      IO.eprintln ("❌ " ++ text)
    return report.exitCode.toUInt32
  | .error e =>
    if e = .helpWanted || e = .versionWanted then
      IO.println e.message
      return 0
    else
      IO.eprintln e.message
      return 2

end WorkspaceSession

def main (args : List String) : IO UInt32 := WorkspaceSession.runProgram args
