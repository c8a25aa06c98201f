import WorkspaceSession.Text.Blank
import WorkspaceSession.Text.Pieces
import WorkspaceSession.Url.Host
import WorkspaceSession.Url.Path

/-! Reading URLs. User and password are passed over; it only counts whether there are any. -/
namespace WorkspaceSession

/-- A URL without its credentials, query and fragment. -/
structure Url where
  scheme : List Char
  host : List Char := []
  port : Option UInt16 := none
  path : List Char := []
deriving DecidableEq

namespace Url

/-- Controls and spaces at the ends do not count, nor do tabs and line ends anywhere. -/
def clean (s : String) : List Char :=
  (Text.stripBoth (fun c => c.toNat ≤ 0x20) s.toList).filter fun c =>
    c ≠ '\t' && c ≠ '\n' && c ≠ '\x0d'

def isSchemeChar (c : Char) : Bool := c.isAlphanum || c = '+' || c = '-' || c = '.'

def splitScheme? (cs : List Char) : Option (List Char × List Char) :=
  match cs.takeWhile isSchemeChar, cs.dropWhile isSchemeChar with
  | c :: scheme, ':' :: rest =>
    if c.isAlpha then some ((c :: scheme).map Char.toLower, rest) else none
  | _, _ => none

/-- Whether the scheme is one of the web, where a backslash counts as a slash and a host must be. -/
def isWebScheme (scheme : List Char) : Bool :=
  ["http", "https", "ws", "wss", "ftp"].any (·.toList = scheme)

def endsAuthority (web : Bool) (c : Char) : Bool :=
  c = '/' || c = '?' || c = '#' || (web && c = '\\')

/-- What follows the credentials, and whether there are any. A lone colon is none. -/
def splitCredentials (web : Bool) (cs : List Char) : Except UrlFault (Bool × List Char) :=
  let authority := cs.takeWhile fun c => !endsAuthority web c
  let behind := cs.drop authority.length
  match Text.splitLast? '@' authority with
  | none => .ok (false, cs)
  | some ([], []) => if behind = [] then .ok (false, []) else .error .emptyHost
  | some (credentials, after) => .ok (credentials ≠ [] && credentials ≠ [':'], after ++ behind)

/-- The host ends at a colon outside brackets, or with the authority. -/
def spanHost (web : Bool) (bracketed : Bool) : List Char → List Char × List Char
  | [] => ([], [])
  | c :: rest =>
    if endsAuthority web c || (c = ':' && !bracketed) then ([], c :: rest)
    else
      let inside := if c = '[' then true else if c = ']' then false else bracketed
      let (host, rest) := spanHost web inside rest
      (c :: host, rest)

/-- A port is a number of 16 bits; one without digits is none. -/
def readPort : List Char → Except UrlFault (Option UInt16 × List Char)
  | ':' :: cs =>
    let digits := cs.takeWhile Char.isDigit
    let rest := cs.dropWhile Char.isDigit
    if Text.decimalValue digits ≥ Nat.pow 2 16 then .error .invalidPort
    else
      match rest with
      | c :: _ =>
        if endsAuthority true c then .ok (portOf digits, rest) else .error .invalidPort
      | [] => .ok (portOf digits, rest)
  | cs => .ok (none, cs)
where
  portOf (digits : List Char) : Option UInt16 :=
    if digits = [] then none else some (Text.decimalValue digits).toUInt16

def readPath (web : Bool) (cs : List Char) : List Char :=
  let written := cs.takeWhile fun c => c ≠ '?' && c ≠ '#'
  let slashed := if web then written.map fun c => if c = '\\' then '/' else c else written
  match slashed with
  | [] => []
  | '/' :: rest => addSegments ['/'] (encoded rest)
  | rest => addSegments ['/'] (encoded rest)
where
  encoded (cs : List Char) : List (List Char) :=
    (Text.pieces '/' cs).map (percentEncode isUnsafeInPath)

def readAuthority (scheme : List Char) (web : Bool) (cs : List Char) : Except UrlFault Url := do
  let (credentials, cs) ← splitCredentials web cs
  let (written, cs) := spanHost web false cs
  if web && written = [] then throw .emptyHost
  let host ← if web then readDomain written else readOpaqueHost written
  if host = [] && cs.head? = some ':' then throw .emptyHost
  let (port, cs) ← readPort cs
  if host = [] && credentials then throw .emptyHost
  return { scheme, host, port, path := readPath web cs }

def readFile (scheme : List Char) (cs : List Char) : Except UrlFault Url := do
  let slash (c : Char) : Bool := c = '/' || c = '\\'
  match cs with
  | a :: b :: rest =>
    if slash a && slash b then
      let written := rest.takeWhile fun c => !endsAuthority true c
      if written = [] || isDrive written then return { scheme }
      let host ← readDomain written
      return { scheme, host }
    else return { scheme }
  | _ => return { scheme }

def parse (s : String) : Except UrlFault Url :=
  match splitScheme? (clean s) with
  | none => .error .noScheme
  | some (scheme, rest) =>
    if isWebScheme scheme then
      readAuthority scheme true (rest.dropWhile fun c => c = '/' || c = '\\')
    else if scheme = "file".toList then readFile scheme rest
    else match rest with
      | '/' :: '/' :: rest => readAuthority scheme false rest
      | _ => .ok { scheme }

end Url
end WorkspaceSession
