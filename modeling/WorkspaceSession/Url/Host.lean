import WorkspaceSession.Domain.Name
import WorkspaceSession.Text.Decimal
import WorkspaceSession.Url.Ipv6
import WorkspaceSession.Url.Percent

/-! Hosts of URLs. Schemes of the web have domain names and IPv4 addresses; in any other scheme a
host is kept as it is written. IPv6 addresses in brackets are known to all. -/
namespace WorkspaceSession.Url

inductive UrlFault where
  | noScheme | emptyHost | invalidPort | invalidIpv6 | invalidIpv4 | invalidDomain
  | forbiddenCharacter
deriving DecidableEq

def UrlFault.message : UrlFault → String
  | .noScheme => "relative URL without a base"
  | .emptyHost => "empty host"
  | .invalidPort => "invalid port number"
  | .invalidIpv6 => "invalid IPv6 address"
  | .invalidIpv4 => "invalid IPv4 address"
  | .invalidDomain => "invalid international domain name"
  | .forbiddenCharacter => "invalid domain character"

def isForbidden (c : Char) : Bool := "\x00\t\n\r #/:<>?@[\\]^|".toList.contains c

def readBracketed (cs : List Char) : Except UrlFault (List Char) :=
  if cs.getLast? = some ']' then
    match ipv6? cs.tail.dropLast with
    | some pieces => .ok ('[' :: ipv6Chars pieces ++ [']'])
    | none => .error .invalidIpv6
  else .error .invalidIpv6

/-- A host that has no meaning to the URL itself. -/
def readOpaqueHost (cs : List Char) : Except UrlFault (List Char) :=
  if cs.head? = some '[' then readBracketed cs
  else if cs.any isForbidden then .error .forbiddenCharacter
  else .ok (percentEncode (fun _ => false) cs)

/-- A number in decimal, octal after `0`, or hexadecimal after `0x`; `none` is no numeral. -/
def ipv4Number? : List Char → Option Nat
  | [] => none
  | '0' :: 'x' :: cs | '0' :: 'X' :: cs =>
    if cs.all fun c => (Json.hexValue? c).isSome then some (hexNumber cs) else none
  | '0' :: c :: cs =>
    if (c :: cs).all fun c => '0' ≤ c && c ≤ '7'
    then some (Nat.ofDigitChars 8 (c :: cs) 0) else none
  | cs => Text.natural? cs

/-- The parts between dots, where a last dot may end the last one. -/
def dottedParts (cs : List Char) : List (List Char) :=
  let parts := Text.pieces '.' cs
  if 1 < parts.length && parts.getLast? = some [] then parts.dropLast else parts

def endsInNumber (cs : List Char) : Bool :=
  match (dottedParts cs).getLast? with
  | some part => (part ≠ [] && part.all Char.isDigit) || (ipv4Number? part).isSome
  | none => false

/-- At most four numbers; the last one fills the bytes that the others leave. -/
def isIpv4 (cs : List Char) : Bool :=
  match ((dottedParts cs).map ipv4Number?).reverse with
  | some last :: others =>
    others.length ≤ 3 && last < Nat.pow 256 (4 - others.length) &&
      others.all fun n => n.any fun n => n ≤ 255
  | _ => false

def isForbiddenInDomain (c : Char) : Bool :=
  isForbidden c || c = '%' || c.toNat ≤ 0x20 || c.toNat = 0x7F

def readDomain (cs : List Char) : Except UrlFault (List Char) :=
  if cs.head? = some '[' then readBracketed cs
  else
    match (String.fromUTF8? (percentDecode cs).toByteArray).bind (Domain.read? ·.toList) with
    | none => .error .invalidDomain
    | some name =>
      if name.any isForbiddenInDomain then .error .invalidDomain
      else if name = [] then .error .emptyHost
      else if endsInNumber name && !isIpv4 name then .error .invalidIpv4
      else .ok name

end WorkspaceSession.Url
