import WorkspaceSession.Json.TextLiteral
import WorkspaceSession.Text.Pieces

/-! IPv6 addresses: eight numbers of 16 bits, read from text and written in the shortest form. -/
namespace WorkspaceSession.Url

/-- What has been read of an address: its numbers, and how many of them come before the gap that
`::` leaves. -/
structure Ipv6Draft where
  pieces : List Nat := []
  gap : Option Nat := none

namespace Ipv6Draft

def push (d : Ipv6Draft) (piece : Nat) : Ipv6Draft := { d with pieces := d.pieces ++ [piece] }

/-- The gap stands for one zero at least. -/
def openGap (d : Ipv6Draft) : Ipv6Draft := ⟨d.pieces ++ [0], some (d.pieces.length + 1)⟩

def finish? (d : Ipv6Draft) : Option (List Nat) :=
  match d.gap with
  | some n =>
    some (d.pieces.take n ++ List.replicate (8 - d.pieces.length) 0 ++ d.pieces.drop n)
  | none => if d.pieces.length = 8 then some d.pieces else none

end Ipv6Draft

def octet? (cs : List Char) : Option Nat :=
  let n := Text.decimalValue cs
  if cs ≠ [] ∧ cs.all Char.isDigit ∧ (cs.length = 1 ∨ cs.head? ≠ some '0') ∧ n ≤ 255
  then some n else none

/-- The four numbers of an IPv4 address as two of 16 bits. -/
def dotted? (cs : List Char) : Option (Nat × Nat) :=
  match (Text.pieces '.' cs).map octet? with
  | [some a, some b, some c, some d] => some (256 * a + b, 256 * c + d)
  | _ => none

def hexRun (cs : List Char) : List Char × List Char :=
  let run := (cs.take 4).takeWhile fun c => (Json.hexValue? c).isSome
  (run, cs.drop run.length)

def hexNumber (cs : List Char) : Nat :=
  cs.foldl (fun n c => 16 * n + (Json.hexValue? c).getD 0) 0

/-- Reads numbers to the end of the text; every round takes a character. -/
def readPieces? : (fuel : Nat) → Ipv6Draft → List Char → Option Ipv6Draft
  | 0, _, _ => none
  | _, d, [] => some d
  | fuel + 1, d, ':' :: rest =>
    if d.pieces.length = 8 || d.gap.isSome then none else readPieces? fuel d.openGap rest
  | fuel + 1, d, c :: rest =>
    if d.pieces.length = 8 then none
    else
      let (run, behind) := hexRun (c :: rest)
      match behind with
      | [] => some (d.push (hexNumber run))
      | ':' :: [] => none
      | ':' :: rest => readPieces? fuel (d.push (hexNumber run)) rest
      | '.' :: _ =>
        if run = [] || 6 < d.pieces.length then none
        else (dotted? (c :: rest)).map fun (a, b) => (d.push a).push b
      | _ => none

def ipv6? (cs : List Char) : Option (List Nat) :=
  match cs with
  | ':' :: ':' :: rest =>
    (readPieces? (cs.length + 1) ⟨[0], some 1⟩ rest).bind Ipv6Draft.finish?
  | ':' :: _ => none
  | [] => none
  | [_] => none
  | _ => (readPieces? (cs.length + 1) {} cs).bind Ipv6Draft.finish?

def zeroRun (pieces : List Nat) : Nat := (pieces.takeWhile (· = 0)).length

/-- Where the longest run of zeros is, the first of several, and its length. -/
def longestZeros (pieces : List Nat) : Nat × Nat :=
  (List.range pieces.length).foldl
    (fun best i => let n := zeroRun (pieces.drop i); if best.2 < n then (i, n) else best) (0, 0)

def hexPieces (pieces : List Nat) : List Char :=
  Text.glue [':'] (pieces.map (Nat.toDigits 16))

/-- The longest run of two or more zeros is left out. -/
def ipv6Chars (pieces : List Nat) : List Char :=
  let (start, length) := longestZeros pieces
  if 2 ≤ length then
    hexPieces (pieces.take start) ++ [':', ':'] ++ hexPieces (pieces.drop (start + length))
  else hexPieces pieces

end WorkspaceSession.Url
