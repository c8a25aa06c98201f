import WorkspaceSession.Json.Fault

/-! Numbers in JSON text. Integers of 64 bits are exact. Any other number is a significand of 64
bits, scaled by a power of ten in double precision; further digits only move the point. -/
namespace WorkspaceSession.Json

def maxUInt64 : Nat := Nat.pow 2 64 - 1

/-- The digits that fit, and how many there are behind them. -/
def takeSignificand (significand : Nat) : List Char → Nat × Nat × Nat
  | [] => (significand, 0, 0)
  | c :: rest =>
    let next := 10 * significand + (c.toNat - '0'.toNat)
    if next ≤ maxUInt64 then
      let (total, taken, left) := takeSignificand next rest
      (total, taken + 1, left)
    else (significand, 0, rest.length + 1)

/-- Division by `10 ^ 308` as long as the exponent is below what one division can do. -/
def scaleDown : (rounds : Nat) → Float → Nat → Float
  | 0, _, _ => 0
  | rounds + 1, x, e =>
    if e ≤ 308 then x / Float.ofScientific 1 false e
    else if x == 0 then x
    else scaleDown rounds (x / Float.ofScientific 1 false 308) (e - 308)

def scale? (significand : Nat) (exponent : Int) : Option Float :=
  let x := (UInt64.ofNat significand).toFloat
  if exponent < 0 then some (scaleDown 1000 x exponent.natAbs)
  else if exponent ≤ 308 then
    let y := x * Float.ofScientific 1 false exponent.natAbs
    if y.isInf then none else some y
  else if significand = 0 then some x
  else none

structure Numeral where
  negative : Bool
  whole : List Char
  fraction : Option (List Char)
  exponent : Option (Bool × List Char)

namespace Numeral

def maxInt32 : Nat := Nat.pow 2 31 - 1

def signedFloat (negative : Bool) (x : Float) : Number := .float (if negative then -x else x)

def float (n : Numeral) : Except Fault Number :=
  let (first, _, dropped) := takeSignificand 0 n.whole
  let (significand, taken, _) := takeSignificand first (n.fraction.getD [])
  let point : Int := (dropped : Int) - taken
  match n.exponent with
  | none => finish significand point
  | some (minus, digits) =>
    let e := Text.decimalValue digits
    if maxInt32 < e then
      if significand ≠ 0 ∧ ¬minus then .error .numberRange else .ok (signedFloat n.negative 0)
    else finish significand (if minus then point - e else point + e)
where
  finish (significand : Nat) (exponent : Int) : Except Fault Number :=
    match scale? significand exponent with
    | some x => .ok (signedFloat n.negative x)
    | none => .error .numberRange

/-- Zero with a minus sign is a double, and so is an integer beyond 64 bits. -/
def value (n : Numeral) : Except Fault Number :=
  let whole := Text.decimalValue n.whole
  if n.fraction.isNone && n.exponent.isNone then
    if n.negative then
      if whole = 0 then .ok (.float (-0.0))
      else if whole ≤ Nat.pow 2 63 then .ok (.int (-(whole : Int)))
      else n.float
    else if whole ≤ maxUInt64 then .ok (.int whole)
    else n.float
  else n.float

end Numeral

/-- The end of the text inside a numeral has its own name only when the value is read. -/
def numeralFault : List Char → Fault × Fault
  | [] => (.endOfValue, .invalidNumber)
  | _ :: _ => (.invalidNumber, .invalidNumber)

def digitsOf (cs : List Char) : List Char × List Char :=
  (cs.takeWhile Char.isDigit, cs.dropWhile Char.isDigit)

def readFraction : List Char → Except (Fault × Fault) (Option (List Char) × List Char)
  | '.' :: cs =>
    match digitsOf cs with
    | ([], rest) => .error (numeralFault rest)
    | (digits, rest) => .ok (some digits, rest)
  | cs => .ok (none, cs)

def readSign : List Char → Bool × List Char
  | '+' :: rest => (false, rest)
  | '-' :: rest => (true, rest)
  | cs => (false, cs)

def readExponent : List Char → Except (Fault × Fault) (Option (Bool × List Char) × List Char)
  | c :: cs =>
    if c = 'e' || c = 'E' then
      let (minus, cs) := readSign cs
      match digitsOf cs with
      | ([], rest) => .error (numeralFault rest)
      | (digits, rest) => .ok (some (minus, digits), rest)
    else .ok (none, c :: cs)
  | [] => .ok (none, [])

/-- A numeral without its sign; a leading zero stands alone. -/
def readNumeral (negative : Bool) (cs : List Char) :
    Except (Fault × Fault) (Numeral × List Char) := do
  match digitsOf cs with
  | ([], rest) => throw (numeralFault rest)
  | ('0' :: _ :: _, _) => throw (.invalidNumber, .invalidNumber)
  | (whole, rest) =>
    let (fraction, rest) ← readFraction rest
    let (exponent, rest) ← readExponent rest
    return ({ negative, whole, fraction, exponent }, rest)

end WorkspaceSession.Json
