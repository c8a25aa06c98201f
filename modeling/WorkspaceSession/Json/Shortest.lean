/-! The shortest decimal that reads back as a given double: on the coarsest decimal grid that
meets the interval of reals rounding to it, the point nearest to it. -/
namespace WorkspaceSession

structure Scaled where
  digits : Nat
  exponent : Int

/-- A positive rational with the ends of the interval around it, over one denominator; `closed`
says that the ends belong to the interval. -/
structure Interval where
  low : Nat
  value : Nat
  high : Nat
  denominator : Nat
  closed : Bool

namespace Interval

/-- The reals that round to `mantissa * 2 ^ exponent`, where `narrow` says that the gap below is
half the gap above. -/
def ofBinary (mantissa : Nat) (exponent : Int) (narrow : Bool) : Interval :=
  let scale := Nat.pow 2 (exponent - 2).toNat
  { low := (4 * mantissa - if narrow then 1 else 2) * scale
    value := 4 * mantissa * scale
    high := (4 * mantissa + 2) * scale
    denominator := Nat.pow 2 (2 - exponent).toNat
    closed := mantissa % 2 = 0 }

def power (e : Int) : Nat × Nat := (Nat.pow 10 e.toNat, Nat.pow 10 (-e).toNat)

def holds (i : Interval) (d : Nat) (e : Int) : Bool :=
  let (p, q) := power e
  let point := d * p * i.denominator
  if i.closed then i.low * q ≤ point && point ≤ i.high * q
  else i.low * q < point && point < i.high * q

/-- The number of digits before the point; not positive for a value below one tenth. -/
def magnitude (i : Interval) : Int :=
  if i.denominator ≤ i.value then (Nat.toDigits 10 (i.value / i.denominator)).length
  else
    let zeros := (List.range 400).find? fun j => i.denominator ≤ i.value * Nat.pow 10 (j + 1)
    Int.negOfNat (zeros.getD 400)

/-- The two points of the grid `10 ^ e` next to the value, the nearer one first; halfway between
them it is the even one. -/
def neighbours (i : Interval) (e : Int) : List Nat :=
  let (p, q) := power e
  let n := i.value * q
  let d := i.denominator * p
  let below := n / d
  if 2 * (n % d) < d || (2 * (n % d) = d && below % 2 = 0) then [below, below + 1]
  else [below + 1, below]

def shortest (i : Interval) : Scaled :=
  let grids := (List.range 17).map fun n => i.magnitude - (n + 1 : Nat)
  let hits := grids.findSome? fun e =>
    ((i.neighbours e).find? fun d => i.holds d e).map fun d => (⟨d, e⟩ : Scaled)
  hits.getD ⟨0, 0⟩

end Interval

/-- Trailing zeros moved into the exponent; there are at most `room` of them. -/
def Scaled.normalize (s : Scaled) : (room : Nat) → Scaled
  | 0 => s
  | room + 1 =>
    if s.digits ≠ 0 && s.digits % 10 = 0 then
      Scaled.normalize ⟨s.digits / 10, s.exponent + 1⟩ room
    else s

/-- The absolute value of a finite double that is not zero, as its shortest decimal. -/
def shortestDecimal (x : Float) : Scaled :=
  let bits := x.toBits.toNat
  let biased := bits / Nat.pow 2 52 % Nat.pow 2 11
  let fraction := bits % Nat.pow 2 52
  let mantissa := if biased = 0 then fraction else fraction + Nat.pow 2 52
  let exponent : Int := ((if biased = 0 then 1 else biased : Nat) : Int) - 1075
  let narrow := fraction = 0 && 1 < biased
  (Interval.ofBinary mantissa exponent narrow).shortest.normalize 20

end WorkspaceSession
