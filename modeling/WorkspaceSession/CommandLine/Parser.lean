import WorkspaceSession.CommandLine.Given

/-! Reading arguments. A value that stands by itself is looked at late, when the next switch or the
end is met, so an unknown argument before that is the error that counts. -/
namespace WorkspaceSession.CommandLine

inductive Pending where
  | none
  | awaiting (field : Field)
  | holding (field : Field) (value : String)
deriving DecidableEq

structure Scan where
  given : Given := {}
  pending : Pending := .none

def isExponentSign (c : Char) : Bool := c = 'e' || c = 'E'

/-- Digits with one dot among them at most, and with an exponent at most. The first is a digit. -/
def isNumber (cs : List Char) : Bool :=
  let mantissa := cs.takeWhile fun c => !isExponentSign c
  let fraction := mantissa.dropWhile Char.isDigit
  let exponent := cs.dropWhile fun c => !isExponentSign c
  (cs.head?.map Char.isDigit).getD false &&
    (fraction = [] || (fraction.head? = some '.' && (fraction.drop 1).all Char.isDigit)) &&
    (exponent = [] || (exponent.drop 1 ≠ [] && (exponent.drop 1).all Char.isDigit))

namespace Scan

def settle (s : Scan) : Except ArgumentError Given :=
  match s.pending with
  | .none => .ok s.given
  | .awaiting _ => .error .invalidValue
  | .holding field value => s.given.set value field

def hold (s : Scan) (field : Field) (value : String) : Scan :=
  { s with pending := .holding field value }

def raise (s : Scan) (flag : Flag) : Except ArgumentError Scan := do
  return { given := ← (← s.settle).raise flag }

/-- A value attached to its switch is looked at once. -/
def enter (s : Scan) (field : Field) : Option (List Char) → Except ArgumentError Scan
  | some value => do return { given := ← (← s.settle).set (String.ofList value) field }
  | none => do return { given := ← s.settle, pending := .awaiting field }

def long (s : Scan) (text : List Char) : Except ArgumentError Scan :=
  let attached := match text.dropWhile (· ≠ '=') with
    | [] => none
    | _ :: value => some value
  match Switch.ofLong? (String.ofList (text.takeWhile (· ≠ '='))) with
  | some (.flag flag) => if attached.isSome then .error .tooManyValues else s.raise flag
  | some (.field field) => s.enter field attached
  | none => .error .unknownArgument

/-- Switches of one letter; what follows one that has a value is its value. -/
def short (s : Scan) : List Char → Except ArgumentError Scan
  | [] => .ok s
  | c :: rest =>
    match Switch.ofShort? c with
    | some (.flag flag) => do short (← s.raise flag) rest
    | some (.field field) =>
      s.enter field (match rest with
        | [] => none
        | '=' :: value => some value
        | value => some value)
    | none => .error .unknownArgument

/-- Only a time to live can begin with a minus sign. -/
def step (s : Scan) (arg : String) : Except ArgumentError Scan :=
  match arg.toList with
  | '-' :: '-' :: text => s.long text
  | '-' :: c :: text =>
    if s.pending = .awaiting .cacheTtl ∧ isNumber (c :: text) then .ok (s.hold .cacheTtl arg)
    else s.short (c :: text)
  | _ =>
    match s.pending with
    | .awaiting field => .ok (s.hold field arg)
    | _ => .error .unknownArgument

/-- Nothing may follow two dashes. -/
def run (s : Scan) : List String → Except ArgumentError Given
  | [] => s.settle
  | arg :: rest =>
    if arg = "--" then if rest = [] then s.settle else .error .unknownArgument
    else do run (← s.step arg) rest

end Scan

def parse (args : List String) (env : Variables) : Except ArgumentError CommandLine := do
  return (← (← Scan.run {} args).fill env).finish

end WorkspaceSession.CommandLine
