import WorkspaceSession.Json.Fault

/-! Strings in JSON text, from behind the opening quote. Surrogate escapes must pair up, but only
where the content is read. -/
namespace WorkspaceSession.Json

/-- What has been read, nearest first: with a surrogate that waits for its partner, or up to a
fault. -/
inductive Content where
  | chars (passed : List Char)
  | waiting (passed : List Char) (high : Nat)
  | fault (fault : Fault)

namespace Content

def push (c : Char) : Content → Content
  | .chars passed => .chars (c :: passed)
  | .waiting .. => .fault .endOfHexEscape
  | .fault f => .fault f

def pushUnit (unit : Nat) : Content → Content
  | .chars passed =>
    if 0xDC00 ≤ unit && unit ≤ 0xDFFF then .fault .loneSurrogate
    else if 0xD800 ≤ unit && unit ≤ 0xDBFF then .waiting passed unit
    else .chars (Char.ofNat unit :: passed)
  | .waiting passed high =>
    if 0xDC00 ≤ unit && unit ≤ 0xDFFF then
      .chars (Char.ofNat (0x10000 + (high - 0xD800) * 0x400 + (unit - 0xDC00)) :: passed)
    else .fault .loneSurrogate
  | .fault f => .fault f

def finish : Content → Except Fault String
  | .chars passed => .ok (String.ofList passed.reverse)
  | .waiting .. => .error .endOfHexEscape
  | .fault f => .error f

/-- The fault of the reader where the text goes wrong. A waiting surrogate comes first unless its
partner could still have stood there. -/
def broken (content : Content) (fault : Fault) (pairable : Bool) : Fault :=
  match content with
  | .chars _ => fault
  | .waiting .. => if pairable then fault else .endOfHexEscape
  | .fault f => f

end Content

inductive Literal where
  | closed (content : Except Fault String) (rest : List Char)
  | broken (whenRead whenSkipped : Fault)

def hexValue? (c : Char) : Option Nat :=
  if c.isDigit then some (c.toNat - '0'.toNat)
  else if 'a' ≤ c ∧ c ≤ 'f' then some (c.toNat - 'a'.toNat + 10)
  else if 'A' ≤ c ∧ c ≤ 'F' then some (c.toNat - 'A'.toNat + 10)
  else none

def hexUnit? (a b c d : Char) : Option Nat := do
  let a ← hexValue? a
  let b ← hexValue? b
  let c ← hexValue? c
  let d ← hexValue? d
  return ((a * 16 + b) * 16 + c) * 16 + d

def escape? (c : Char) : Option Char :=
  if c = '"' || c = '\\' || c = '/' then some c
  else if c = 'b' then some '\x08'
  else if c = 'f' then some '\x0c'
  else if c = 'n' then some '\n'
  else if c = 'r' then some '\r'
  else if c = 't' then some '\t'
  else none

/-- An escape needs four more bytes of text, be they digits or not. -/
def shortHexFault (cs : List Char) : Fault :=
  if 4 ≤ (String.ofList cs).utf8ByteSize then .invalidEscape else .endOfText

def readLiteral (content : Content) : List Char → Literal
  | [] => .broken (content.broken .endOfText true) .endOfText
  | '"' :: rest => .closed content.finish rest
  | ['\\'] => .broken (content.broken .endOfText true) .endOfText
  | '\\' :: 'u' :: a :: b :: c :: d :: rest =>
    match hexUnit? a b c d with
    | some unit => readLiteral (content.pushUnit unit) rest
    | none => .broken (content.broken .invalidEscape true) .invalidEscape
  | '\\' :: 'u' :: short =>
    .broken (content.broken (shortHexFault short) true) (shortHexFault short)
  | '\\' :: c :: rest =>
    match escape? c with
    | some c => readLiteral (content.push c) rest
    | none => .broken (content.broken .invalidEscape false) .invalidEscape
  | c :: rest =>
    if c.toNat < 0x20 then .broken (content.broken .controlCharacter false) .controlCharacter
    else readLiteral (content.push c) rest

end WorkspaceSession.Json
