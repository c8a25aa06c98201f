import WorkspaceSession.Version.Basic
import WorkspaceSession.Text.Blank

/-! Reading versions. `Version.read?` takes full versions only; `Version.parse?` also takes the
loose forms `v1.2.3`, `1.2` and `1`, padding what is missing with zeros. -/
namespace WorkspaceSession

inductive VersionPart where
  | major | minor | patch | pre | build
deriving DecidableEq

inductive VersionFault where
  | unexpectedEnd (part : VersionPart)
  | unexpectedChar (part : VersionPart) (c : Char)
  | unexpectedAfter (part : VersionPart) (c : Char)
  | leadingZero (part : VersionPart)
  | overflow (part : VersionPart)
  | emptySegment (part : VersionPart)
deriving DecidableEq

/-- Splits off a number of 64 bits; zero is its only numeral with a leading zero. -/
def readNumber (part : VersionPart) (cs : List Char) :
    Except VersionFault (UInt64 × List Char) :=
  match cs.takeWhile Char.isDigit, cs.dropWhile Char.isDigit with
  | [], [] => .error (.unexpectedEnd part)
  | [], c :: _ => .error (.unexpectedChar part c)
  | d :: ds, rest =>
    if d = '0' ∧ ds ≠ [] then .error (.leadingZero part)
    else if Text.decimalValue (d :: ds) < Nat.pow 2 64 then
      .ok ((Text.decimalValue (d :: ds)).toUInt64, rest)
    else .error (.overflow part)

def readDot (part : VersionPart) : List Char → Except VersionFault (List Char)
  | '.' :: rest => .ok rest
  | c :: _ => .error (.unexpectedAfter part c)
  | [] => .error (.unexpectedEnd part)

def readPreIdentifier (cs : List Char) : Except VersionFault PreIdentifier :=
  if h : cs ≠ [] ∧ cs.all isIdentifierChar = true then
    if digits : cs.all Char.isDigit = true then
      if cs.head? = some '0' ∧ cs.length ≠ 1 then .error (.leadingZero .pre)
      else .ok (.number (Text.decimalValue cs))
    else .ok (.name ⟨cs, h⟩ (by simpa using digits))
  else .error (.emptySegment .pre)

def readBuildIdentifier (cs : List Char) : Except VersionFault Identifier :=
  if h : cs ≠ [] ∧ cs.all isIdentifierChar = true then .ok ⟨cs, h⟩
  else .error (.emptySegment .build)

def readEach (read : List Char → Except ε α) : List (List Char) → Except ε (List α)
  | [] => .ok []
  | piece :: rest => do
    let a ← read piece
    let as ← readEach read rest
    return a :: as

def isDottedChar (c : Char) : Bool := isIdentifierChar c || c = '.'

def readDotted (read : List Char → Except ε α) (cs : List Char) :
    Except ε (List α × List Char) := do
  let parts ← readEach read (Text.pieces '.' (cs.takeWhile isDottedChar))
  return (parts, cs.dropWhile isDottedChar)

def readPre : List Char → Except VersionFault (List PreIdentifier × List Char)
  | '-' :: rest => readDotted readPreIdentifier rest
  | cs => .ok ([], cs)

def readBuild : List Char → Except VersionFault (List Identifier × List Char)
  | '+' :: rest => readDotted readBuildIdentifier rest
  | cs => .ok ([], cs)

namespace Version

def read (cs : List Char) : Except VersionFault Version := do
  let (major, cs) ← readNumber .major cs
  let cs ← readDot .major cs
  let (minor, cs) ← readNumber .minor cs
  let cs ← readDot .minor cs
  let (patch, cs) ← readNumber .patch cs
  let (pre, cs) ← readPre cs
  let (build, cs) ← readBuild cs
  match cs with
  | [] => return { major, minor, patch, pre, build }
  | c :: _ => throw (.unexpectedAfter .patch c)

def read? (cs : List Char) : Option Version := (read cs).toOption

/-- Adds zeros for the numbers missing from a text with fewer than two dots. -/
def pad (cs : List Char) : List Char :=
  match Text.pieces '.' cs with
  | [major] => major ++ ['.', '0', '.', '0']
  | [major, minor] => major ++ '.' :: minor ++ ['.', '0']
  | _ => cs

def stripped (s : String) : List Char := (Text.trimChars s.toList).dropWhile (· = 'v')

def parse? (s : String) : Option Version :=
  (read? (stripped s)).or (read? (pad (stripped s)))

end Version
end WorkspaceSession
