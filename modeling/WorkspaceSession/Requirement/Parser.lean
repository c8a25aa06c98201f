import WorkspaceSession.Requirement.Basic
import WorkspaceSession.Version.Parser
import WorkspaceSession.Text.Quoted

/-! Reading requirements: comparators joined by commas, or a lone wildcard. Blank text and
`latest` mean no restriction. -/
namespace WorkspaceSession

inductive RequirementFault where
  | version (fault : VersionFault)
  | expectedComma (part : VersionPart) (c : Char)
  | wildcardNotAlone (wildcard : Char)
  | afterWildcard
  | tooMany
deriving DecidableEq

def VersionPart.text : VersionPart → String
  | .major => "major version number"
  | .minor => "minor version number"
  | .patch => "patch version number"
  | .pre => "pre-release identifier"
  | .build => "build metadata"

def VersionFault.message : VersionFault → String
  | .unexpectedEnd part => "unexpected end of input while parsing " ++ part.text
  | .unexpectedChar part c =>
    "unexpected character " ++ Text.quotedChar c ++ " while parsing " ++ part.text
  | .unexpectedAfter part c =>
    "unexpected character " ++ Text.quotedChar c ++ " after " ++ part.text
  | .leadingZero part => "invalid leading zero in " ++ part.text
  | .overflow part => "value of " ++ part.text ++ " exceeds u64::MAX"
  | .emptySegment part => "empty identifier segment in " ++ part.text

def RequirementFault.message : RequirementFault → String
  | .version fault => fault.message
  | .expectedComma part c =>
    "expected comma after " ++ part.text ++ ", found " ++ Text.quotedChar c
  | .wildcardNotAlone wildcard =>
    "wildcard req (" ++ wildcard.toString ++ ") must be the only comparator in the version req"
  | .afterWildcard => "unexpected character after wildcard in version req"
  | .tooMany => "excessive number of version comparators"

def isWildcard (c : Char) : Bool := c = '*' || c = 'x' || c = 'X'

def skipSpaces (cs : List Char) : List Char := cs.dropWhile (· = ' ')

def readOperator : List Char → Option Operator × List Char
  | '=' :: rest => (some .exact, rest)
  | '>' :: '=' :: rest => (some .greaterEq, rest)
  | '>' :: rest => (some .greater, rest)
  | '<' :: '=' :: rest => (some .lessEq, rest)
  | '<' :: rest => (some .less, rest)
  | '~' :: rest => (some .tilde, rest)
  | '^' :: rest => (some .caret, rest)
  | cs => (none, cs)

inductive Slot where
  | given (n : UInt64)
  | wildcard
  | absent
deriving DecidableEq

def liftFault (r : Except VersionFault α) : Except RequirementFault α :=
  r.mapError .version

def readSlot (part : VersionPart) : List Char → Except RequirementFault (Slot × List Char)
  | '.' :: cs =>
    match cs with
    | c :: rest =>
      if isWildcard c then .ok (.wildcard, rest)
      else do
        let (n, rest) ← liftFault (readNumber part (c :: rest))
        return (.given n, rest)
    | [] => .error (.version (.unexpectedEnd part))
  | cs => .ok (.absent, cs)

structure ReadComparator where
  comparator : Comparator
  ended : VersionPart
  rest : List Char

/-- Without an operator a wildcard makes a wildcard comparator, and plain numbers a caret one;
with an operator a wildcard is a number left out. -/
def operatorOf (op : Option Operator) (wildcard : Bool) : Operator :=
  op.getD (if wildcard then .wildcard else .caret)

def readComparator (cs : List Char) : Except RequirementFault ReadComparator := do
  let (op, cs) := readOperator cs
  let (major, cs) ← liftFault (readNumber .major (skipSpaces cs))
  let (minor, cs) ← readSlot .minor cs
  match minor with
  | .absent => return ⟨⟨operatorOf op false, .major major⟩, .major, skipSpaces cs⟩
  | .wildcard =>
    let done := ⟨operatorOf op true, .major major⟩
    match cs with
    | '.' :: c :: rest =>
      if isWildcard c then return ⟨done, .patch, skipSpaces rest⟩ else throw .afterWildcard
    | ['.'] => throw .afterWildcard
    | _ => return ⟨done, .minor, skipSpaces cs⟩
  | .given minor =>
    let (patch, cs) ← readSlot .patch cs
    match patch with
    | .absent => return ⟨⟨operatorOf op false, .minor major minor⟩, .minor, skipSpaces cs⟩
    | .wildcard => return ⟨⟨operatorOf op true, .minor major minor⟩, .patch, skipSpaces cs⟩
    | .given patch =>
      let (pre, afterPre) ← liftFault (readPre cs)
      let (build, afterBuild) ← liftFault (readBuild afterPre)
      let ended : VersionPart :=
        if build ≠ [] then .build else if pre ≠ [] then .pre else .patch
      return ⟨⟨operatorOf op false, .patch major minor patch pre⟩, ended, skipSpaces afterBuild⟩

def loneWildcard? : List Char → Option Char
  | [] => none
  | c :: rest =>
    if isWildcard c && (match skipSpaces rest with | [] | ',' :: _ => true | _ => false)
    then some c else none

def readComparators : (room : Nat) → List Char → Except RequirementFault (List Comparator)
  | 0, _ => .error .tooMany
  | room + 1, cs =>
    match readComparator cs with
    | .error fault =>
      match loneWildcard? cs with
      | some wildcard => .error (.wildcardNotAlone wildcard)
      | none => .error fault
    | .ok r =>
      match r.rest with
      | [] => .ok [r.comparator]
      | ',' :: rest => do
        let others ← readComparators room (skipSpaces rest)
        return r.comparator :: others
      | c :: _ => .error (.expectedComma r.ended c)

namespace Requirement

def maxComparators : Nat := 32

def read (cs : List Char) : Except RequirementFault Requirement :=
  match skipSpaces cs with
  | c :: rest =>
    if isWildcard c then
      match skipSpaces rest with
      | [] => .ok any
      | ',' :: _ => .error (.wildcardNotAlone c)
      | _ => .error .afterWildcard
    else (readComparators maxComparators (c :: rest)).map Requirement.mk
  | [] => (readComparators maxComparators []).map Requirement.mk

/-- A requirement text as mods write it: trimmed, and with leading `v`s dropped. -/
def parse (text : String) : Except RequirementFault Requirement :=
  let trimmed := Text.trimChars text.toList
  if trimmed = [] || trimmed = "latest".toList then .ok any
  else read (trimmed.dropWhile (· = 'v'))

def invalidMessage (text : String) (fault : RequirementFault) : String :=
  "invalid version constraint '" ++ text ++ "': " ++ fault.message

end Requirement
end WorkspaceSession
