import WorkspaceSession.Version.Basic

/-! Version requirements: a list of comparators that must all hold. A comparator names a version
down to its major, minor or patch number. -/
namespace WorkspaceSession

/-- How much of a version a comparator names; a pre-release goes with a full version only. -/
inductive Pattern where
  | major (major : UInt64)
  | minor (major minor : UInt64)
  | patch (major minor patch : UInt64) (pre : List PreIdentifier)
deriving DecidableEq

/-- `wildcard` is the operator of `1.*`, which has no sign of its own. -/
inductive Operator where
  | exact | greater | greaterEq | less | lessEq | tilde | caret | wildcard
deriving DecidableEq

structure Comparator where
  op : Operator
  pattern : Pattern
deriving DecidableEq

/-- The requirement without comparators is written `*`. -/
structure Requirement where
  comparators : List Comparator
deriving DecidableEq

namespace Pattern

def chars : Pattern → List Char
  | .major a => Text.decimal a.toNat
  | .minor a b => Text.decimal a.toNat ++ '.' :: Text.decimal b.toNat
  | .patch a b c pre =>
    Text.decimal a.toNat ++ '.' :: Text.decimal b.toNat ++ '.' :: Text.decimal c.toNat ++
      marked '-' (preChars pre)

def isFull : Pattern → Bool
  | .patch .. => true
  | _ => false

end Pattern

def Operator.sign : Operator → List Char
  | .exact => ['=']
  | .greater => ['>']
  | .greaterEq => ['>', '=']
  | .less => ['<']
  | .lessEq => ['<', '=']
  | .tilde => ['~']
  | .caret => ['^']
  | .wildcard => []

def Comparator.chars (c : Comparator) : List Char :=
  c.op.sign ++ c.pattern.chars ++
    if c.op = .wildcard && !c.pattern.isFull then ['.', '*'] else []

namespace Requirement

def any : Requirement := ⟨[]⟩

def chars : Requirement → List Char
  | ⟨[]⟩ => ['*']
  | ⟨cs⟩ => Text.glue [',', ' '] (cs.map Comparator.chars)

def text (r : Requirement) : String := String.ofList r.chars

end Requirement
end WorkspaceSession
