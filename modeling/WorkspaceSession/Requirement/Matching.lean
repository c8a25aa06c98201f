import WorkspaceSession.Requirement.Basic
import WorkspaceSession.Version.Precedence
import WorkspaceSession.Version.Parser

/-! Which versions a requirement admits. Build metadata plays no part. -/
namespace WorkspaceSession
namespace Pattern

def pre : Pattern → List PreIdentifier
  | .patch _ _ _ pre => pre
  | _ => []

def agrees : Pattern → Version → Bool
  | .major a, v => v.major = a
  | .minor a b, v => v.major = a && v.minor = b
  | .patch a b c _, v => v.major = a && v.minor = b && v.patch = c

def equals (p : Pattern) (v : Version) : Bool := p.agrees v && v.pre = p.pre

/-- Where the version stands to the pattern; undecided when the pattern ends before they differ. -/
def ordering? : Pattern → Version → Option Ordering
  | .major a, v => if v.major = a then none else some (compare v.major a)
  | .minor a b, v =>
    if v.major ≠ a then some (compare v.major a)
    else if v.minor = b then none else some (compare v.minor b)
  | .patch a b c pre, v =>
    if v.major ≠ a then some (compare v.major a)
    else if v.minor ≠ b then some (compare v.minor b)
    else if v.patch ≠ c then some (compare v.patch c)
    else some (comparePre v.pre pre)

/-- Same numbers down to the minor one, and no earlier than the pattern. -/
def tilde : Pattern → Version → Bool
  | .major a, v => v.major = a && comparePre v.pre [] != .lt
  | .minor a b, v => v.major = a && v.minor = b && comparePre v.pre [] != .lt
  | .patch a b c pre, v =>
    v.major = a && v.minor = b &&
      if v.patch ≠ c then v.patch > c else comparePre v.pre pre != .lt

/-- No change of the leftmost number that is not zero, and no earlier than the pattern. -/
def caret : Pattern → Version → Bool
  | .major a, v => v.major = a
  | .minor a b, v => v.major = a && if a > 0 then v.minor ≥ b else v.minor = b
  | .patch a b c pre, v =>
    v.major = a &&
      if a > 0 && v.minor ≠ b then v.minor > b
      else if v.minor ≠ b then false
      else if (a > 0 || b > 0) && v.patch ≠ c then v.patch > c
      else v.patch = c && comparePre v.pre pre != .lt

end Pattern

namespace Comparator

def admits (c : Comparator) (v : Version) : Bool :=
  match c.op with
  | .exact | .wildcard => c.pattern.equals v
  | .greater => c.pattern.ordering? v = some .gt
  | .greaterEq => c.pattern.equals v || c.pattern.ordering? v = some .gt
  | .less => c.pattern.ordering? v = some .lt
  | .lessEq => c.pattern.equals v || c.pattern.ordering? v = some .lt
  | .tilde => c.pattern.tilde v
  | .caret => c.pattern.caret v

/-- A pre-release is let in only by a comparator that names a pre-release of the same numbers. -/
def admitsPre (c : Comparator) (v : Version) : Bool :=
  c.pattern.isFull && c.pattern.agrees v && !c.pattern.pre.isEmpty

end Comparator

namespace Requirement

def admits (r : Requirement) (v : Version) : Bool :=
  r.comparators.all (·.admits v) && (v.pre.isEmpty || r.comparators.any (·.admitsPre v))

/-- A text that is no version satisfies nothing. -/
def satisfiedBy (r : Requirement) (version : String) : Bool :=
  match Version.parse? version with
  | some v => r.admits v
  | none => false

end Requirement
end WorkspaceSession
