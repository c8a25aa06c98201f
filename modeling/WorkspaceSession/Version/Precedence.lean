import WorkspaceSession.Version.Basic

/-! Precedence of pre-releases: a version without one comes after every version with one, numbers
come before names, and a list comes before its extensions. -/
namespace WorkspaceSession

def compareChars : List Char → List Char → Ordering
  | [], [] => .eq
  | [], _ :: _ => .lt
  | _ :: _, [] => .gt
  | c :: cs, d :: ds => (compare c.toNat d.toNat).then (compareChars cs ds)

def PreIdentifier.compare : PreIdentifier → PreIdentifier → Ordering
  | .number m, .number n => Ord.compare m n
  | .number _, .name .. => .lt
  | .name .., .number _ => .gt
  | .name a _, .name b _ => compareChars a.chars b.chars

def compareIdentifiers : List PreIdentifier → List PreIdentifier → Ordering
  | [], [] => .eq
  | [], _ :: _ => .lt
  | _ :: _, [] => .gt
  | a :: as, b :: bs => (a.compare b).then (compareIdentifiers as bs)

def comparePre : List PreIdentifier → List PreIdentifier → Ordering
  | [], [] => .eq
  | [], _ :: _ => .gt
  | _ :: _, [] => .lt
  | as, bs => compareIdentifiers as bs

end WorkspaceSession
