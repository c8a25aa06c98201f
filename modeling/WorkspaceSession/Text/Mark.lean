import WorkspaceSession.Text.MarkTable
import WorkspaceSession.Text.Ranges

/-! Combining marks. -/
namespace WorkspaceSession.Text

def isNonspacing (c : Char) : Bool := inRanges nonspacingRanges c

def isMark (c : Char) : Bool := isNonspacing c || inRanges spacingRanges c

def isExtender (c : Char) : Bool := isNonspacing c || inRanges extendingRanges c

/-- The place of a mark among the marks of a character; 0 for what keeps its place. -/
def combiningClass (c : Char) : Nat :=
  match combiningClasses.find? fun (first, last, _) => first ≤ c.toNat && c.toNat ≤ last with
  | some (_, _, k) => k
  | none => 0

end WorkspaceSession.Text
