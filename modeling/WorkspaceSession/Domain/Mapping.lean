import WorkspaceSession.Domain.MappingTable
import WorkspaceSession.Text.InvisibleTable
import WorkspaceSession.Text.Lowercase

/-! What the characters of a domain name stand for. -/
namespace WorkspaceSession.Domain

def mappedChar? (c : Char) : Option Char :=
  mappedChars.findSome? fun (first, targets) =>
    if first ≤ c.toNat then targets.toList[c.toNat - first]? else none

def mappedText? (c : Char) : Option String :=
  mappedTexts.findSome? fun (first, targets) =>
    if first ≤ c.toNat then targets[c.toNat - first]? else none

/-- The characters that one stands for. There are none of it if the character does not count, and
no answer if it may not stand in a name. -/
def standsFor? (c : Char) : Option (List Char) :=
  if Text.inRanges deniedRanges c || Text.inRanges Text.unassignedRanges c then none
  else if Text.inRanges ignoredRanges c then some []
  else match mappedText? c with
    | some text => some text.toList
    | none => some [(mappedChar? c).getD (Text.lowerChar c)]

def standsForItself (c : Char) : Bool := standsFor? c = some [c]

end WorkspaceSession.Domain
