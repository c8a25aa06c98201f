import WorkspaceSession.Domain.JoiningTable
import WorkspaceSession.Domain.Mapping
import WorkspaceSession.Domain.Punycode
import WorkspaceSession.Text.Composition

/-! The labels of a domain name. -/
namespace WorkspaceSession.Domain

/-- What letters join across: nonspacing marks, and one letter. -/
def isTransparent (c : Char) : Bool := Text.isNonspacing c || c.toNat = 0x1E94B

def joinsBy (sets : List (List (Nat × Nat))) (cs : List Char) : Bool :=
  (cs.dropWhile isTransparent).head?.any fun c => sets.any fun ranges => Text.inRanges ranges c

def isVirama (c : Char) : Bool := Text.combiningClass c = 9

/-- Whether a joiner or a non-joiner has something to act on; `before` is reversed. -/
def joinerFits (joiner : Char) (before after : List Char) : Bool :=
  before.head?.any isVirama ||
    (joiner = '\u200c' && joinsBy [joinsBothRanges, joinsLeftRanges] before &&
      joinsBy [joinsBothRanges, joinsRightRanges] after)

def joinersFit (before : List Char) : List Char → Bool
  | [] => true
  | c :: rest =>
    ((c ≠ '\u200c' && c ≠ '\u200d') || joinerFits c before rest) && joinersFit (c :: before) rest

def isAscii (c : Char) : Bool := c.toNat < 0x80

def longestCode : Nat := 2000
def longestLabel : Nat := 1000

/-- No label begins with a mark. Those in ASCII may have any length. -/
def labelFits (label : List Char) : Bool :=
  !label.head?.any Text.isMark && joinersFit [] label &&
    (label.all isAscii || label.length ≤ longestLabel)

/-- What a code stands for. It is such that it could have been written down as it is. -/
def ofCode? (code : List Char) : Option (List Char) :=
  if code.length ≤ longestCode then
    (Punycode.decode? code).filter fun label =>
      label.all (fun c => standsForItself c && c ≠ '.') && Text.composed label = label
  else none

def readLabel? (label : List Char) : Option (List Char) :=
  let read := match label with
    | 'x' :: 'n' :: '-' :: '-' :: code => ofCode? code
    | label => some label
  read.filter labelFits

end WorkspaceSession.Domain
