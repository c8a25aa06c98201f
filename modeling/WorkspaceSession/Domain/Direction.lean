import WorkspaceSession.Domain.DirectionTable
import WorkspaceSession.Text.Mark

/-! The direction of labels. A name in which something is written from right to left must not look
like another one, so each of its labels keeps to one direction. -/
namespace WorkspaceSession.Domain

inductive Direction where
  | leftToRight | rightToLeft | europeanDigit | arabicDigit | neutral | mark
deriving DecidableEq

namespace Direction

def ofChar (c : Char) : Direction :=
  if leftToRightMarks.contains c.toNat then .leftToRight
  else if Text.isNonspacing c then .mark
  else if Text.inRanges rightToLeftRanges c then .rightToLeft
  else if Text.inRanges arabicDigitRanges c then .arabicDigit
  else if Text.inRanges europeanDigitRanges c then .europeanDigit
  else if Text.inRanges neutralRanges c then .neutral
  else .leftToRight

def turns (d : Direction) : Bool := d = .rightToLeft || d = .arabicDigit

def fitsForward (ds : List Direction) : Bool :=
  ds.all (fun d => !d.turns) &&
    ds.getLast?.any fun d => d = .leftToRight || d = .europeanDigit

def fitsBackward (ds : List Direction) : Bool :=
  ds.all (· ≠ .leftToRight) && !(ds.contains .europeanDigit && ds.contains .arabicDigit) &&
    ds.getLast?.any fun d => d.turns || d = .europeanDigit

/-- The first character decides on the direction, and so is a letter. Marks at the end do not
count. -/
def fit (ds : List Direction) : Bool :=
  let core := (ds.reverse.dropWhile (· = .mark)).reverse
  match ds with
  | [] => true
  | .leftToRight :: _ => fitsForward core
  | .rightToLeft :: _ => fitsBackward core
  | _ => false

end Direction

/-- Labels are held to their directions only if one of them turns. -/
def directionsFit (labels : List (List Char)) : Bool :=
  let directions := labels.map fun label => label.map Direction.ofChar
  !(directions.any fun ds => ds.any Direction.turns) || directions.all Direction.fit

end WorkspaceSession.Domain
