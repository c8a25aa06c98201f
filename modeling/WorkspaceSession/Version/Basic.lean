import WorkspaceSession.Text.Decimal
import WorkspaceSession.Text.Pieces

/-! Semantic versions: three numbers, pre-release identifiers and build identifiers, and their
written form. -/
namespace WorkspaceSession

def isIdentifierChar (c : Char) : Bool := c.isAlphanum || c = '-'

/-- A dot-free part of a pre-release or of build metadata. -/
structure Identifier where
  chars : List Char
  wellFormed : chars ≠ [] ∧ chars.all isIdentifierChar = true
deriving DecidableEq

/-- Digits alone are a number of any size, anything else is a name. -/
inductive PreIdentifier where
  | number (n : Nat)
  | name (id : Identifier) (nondigit : id.chars.all Char.isDigit = false)
deriving DecidableEq

structure Version where
  major : UInt64
  minor : UInt64
  patch : UInt64
  pre : List PreIdentifier := []
  build : List Identifier := []
deriving DecidableEq

def PreIdentifier.chars : PreIdentifier → List Char
  | .number n => Text.decimal n
  | .name id _ => id.chars

def preChars (pre : List PreIdentifier) : List Char := Text.glue ['.'] (pre.map PreIdentifier.chars)

def buildChars (build : List Identifier) : List Char :=
  Text.glue ['.'] (build.map Identifier.chars)

/-- A list of identifiers behind its mark; nothing when there are none. -/
def marked (mark : Char) : List Char → List Char
  | [] => []
  | cs => mark :: cs

namespace Version

def coreChars (v : Version) : List Char :=
  Text.decimal v.major.toNat ++ '.' :: Text.decimal v.minor.toNat ++
    '.' :: Text.decimal v.patch.toNat

def chars (v : Version) : List Char :=
  v.coreChars ++ marked '-' (preChars v.pre) ++ marked '+' (buildChars v.build)

def text (v : Version) : String := String.ofList v.chars

end Version
end WorkspaceSession
