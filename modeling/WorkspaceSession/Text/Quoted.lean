import WorkspaceSession.Text.InvisibleTable
import WorkspaceSession.Text.Mark

/-! Quoting for messages: a text between double quotes, a character between single ones. Only the
quote that delimits is escaped, besides the backslash and what has no visible form of its own. -/
namespace WorkspaceSession.Text

def hexDigits (n : Nat) : List Char := Nat.toDigits 16 n

/-- A character that shows nothing, or only together with what stands before it. -/
def isEscaped (c : Char) : Bool :=
  c.toNat < 0x20 || inRanges hiddenRanges c || inRanges unassignedRanges c || isExtender c

def quoteChar (delimiter c : Char) : List Char :=
  if c = delimiter || c = '\\' then ['\\', c]
  else if c = '\n' then ['\\', 'n']
  else if c = '\r' then ['\\', 'r']
  else if c = '\t' then ['\\', 't']
  else if c = '\x00' then ['\\', '0']
  else if isEscaped c then ['\\', 'u', '{'] ++ hexDigits c.toNat ++ ['}']
  else [c]

def quoted (s : String) : String :=
  String.ofList ('"' :: s.toList.flatMap (quoteChar '"') ++ ['"'])

def quotedChar (c : Char) : String :=
  String.ofList ('\'' :: quoteChar '\'' c ++ ['\''])

end WorkspaceSession.Text
