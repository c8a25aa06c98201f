import WorkspaceSession.Json.Basic
import WorkspaceSession.Json.Shortest
import WorkspaceSession.Text.Decimal

/-! JSON text, compact and indented. -/
namespace WorkspaceSession
namespace Json

def zeros (n : Nat) : List Char := List.replicate n '0'

/-- Doubles have a point or an exponent; plain notation serves magnitudes from `10 ^ -5` to
`10 ^ 16`. -/
def floatChars (s : Scaled) : List Char :=
  let digits := Text.decimal s.digits
  let length := digits.length
  let point : Int := length + s.exponent
  if 0 ≤ s.exponent && point ≤ 16 then digits ++ zeros s.exponent.toNat ++ ['.', '0']
  else if 0 < point && point ≤ 16 then digits.take point.toNat ++ '.' :: digits.drop point.toNat
  else if -5 < point && point ≤ 0 then '0' :: '.' :: zeros (-point).toNat ++ digits
  else
    let mantissa := if length = 1 then digits else digits.take 1 ++ '.' :: digits.drop 1
    let power := point - 1
    mantissa ++ ['e', if power < 0 then '-' else '+'] ++ Text.decimal power.natAbs

def floatText (x : Float) : String :=
  let sign := if Nat.pow 2 63 ≤ x.toBits.toNat then ['-'] else []
  let magnitude := if x == 0 then ['0', '.', '0'] else floatChars (shortestDecimal x)
  String.ofList (sign ++ magnitude)

def numberText : Number → String
  | .int n => String.ofList ((if n < 0 then ['-'] else []) ++ Text.decimal n.natAbs)
  | .float x => floatText x

def escapeChar (c : Char) : List Char :=
  if c = '"' || c = '\\' then ['\\', c]
  else if c = '\n' then ['\\', 'n']
  else if c = '\r' then ['\\', 'r']
  else if c = '\t' then ['\\', 't']
  else if c = '\x08' then ['\\', 'b']
  else if c = '\x0c' then ['\\', 'f']
  else if c.toNat < 0x20 then
    ['\\', 'u', '0', '0', (c.toNat / 16).digitChar, (c.toNat % 16).digitChar]
  else [c]

def textChars (s : String) : List Char := '"' :: s.toList.flatMap escapeChar ++ ['"']

mutual

def compactChars : Json → List Char
  | .null => "null".toList
  | .boolean b => (if b then "true" else "false").toList
  | .number n => (numberText n).toList
  | .text s => textChars s
  | .list items => '[' :: compactItems items ++ [']']
  | .object members => '{' :: compactMembers members ++ ['}']

def compactItems : List Json → List Char
  | [] => []
  | [item] => item.compactChars
  | item :: rest => item.compactChars ++ ',' :: compactItems rest

def compactMembers : List (String × Json) → List Char
  | [] => []
  | [(key, value)] => textChars key ++ ':' :: value.compactChars
  | (key, value) :: rest => textChars key ++ ':' :: value.compactChars ++ ',' :: compactMembers rest

end

def compact (j : Json) : String := String.ofList j.compactChars

def newline (depth : Nat) : List Char := '\n' :: List.replicate (2 * depth) ' '

mutual

/-- Indented text, two spaces a level; an empty list or object stays on its line. -/
def prettyChars (depth : Nat) : Json → List Char
  | .null => "null".toList
  | .boolean b => (if b then "true" else "false").toList
  | .number n => (numberText n).toList
  | .text s => textChars s
  | .list [] => ['[', ']']
  | .list (item :: rest) =>
    '[' :: newline (depth + 1) ++ item.prettyChars (depth + 1) ++ prettyItems (depth + 1) rest ++
      newline depth ++ [']']
  | .object [] => ['{', '}']
  | .object ((key, value) :: rest) =>
    '{' :: newline (depth + 1) ++ textChars key ++ ':' :: ' ' :: value.prettyChars (depth + 1) ++
      prettyMembers (depth + 1) rest ++ newline depth ++ ['}']

def prettyItems (depth : Nat) : List Json → List Char
  | [] => []
  | item :: rest => ',' :: newline depth ++ item.prettyChars depth ++ prettyItems depth rest

def prettyMembers (depth : Nat) : List (String × Json) → List Char
  | [] => []
  | (key, value) :: rest =>
    ',' :: newline depth ++ textChars key ++ ':' :: ' ' :: value.prettyChars depth ++
      prettyMembers depth rest

end

def pretty (j : Json) : String := String.ofList (j.prettyChars 0)

end Json
end WorkspaceSession
