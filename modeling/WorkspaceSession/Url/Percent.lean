import WorkspaceSession.Json.TextLiteral

/-! Percent encoding: a byte is written as `%` and two hexadecimal digits. -/
namespace WorkspaceSession.Url

def upperHex (n : Nat) : Char := (n.digitChar).toUpper

def percentByte (b : UInt8) : List Char := ['%', upperHex (b.toNat / 16), upperHex (b.toNat % 16)]

def percentChar (c : Char) : List Char := (String.utf8EncodeChar c).flatMap percentByte

def isControl (c : Char) : Bool := c.toNat < 0x20 || 0x7F ≤ c.toNat

def percentEncode (set : Char → Bool) (cs : List Char) : List Char :=
  cs.flatMap fun c => if isControl c || set c then percentChar c else [c]

/-- The bytes of a text, where a `%` before two digits stands for the byte they name. -/
def percentDecode : List Char → List UInt8
  | [] => []
  | '%' :: a :: b :: rest =>
    match Json.hexValue? a, Json.hexValue? b with
    | some x, some y => UInt8.ofNat (16 * x + y) :: percentDecode rest
    | _, _ => String.utf8EncodeChar '%' ++ percentDecode (a :: b :: rest)
  | c :: rest => String.utf8EncodeChar c ++ percentDecode rest

end WorkspaceSession.Url
