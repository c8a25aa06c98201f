import WorkspaceSession.Json.Printer
import WorkspaceSession.Text.Quoted

/-! What can be wrong with a JSON text, or with a value read into a type, and how it is said. -/
namespace WorkspaceSession.Json

inductive Found where
  | null
  | boolean (b : Bool)
  | number (n : Number)
  | text (s : String)
  | sequence
  | map

inductive Expected where
  | text | boolean | int64 | sequence | map
  | record (name : String)

inductive Fault where
  | endOfValue | endOfText | endOfList | endOfObject
  | expectedValue | expectedWord | expectedColon | expectedListEnd | expectedObjectEnd
  | keyNotText | trailingComma | trailingCharacters
  | invalidEscape | loneSurrogate | endOfHexEscape | controlCharacter
  | invalidNumber | numberRange | tooDeep
  | wrongType (found : Found) (expected : Expected)
  | outOfRange (n : Int)
  | tooFewItems (count : Nat) (record : String) (fields : Nat)
  | tooManyItems (count : Nat)
  | missingField (name : String)
  | duplicateField (name : String)

def Found.phrase : Found → String
  | .null => "null"
  | .boolean b => "boolean `" ++ (if b then "true" else "false") ++ "`"
  | .number (.int n) => "integer `" ++ numberText (.int n) ++ "`"
  | .number (.float x) => "floating point `" ++ numberText (.float x) ++ "`"
  | .text s => "string " ++ Text.quoted s
  | .sequence => "sequence"
  | .map => "map"

def Expected.phrase : Expected → String
  | .text => "a string"
  | .boolean => "a boolean"
  | .int64 => "i64"
  | .sequence => "a sequence"
  | .map => "a map"
  | .record name => "struct " ++ name

def Fault.message : Fault → String
  | .endOfValue => "EOF while parsing a value"
  | .endOfText => "EOF while parsing a string"
  | .endOfList => "EOF while parsing a list"
  | .endOfObject => "EOF while parsing an object"
  | .expectedValue => "expected value"
  | .expectedWord => "expected ident"
  | .expectedColon => "expected `:`"
  | .expectedListEnd => "expected `,` or `]`"
  | .expectedObjectEnd => "expected `,` or `\x7d`"
  | .keyNotText => "key must be a string"
  | .trailingComma => "trailing comma"
  | .trailingCharacters => "trailing characters"
  | .invalidEscape => "invalid escape"
  | .loneSurrogate => "lone leading surrogate in hex escape"
  | .endOfHexEscape => "unexpected end of hex escape"
  | .controlCharacter => "control character (\\u0000-\\u001F) found while parsing a string"
  | .invalidNumber => "invalid number"
  | .numberRange => "number out of range"
  | .tooDeep => "recursion limit exceeded"
  | .wrongType found expected =>
    "invalid type: " ++ found.phrase ++ ", expected " ++ expected.phrase
  | .outOfRange n => "invalid value: integer `" ++ numberText (.int n) ++ "`, expected i64"
  | .tooFewItems n record fields =>
    "invalid length " ++ Text.naturalText n ++ ", expected struct " ++ record ++ " with " ++
      Text.naturalText fields ++ (if fields = 1 then " element" else " elements")
  | .tooManyItems n =>
    "invalid length " ++ Text.naturalText n ++ ", expected fewer elements in array"
  | .missingField name => "missing field `" ++ name ++ "`"
  | .duplicateField name => "duplicate field `" ++ name ++ "`"

end WorkspaceSession.Json
