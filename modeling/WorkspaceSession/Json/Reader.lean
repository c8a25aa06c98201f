import WorkspaceSession.Json.Document
import WorkspaceSession.Json.Numeral
import WorkspaceSession.Json.TextLiteral

/-! Reading JSON text into documents. Reading goes on for as long as skipping could; where it
cannot, the document has its fault there and ends. -/
namespace WorkspaceSession.Json

def isSpace (c : Char) : Bool := c = ' ' || c = '\n' || c = '\t' || c = '\r'

def skipSpace (cs : List Char) : List Char := cs.dropWhile isSpace

/-- What was read, and the text behind it unless reading ended. -/
structure Partial (α : Type) where
  value : α
  rest : Option (List Char)

def Partial.after (p : Partial (List α)) (a : α) : Partial (List α) :=
  { p with value := a :: p.value }

def readWord (value : Document) : List Char → List Char → Partial Document
  | [], cs => ⟨value, some cs⟩
  | _ :: _, [] => ⟨.stop .endOfValue, none⟩
  | w :: word, c :: cs => if w = c then readWord value word cs else ⟨.stop .expectedWord, none⟩

def readNumber (negative : Bool) (cs : List Char) : Partial Document :=
  match readNumeral negative cs with
  | .ok (numeral, rest) => ⟨.number numeral.value, some rest⟩
  | .error (whenRead, whenSkipped) => ⟨.broken whenRead whenSkipped, none⟩

def readText (cs : List Char) : Partial Document :=
  match readLiteral (.chars []) cs with
  | .closed content rest => ⟨.text content, some rest⟩
  | .broken whenRead whenSkipped => ⟨.broken whenRead whenSkipped, none⟩

def stopMember (whenRead whenSkipped : Fault) : Partial (List (Except Fault String × Document)) :=
  ⟨[(.error whenRead, .broken whenRead whenSkipped)], none⟩

mutual

def readValue : (fuel level : Nat) → List Char → Partial Document
  | 0, _, _ => ⟨.stop .endOfValue, none⟩
  | fuel + 1, level, cs =>
    match skipSpace cs with
    | [] => ⟨.stop .endOfValue, none⟩
    | c :: rest =>
      if c = 'n' then readWord .null ['u', 'l', 'l'] rest
      else if c = 't' then readWord (.boolean true) ['r', 'u', 'e'] rest
      else if c = 'f' then readWord (.boolean false) ['a', 'l', 's', 'e'] rest
      else if c = '-' then readNumber true rest
      else if c.isDigit then readNumber false (c :: rest)
      else if c = '"' then readText rest
      else if c = '[' then
        let items := readItems fuel (level + 1) rest
        ⟨.list (some (level + 1)) items.value, items.rest⟩
      else if c = '{' then
        let members := readMembers fuel (level + 1) rest
        ⟨.table (some (level + 1)) members.value, members.rest⟩
      else ⟨.stop .expectedValue, none⟩

def readItems : (fuel level : Nat) → List Char → Partial (List Document)
  | 0, _, _ => ⟨[.stop .endOfList], none⟩
  | fuel + 1, level, cs =>
    match skipSpace cs with
    | [] => ⟨[.stop .endOfList], none⟩
    | ']' :: rest => ⟨[], some rest⟩
    | c :: rest => readItem fuel level (c :: rest)

def readItem : (fuel level : Nat) → List Char → Partial (List Document)
  | 0, _, _ => ⟨[.stop .endOfList], none⟩
  | fuel + 1, level, cs =>
    let item := readValue fuel level cs
    match item.rest.map skipSpace with
    | none => ⟨[item.value], none⟩
    | some [] => ⟨[item.value, .stop .endOfList], none⟩
    | some (']' :: rest) => ⟨[item.value], some rest⟩
    | some (',' :: rest) =>
      match skipSpace rest with
      | [] => ⟨[item.value, .stop .endOfValue], none⟩
      | ']' :: _ => ⟨[item.value, .broken .trailingComma .expectedValue], none⟩
      | c :: rest =>
        let others := readItem fuel level (c :: rest)
        ⟨item.value :: others.value, others.rest⟩
    | some _ => ⟨[item.value, .stop .expectedListEnd], none⟩

def readMembers : (fuel level : Nat) → List Char →
    Partial (List (Except Fault String × Document))
  | 0, _, _ => stopMember .endOfObject .endOfObject
  | fuel + 1, level, cs =>
    match skipSpace cs with
    | [] => stopMember .endOfObject .endOfObject
    | '}' :: rest => ⟨[], some rest⟩
    | '"' :: rest => readMember fuel level rest
    | _ => stopMember .keyNotText .keyNotText

def readMember : (fuel level : Nat) → List Char →
    Partial (List (Except Fault String × Document))
  | 0, _, _ => stopMember .endOfObject .endOfObject
  | fuel + 1, level, cs =>
    match readLiteral (.chars []) cs with
    | .broken whenRead whenSkipped => stopMember whenRead whenSkipped
    | .closed key rest =>
      match skipSpace rest with
      | [] => ⟨[(key, .stop .endOfObject)], none⟩
      | ':' :: rest =>
        let value := readValue fuel level rest
        match value.rest.map skipSpace with
        | none => ⟨[(key, value.value)], none⟩
        | some [] => (stopMember .endOfObject .endOfObject).after (key, value.value)
        | some ('}' :: rest) => ⟨[(key, value.value)], some rest⟩
        | some (',' :: rest) =>
          match skipSpace rest with
          | [] => (stopMember .endOfValue .endOfObject).after (key, value.value)
          | '"' :: rest => (readMember fuel level rest).after (key, value.value)
          | '}' :: _ => (stopMember .trailingComma .keyNotText).after (key, value.value)
          | _ => (stopMember .keyNotText .keyNotText).after (key, value.value)
        | some _ => (stopMember .expectedObjectEnd .expectedObjectEnd).after (key, value.value)
      | _ => ⟨[(key, .stop .expectedColon)], none⟩

end

/-- Every value takes at least one character, and no more than three calls. -/
def readDocument (cs : List Char) : Partial Document := readValue (3 * cs.length + 3) 0 cs

def decode (decoder : Document → Except Fault α) (text : String) : Except Fault α := do
  let read := readDocument text.toList
  let value ← decoder read.value
  match read.rest.map skipSpace with
  | some (_ :: _) => throw .trailingCharacters
  | _ => return value

def parse (text : String) : Except Fault Json := decode Document.toJson text

end WorkspaceSession.Json
