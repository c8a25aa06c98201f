import WorkspaceSession.Json.Fault

/-! A value as a decoder meets it, with faults where they lie. A fault counts only when the decoder
gets to it, and a value that the decoder skips is held to less than one that it reads. -/
namespace WorkspaceSession.Json

/-- A container has the number of containers it is in, itself included; it has none when the value
was never text. -/
inductive Document where
  | null
  | boolean (b : Bool)
  | number (value : Except Fault Number)
  | text (content : Except Fault String)
  | list (level : Option Nat) (items : List Document)
  | table (level : Option Nat) (members : List (Except Fault String × Document))
  | broken (whenRead whenSkipped : Fault)

instance : Inhabited Document := ⟨.null⟩

namespace Document

def stop (fault : Fault) : Document := .broken fault fault

mutual

def ofJson : Json → Document
  | .null => .null
  | .boolean b => .boolean b
  | .number n => .number (.ok n)
  | .text s => .text (.ok s)
  | .list items => .list none (ofItems items)
  | .object members => .table none (ofMembers members)

def ofItems : List Json → List Document
  | [] => []
  | item :: rest => ofJson item :: ofItems rest

def ofMembers : List (String × Json) → List (Except Fault String × Document)
  | [] => []
  | (key, value) :: rest => (.ok key, ofJson value) :: ofMembers rest

end

mutual

def toJson : Document → Except Fault Json
  | .null => .ok .null
  | .boolean b => .ok (.boolean b)
  | .number value => value.map .number
  | .text content => content.map .text
  | .list _ items => (itemsToJson items).map .list
  | .table _ members => (membersToJson members).map Json.ofMembers
  | .broken fault _ => .error fault

def itemsToJson : List Document → Except Fault (List Json)
  | [] => .ok []
  | item :: rest => do
    let item ← item.toJson
    let rest ← itemsToJson rest
    return item :: rest

def membersToJson : List (Except Fault String × Document) → Except Fault (List (String × Json))
  | [] => .ok []
  | (key, value) :: rest => do
    let key ← key
    let value ← value.toJson
    let rest ← membersToJson rest
    return (key, value) :: rest

end

mutual

/-- Passes over a value. The text inside strings, the size of numbers and the nesting are free. -/
def skip : Document → Except Fault Unit
  | .list _ items => skipItems items
  | .table _ members => skipMembers members
  | .broken _ fault => .error fault
  | _ => .ok ()

def skipItems : List Document → Except Fault Unit
  | [] => .ok ()
  | item :: rest => do item.skip; skipItems rest

def skipMembers : List (Except Fault String × Document) → Except Fault Unit
  | [] => .ok ()
  | (_, value) :: rest => do value.skip; skipMembers rest

end

def mismatch (expected : Expected) : Document → Fault
  | .null => .wrongType .null expected
  | .boolean b => .wrongType (.boolean b) expected
  | .number (.ok n) => .wrongType (.number n) expected
  | .number (.error fault) => fault
  | .text (.ok s) => .wrongType (.text s) expected
  | .text (.error fault) => fault
  | .list .. => .wrongType .sequence expected
  | .table .. => .wrongType .map expected
  | .broken fault _ => fault

def maxLevel : Nat := 127

def checkLevel (level : Option Nat) : Except Fault Unit :=
  if maxLevel < level.getD 0 then .error .tooDeep else .ok ()

def asText : Document → Except Fault String
  | .text (.ok s) => .ok s
  | d => .error (d.mismatch .text)

def asText? : Document → Except Fault (Option String)
  | .null => .ok none
  | d => d.asText.map some

def asBool : Document → Except Fault Bool
  | .boolean b => .ok b
  | d => .error (d.mismatch .boolean)

def asInt64 : Document → Except Fault Int64
  | .number (.ok (.int n)) =>
    if Text.minInt64 ≤ n ∧ n ≤ Text.maxInt64 then .ok (Int64.ofInt n)
    else .error (.outOfRange n)
  | d => .error (d.mismatch .int64)

def asList (decode : Document → Except Fault α) : Document → Except Fault (List α)
  | .list level items => do checkLevel level; items.mapM decode
  | d => .error (d.mismatch .sequence)

/-- Reads members in the order they stand in; of those with the same key the last one stays. -/
def entries (decode : Document → Except Fault α) :
    Table α → List (Except Fault String × Document) → Except Fault (Table α)
  | t, [] => .ok t
  | t, (key, value) :: rest => do
    let key ← key
    let value ← decode value
    entries decode (t.insert key value) rest

def asTable (decode : Document → Except Fault α) : Document → Except Fault (Table α)
  | .table level members => do checkLevel level; entries decode .empty members
  | d => .error (d.mismatch .map)

/-- What is left of a list after the items of a record must be nothing; `count` is the number of
all items. -/
def endOfItems (level : Option Nat) (count : Nat) : List Document → Except Fault Unit
  | [] => .ok ()
  | item :: _ =>
    match level, item with
    | none, _ => .error (.tooManyItems count)
    | some _, .broken .trailingComma _ => .error .trailingComma
    | some _, .broken .endOfList _ => .error .endOfList
    | some _, _ => .error .trailingCharacters

def once (name : String) (field : Option α) (value : Except Fault α) : Except Fault (Option α) :=
  if field.isSome then .error (.duplicateField name) else value.map some

def required (name : String) (field : Option α) : Except Fault α :=
  match field with
  | some value => .ok value
  | none => .error (.missingField name)

end Document
end WorkspaceSession.Json
