import WorkspaceSession.Host.Basic
import WorkspaceSession.Text.Pieces

/-! File trees, and how paths lead through them. A place is the list of the names that lead to it
from the root. -/
namespace WorkspaceSession

inductive FileEntry where
  | directory
  | file (content : ByteArray)

/-- The root is a directory, whatever stands under the empty place. -/
structure FileTree where
  below : List String → Option FileEntry := fun _ => none

namespace FileTree

def entry? (t : FileTree) (place : List String) : Option FileEntry :=
  if place = [] then some .directory else t.below place

def put (t : FileTree) (place : List String) (e : FileEntry) : FileTree :=
  ⟨fun other => if other = place then some e else t.below other⟩

def putAll (t : FileTree) (place : List String) (e : FileEntry) : FileTree :=
  ((List.range place.length).foldl (fun t n => t.put (place.take n) .directory) t).put place e

def longestName : Nat := 255
def longestPath : Nat := 4095

/-- One segment further. Only a directory leads on, also to itself. -/
def advance (t : FileTree) (place : List String) (segment : String) :
    Except HostError (List String) :=
  match t.entry? place with
  | none => .error .notFound
  | some (.file _) => .error .notDirectory
  | some .directory =>
    if segment = "" || segment = "." then .ok place
    else if segment = ".." then .ok place.dropLast
    else if segment.utf8ByteSize > longestName then .error .nameTooLong
    else .ok (place ++ [segment])

def segments (path : String) : List String := (Text.pieces '/' path.toList).map String.ofList

def origin (current : List String) (path : String) : List String :=
  if path.toList.head? = some '/' then [] else current

def refuse (path : String) : Except HostError Unit :=
  if path.toList.contains '\x00' then .error .nulByte
  else if path = "" then .error .notFound
  else .ok ()

def refuseLong (path : String) : Except HostError Unit :=
  if path.utf8ByteSize > longestPath then .error .nameTooLong else .ok ()

def follow (t : FileTree) (current : List String) (path : String) :
    Except HostError (List String × FileEntry) := do
  let place ← (segments path).foldlM t.advance (origin current path)
  match t.entry? place with
  | some e => .ok (place, e)
  | none => .error .notFound

def placeText (place : List String) : String := "/" ++ Text.join "/" place

def canonicalize (t : FileTree) (current : List String) (path : String) :
    Except HostError String := do
  refuse path
  return placeText (← t.follow current path).1

def find (t : FileTree) (current : List String) (path : String) : Except HostError FileEntry := do
  refuse path
  refuseLong path
  return (← t.follow current path).2

def isDirectory (t : FileTree) (current : List String) (path : String) : Bool :=
  match t.find current path with
  | .ok .directory => true
  | _ => false

def present (t : FileTree) (current : List String) (path : String) : Bool :=
  (t.find current path).isOk

def read (t : FileTree) (current : List String) (path : String) :
    Except HostError ByteArray := do
  match ← t.find current path with
  | .directory => .error .isDirectory
  | .file content => .ok content

/-- A file is created or replaced. A path that ends in a slash or in dots names no file. -/
def write (t : FileTree) (current : List String) (path : String) (content : ByteArray) :
    Except HostError FileTree := do
  refuse path
  refuseLong path
  let back := (segments path).reverse
  match back.dropWhile (· = "") with
  | [] => .error .isDirectory
  | name :: way =>
    let parent ← (way.reverse ++ ["."]).foldlM t.advance (origin current path)
    if name = "." || name = ".." || back.head? = some "" then .error .isDirectory
    else
      let place ← t.advance parent name
      match t.entry? place with
      | some .directory => .error .isDirectory
      | _ => .ok (t.put place (.file content))

end FileTree
end WorkspaceSession
