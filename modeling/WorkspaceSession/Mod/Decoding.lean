import WorkspaceSession.Json.Reader
import WorkspaceSession.Mod.Basic

/-! Reading mods. A record is an object, whose unknown members are skipped, or the list of its
fields in order. Everything but the names may be left out. -/
namespace WorkspaceSession

open Json Document

structure NeedShape where
  record : String
  field : String

def pluginShape : NeedShape := ⟨"PluginRequirement", "min_version"⟩
def modShape : NeedShape := ⟨"ModRequirement", "version"⟩

namespace Need

structure Draft where
  name : Option String := none
  constraint : Option String := none

def Draft.finish (d : Draft) : Except Fault Need := do
  let name ← required "name" d.name
  return ⟨name, d.constraint.getD ""⟩

def readMembers (shape : NeedShape) :
    Draft → List (Except Fault String × Document) → Except Fault Draft
  | d, [] => .ok d
  | d, (key, value) :: rest => do
    let key ← key
    if key = "name" then
      let name ← once "name" d.name value.asText
      readMembers shape { d with name } rest
    else if key = shape.field then
      let constraint ← once shape.field d.constraint value.asText
      readMembers shape { d with constraint } rest
    else
      value.skip
      readMembers shape d rest

def readItems (shape : NeedShape) (level : Option Nat) : List Document → Except Fault Need
  | [] => .error (.tooFewItems 0 shape.record 2)
  | [name] => do return ⟨← name.asText, ""⟩
  | name :: constraint :: rest => do
    let name ← name.asText
    let constraint ← constraint.asText
    endOfItems level (2 + rest.length) rest
    return ⟨name, constraint⟩

def ofDocument (shape : NeedShape) : Document → Except Fault Need
  | .table level members => do
    checkLevel level
    (← readMembers shape {} members).finish
  | .list level items => do
    checkLevel level
    readItems shape level items
  | d => .error (d.mismatch (.record shape.record))

end Need

namespace Require

structure Draft where
  plugins : Option (List Need) := none
  mods : Option (List Need) := none

def Draft.finish (d : Draft) : Require := ⟨d.plugins.getD [], d.mods.getD []⟩

def plugins? (d : Document) : Except Fault (List Need) := d.asList (Need.ofDocument pluginShape)
def mods? (d : Document) : Except Fault (List Need) := d.asList (Need.ofDocument modShape)

def readMembers : Draft → List (Except Fault String × Document) → Except Fault Draft
  | d, [] => .ok d
  | d, (key, value) :: rest => do
    let key ← key
    if key = "plugins" then
      let plugins ← once "plugins" d.plugins (plugins? value)
      readMembers { d with plugins } rest
    else if key = "mods" then
      let mods ← once "mods" d.mods (mods? value)
      readMembers { d with mods } rest
    else
      value.skip
      readMembers d rest

def readItems (level : Option Nat) : List Document → Except Fault Require
  | [] => .ok {}
  | [plugins] => do return { plugins := ← plugins? plugins }
  | plugins :: mods :: rest => do
    let plugins ← plugins? plugins
    let mods ← mods? mods
    endOfItems level (2 + rest.length) rest
    return { plugins, mods }

def ofDocument : Document → Except Fault Require
  | .table level members => do
    checkLevel level
    return (← readMembers {} members).finish
  | .list level items => do
    checkLevel level
    readItems level items
  | d => .error (d.mismatch (.record "Require"))

end Require

namespace Mod

structure Draft where
  name : Option String := none
  dependencyName : Option String := none
  version : Option (Option String) := none
  require : Option Require := none
  mods : Option (List (String × Mod)) := none

def Draft.finish (d : Draft) : Except Fault Mod := do
  let name ← required "name" d.name
  return {
    name
    dependencyName := d.dependencyName.getD ""
    version := d.version.getD none
    require := d.require.getD {}
    mods := d.mods.getD [] }

mutual

def ofDocument : Document → Except Fault Mod
  | .table level members => do
    checkLevel level
    (← readMembers {} members).finish
  | .list level items => do
    checkLevel level
    readItems level items
  | d => .error (d.mismatch (.record "Mod"))

def readMembers : Draft → List (Except Fault String × Document) → Except Fault Draft
  | d, [] => .ok d
  | d, (key, value) :: rest => do
    let key ← key
    if key = "name" then
      let name ← once "name" d.name value.asText
      readMembers { d with name } rest
    else if key = "dependency_name" then
      let dependencyName ← once "dependency_name" d.dependencyName value.asText
      readMembers { d with dependencyName } rest
    else if key = "version" then
      let version ← once "version" d.version value.asText?
      readMembers { d with version } rest
    else if key = "require" then
      let require ← once "require" d.require (Require.ofDocument value)
      readMembers { d with require } rest
    else if key = "mods" then
      let mods ← once "mods" d.mods (childrenOf value)
      readMembers { d with mods } rest
    else
      value.skip
      readMembers d rest

def readItems (level : Option Nat) : List Document → Except Fault Mod
  | [] => .error (.tooFewItems 0 "Mod" 5)
  | [name] => do return { name := ← name.asText }
  | [name, dependencyName] => do
    return { name := ← name.asText, dependencyName := ← dependencyName.asText }
  | [name, dependencyName, version] => do
    return {
      name := ← name.asText
      dependencyName := ← dependencyName.asText
      version := ← version.asText? }
  | [name, dependencyName, version, require] => do
    return {
      name := ← name.asText
      dependencyName := ← dependencyName.asText
      version := ← version.asText?
      require := ← Require.ofDocument require }
  | name :: dependencyName :: version :: require :: mods :: rest => do
    let name ← name.asText
    let dependencyName ← dependencyName.asText
    let version ← version.asText?
    let require ← Require.ofDocument require
    let mods ← childrenOf mods
    endOfItems level (5 + rest.length) rest
    return { name, dependencyName, version, require, mods }

def childrenOf : Document → Except Fault (List (String × Mod))
  | .table level members => do
    checkLevel level
    readChildren [] members
  | d => .error (d.mismatch .map)

/-- Of children with the same key the last one stays. -/
def readChildren : List (String × Mod) → List (Except Fault String × Document) →
    Except Fault (List (String × Mod))
  | read, [] => .ok read
  | read, (key, value) :: rest => do
    let key ← key
    let child ← ofDocument value
    readChildren (Entries.insert key child read) rest

end

def ofJson (j : Json) : Except Fault Mod := ofDocument (Document.ofJson j)

def parse (text : String) : Except Fault Mod := decode ofDocument text

end Mod
end WorkspaceSession
