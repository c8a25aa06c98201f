import WorkspaceSession.Mod.Encoding
import WorkspaceSession.Proofs.RecordReading
import WorkspaceSession.Workspace.Manifest

/-! Mods, locks and manifests are read as what they were written as. Each record says by its fields
what it may be written as, the value it is encoded to among them; reading is followed member by
member. -/
namespace WorkspaceSession

open Json Document

namespace Need

variable {shape : NeedShape} {need : Need}

structure Fields (shape : NeedShape) (need : Need) (members : List (String × Json)) : Prop where
  name : Gives members "name" (· = .text need.name) False
  constraint : Gives members shape.field (· = .text need.constraint) (need.constraint = "")

def Written (shape : NeedShape) (need : Need) : Json → Prop := Record (Fields shape need)

/-- What is known of the need while the members of the names `keys` are still to come. -/
def stage (shape : NeedShape) (need : Need) (all keys : List String) : Draft where
  name := reached all keys "name" need.name
  constraint := reached all keys shape.field need.constraint

theorem stage_self (all : List String) : stage shape need all all = {} := by
  simp only [stage, reached_self]

theorem finish_stage {all : List String} (hname : "name" ∈ all)
    (hconstraint : shape.field ∈ all ∨ need.constraint = "") :
    (stage shape need all []).finish = .ok need := by
  rw [Draft.finish, stage, reached_of_mem hname List.not_mem_nil]
  simp only [required, ok_bind, getD_reached hconstraint]
  rfl

theorem staged (hshape : shape.field ≠ "name") (need : Need) :
    Staged (Fields shape need) (readMembers shape) {} (stage shape need) where
  stage_self := stage_self
  read_nil _ := rfl
  -- each field takes its own member, and any other member is skipped
  turn given distinct key value keys doc rest hmem hall hkeys hold := by
    by_cases hname : key = "name"
    · subst hname
      obtain rfl := given.name.written_of_mem distinct hmem
      simp [readMembers, stage, decodes_text _ _ hold, ok_bind, once_reached hall hkeys,
        reached_cons_of_ne hshape.symm]
    by_cases hfield : key = shape.field
    · subst hfield
      obtain rfl := given.constraint.written_of_mem distinct hmem
      simp [readMembers, stage, decodes_text _ _ hold, ok_bind, once_reached hall hkeys, hshape,
        reached_cons_of_ne]
    · simp [readMembers, stage, ok_bind, hold.skip, hname, hfield, reached_cons_of_ne]

theorem Written.decodes (hshape : shape.field ≠ "name") {j : Json}
    (written : need.Written shape j) : Decodes (ofDocument shape) j need := by
  intro d holds
  obtain ⟨level, docs, members, rfl, shallow, given, hread⟩ :=
    (staged hshape need).read_record written holds
  rw [ofDocument, shallow, ok_bind, hread, ok_bind]
  exact finish_stage (given.name.mem_or.resolve_right id) given.constraint.mem_or

theorem written_toJson (hshape : shape.field ≠ "name") :
    need.Written shape (need.toJson shape.field) := by
  have hperm := Entries.foldl_insert_perm
    [("name", Json.text need.name), (shape.field, .text need.constraint)] [] (by simp [hshape.symm])
  refine .object ((hperm.map Prod.fst).nodup_iff.mpr (by simp [hshape.symm])) ⟨?_, ?_⟩
  · exact .inl ⟨_, hperm.mem_iff.mpr (by simp), rfl⟩
  · exact .inl ⟨_, hperm.mem_iff.mpr (by simp), rfl⟩

end Need

namespace Require

variable {r : Require}

structure Fields (r : Require) (members : List (String × Json)) : Prop where
  plugins : Gives members "plugins" (Each (Need.Written pluginShape) r.plugins) (r.plugins = [])
  mods : Gives members "mods" (Each (Need.Written modShape) r.mods) (r.mods = [])

def Written (r : Require) : Json → Prop := Record r.Fields

def stage (r : Require) (all keys : List String) : Draft where
  plugins := reached all keys "plugins" r.plugins
  mods := reached all keys "mods" r.mods

theorem stage_self (all : List String) : r.stage all all = {} := by
  simp only [stage, reached_self]

theorem finish_stage {all : List String} (hplugins : "plugins" ∈ all ∨ r.plugins = [])
    (hmods : "mods" ∈ all ∨ r.mods = []) : (r.stage all []).finish = r := by
  simp only [Draft.finish, stage, getD_reached hplugins, getD_reached hmods]

theorem decodes_plugins {needs : List Need} {j : Json}
    (h : Each (Need.Written pluginShape) needs j) : Decodes plugins? j needs :=
  h.decodes fun _ _ => Need.Written.decodes (by decide)

theorem decodes_mods {needs : List Need} {j : Json}
    (h : Each (Need.Written modShape) needs j) : Decodes mods? j needs :=
  h.decodes fun _ _ => Need.Written.decodes (by decide)

theorem staged (r : Require) : Staged r.Fields readMembers {} r.stage where
  stage_self := stage_self
  read_nil _ := rfl
  turn given distinct key value keys doc rest hmem hall hkeys hold := by
    by_cases hplugins : key = "plugins"
    · subst hplugins
      have hvalue := decodes_plugins (given.plugins.written_of_mem distinct hmem) _ hold
      simp [readMembers, stage, hvalue, ok_bind, once_reached hall hkeys, reached_cons_of_ne]
    by_cases hmods : key = "mods"
    · subst hmods
      have hvalue := decodes_mods (given.mods.written_of_mem distinct hmem) _ hold
      simp [readMembers, stage, hvalue, ok_bind, once_reached hall hkeys, reached_cons_of_ne]
    · simp [readMembers, stage, ok_bind, hold.skip, hplugins, hmods, reached_cons_of_ne]

theorem Written.decodes {j : Json} (written : r.Written j) : Decodes ofDocument j r := by
  intro d holds
  obtain ⟨level, docs, members, rfl, shallow, given, hread⟩ := r.staged.read_record written holds
  rw [ofDocument, shallow, ok_bind, hread, ok_bind, finish_stage given.plugins.mem_or
    given.mods.mem_or]
  rfl

theorem written_toJson : r.Written r.toJson := by
  refine .object (by simp) ⟨.inl ⟨_, .tail _ (.head _), ⟨?_⟩⟩, .inl ⟨_, .head _, ⟨?_⟩⟩⟩
  · exact List.forall₂_map_right_iff.mpr (List.forall₂_same.mpr fun _ _ =>
      Need.written_toJson (by decide))
  · exact List.forall₂_map_right_iff.mpr (List.forall₂_same.mpr fun _ _ =>
      Need.written_toJson (by decide))

end Require

namespace Mod

/-- Everything but the name may be left out where it is empty. What the children may be written as
is a parameter. -/
structure Fields (m : Mod) (children : Json → Prop) (members : List (String × Json)) : Prop where
  name : Gives members "name" (· = .text m.name) False
  dependencyName : Gives members "dependency_name" (· = .text m.dependencyName)
    (m.dependencyName = "")
  version : Gives members "version" (· = ofText? m.version) (m.version = none)
  require : Gives members "require" m.require.Written (m.require = {})
  mods : Gives members "mods" children (m.mods = [])

mutual

def Written : Mod → Json → Prop
  | ⟨name, dependencyName, version, require, mods⟩ =>
    Record (Fields ⟨name, dependencyName, version, require, mods⟩ (AnyOrder (AllWritten mods)))

def AllWritten : List (String × Mod) → List (String × Json) → Prop
  | [], [] => True
  | (key, child) :: mods, (key', value) :: values =>
    key' = key ∧ child.Written value ∧ AllWritten mods values
  | _, _ => False

end

def stage (m : Mod) (all keys : List String) : Draft where
  name := reached all keys "name" m.name
  dependencyName := reached all keys "dependency_name" m.dependencyName
  version := reached all keys "version" m.version
  require := reached all keys "require" m.require
  mods := reached all keys "mods" m.mods

theorem stage_self (m : Mod) (all : List String) : m.stage all all = {} := by
  simp only [stage, reached_self]

theorem finish_stage (m : Mod) {all : List String} (hname : "name" ∈ all)
    (hdependencyName : "dependency_name" ∈ all ∨ m.dependencyName = "")
    (hversion : "version" ∈ all ∨ m.version = none) (hrequire : "require" ∈ all ∨ m.require = {})
    (hmods : "mods" ∈ all ∨ m.mods = []) : (m.stage all []).finish = .ok m := by
  rw [Draft.finish, stage, reached_of_mem hname List.not_mem_nil]
  simp only [required, ok_bind, getD_reached hdependencyName, getD_reached hversion,
    getD_reached hrequire, getD_reached hmods]
  cases m
  rfl

theorem staged (m : Mod) {children : Json → Prop}
    (hchildren : ∀ j, children j → Decodes childrenOf j m.mods) :
    Staged (m.Fields children) readMembers {} m.stage where
  stage_self := m.stage_self
  read_nil _ := by rw [readMembers]
  turn given distinct key value keys doc rest hmem hall hkeys hold := by
    by_cases hname : key = "name"
    · subst hname
      obtain rfl := given.name.written_of_mem distinct hmem
      simp [readMembers, stage, decodes_text _ _ hold, ok_bind, once_reached hall hkeys,
        reached_cons_of_ne]
    by_cases hdependencyName : key = "dependency_name"
    · subst hdependencyName
      obtain rfl := given.dependencyName.written_of_mem distinct hmem
      simp [readMembers, stage, decodes_text _ _ hold, ok_bind, once_reached hall hkeys,
        reached_cons_of_ne]
    by_cases hversion : key = "version"
    · subst hversion
      obtain rfl := given.version.written_of_mem distinct hmem
      simp [readMembers, stage, decodes_text? _ _ hold, ok_bind, once_reached hall hkeys,
        reached_cons_of_ne]
    by_cases hrequire : key = "require"
    · subst hrequire
      have hvalue := (given.require.written_of_mem distinct hmem).decodes _ hold
      simp [readMembers, stage, hvalue, ok_bind, once_reached hall hkeys, reached_cons_of_ne]
    by_cases hmods : key = "mods"
    · subst hmods
      have hvalue := hchildren _ (given.mods.written_of_mem distinct hmem) _ hold
      simp [readMembers, stage, hvalue, ok_bind, once_reached hall hkeys, reached_cons_of_ne]
    · simp [readMembers, stage, ok_bind, hold.skip, hname, hdependencyName, hversion, hrequire,
        hmods, reached_cons_of_ne]

theorem decodes_of_fields (m : Mod) {children : Json → Prop}
    (hchildren : ∀ j, children j → Decodes childrenOf j m.mods) {j : Json}
    (record : Record (m.Fields children) j) : Decodes ofDocument j m := by
  intro d holds
  obtain ⟨level, docs, members, rfl, shallow, given, hread⟩ :=
    (m.staged hchildren).read_record record holds
  rw [ofDocument, shallow, ok_bind, hread, ok_bind]
  exact m.finish_stage (given.name.mem_or.resolve_right id) given.dependencyName.mem_or
    given.version.mem_or given.require.mem_or given.mods.mem_or

theorem readChildren_of_decodesAll {members : List (String × Json)} {mods : List (String × Mod)}
    (h : DecodesAll ofDocument members mods) {docs : List (Except Fault String × Document)}
    (holds : HoldMembers docs members) (read : List (String × Mod)) :
    readChildren read docs = .ok (mods.foldl (fun read e => Entries.insert e.1 e.2 read) read) := by
  induction h generalizing docs read with
  | nil =>
    cases holds
    rw [readChildren]
    rfl
  | @cons _ e _ _ hdecode _ ih =>
    obtain ⟨key, child⟩ := e
    cases holds with
    | cons hold holds =>
      obtain ⟨rfl, hdecode⟩ := hdecode
      rw [readChildren, ok_bind, hdecode _ hold, ok_bind, ih holds]
      rfl

theorem decodes_children {mods : List (String × Mod)} (ascending : Entries.Ascending mods)
    {given : List (String × Json) → Prop}
    (hdecode : ∀ members, given members → DecodesAll ofDocument members mods) (j : Json)
    (h : AnyOrder given j) : Decodes childrenOf j mods := by
  obtain ⟨perm, given⟩ := h
  obtain ⟨children, hchildren, hperm⟩ := (hdecode _ given).exists_perm perm
  intro d holds
  cases holds with
  | object shallow holds =>
    rw [childrenOf, shallow, ok_bind, readChildren_of_decodesAll hchildren holds,
      Entries.foldl_insert_of_perm hperm ascending]

mutual

theorem Written.decodes : {m : Mod} → m.Ordered → {j : Json} → m.Written j → Decodes ofDocument j m
  | ⟨_, _, _, _, _⟩, ⟨ascending, ordered⟩, _, written =>
    decodes_of_fields _ (decodes_children ascending fun _ => AllWritten.decodesAll ordered) written

theorem AllWritten.decodesAll : {mods : List (String × Mod)} → AllOrdered mods →
    {members : List (String × Json)} → AllWritten mods members → DecodesAll ofDocument members mods
  | [], _, [], _ => .nil
  | _ :: _, ⟨ordered, allOrdered⟩, _ :: _, ⟨hkey, written, allWritten⟩ =>
    .cons ⟨hkey, written.decodes ordered⟩ (allWritten.decodesAll allOrdered)

end

theorem written_of_name {name : String} {members : List (String × Json)}
    (distinct : (members.map Prod.fst).Nodup) (hname : ("name", .text name) ∈ members)
    (hothers : ∀ field ∈ ["dependency_name", "version", "require", "mods"],
      field ∉ members.map Prod.fst) : Written { name } (.object members) :=
  .object distinct {
    name := .inl ⟨_, hname, rfl⟩
    dependencyName := .inr ⟨rfl, hothers _ (by decide)⟩
    version := .inr ⟨rfl, hothers _ (by decide)⟩
    require := .inr ⟨rfl, hothers _ (by decide)⟩
    mods := .inr ⟨rfl, hothers _ (by decide)⟩ }

mutual

theorem written_toJson : (m : Mod) → m.Written m.toJson
  | ⟨_, _, version, _, mods⟩ => by
    have hchildren := allWritten_childrenToJson mods
    unfold toJson
    refine .object (by cases version <;> simp) {
      name := .inl ⟨_, by simp, rfl⟩
      dependencyName := .inl ⟨_, .head _, rfl⟩
      version := ?_
      require := .inl ⟨_, by simp, Require.written_toJson⟩
      mods := .inl ⟨_, by simp, .object (.refl _) hchildren⟩ }
    cases version with
    | none => exact .inr ⟨rfl, by simp⟩
    | some v => exact .inl ⟨.text v, by simp, rfl⟩

theorem allWritten_childrenToJson : (mods : List (String × Mod)) →
    AllWritten mods (childrenToJson mods)
  | [] => trivial
  | (_, child) :: mods => ⟨rfl, child.written_toJson, allWritten_childrenToJson mods⟩

end

end Mod

namespace Lock

def TableWritten (t : Table String) : Json → Prop :=
  AnyOrder (· = t.entries.map fun (key, value) => (key, .text value))

structure Fields (l : Lock) (members : List (String × Json)) : Prop where
  mods : Gives members "mods" (TableWritten l.mods) (l.mods = .empty)
  plugins : Gives members "plugins" (TableWritten l.plugins) (l.plugins = .empty)

def Written (l : Lock) : Json → Prop := Record l.Fields

def stage (l : Lock) (all keys : List String) : Draft where
  mods := reached all keys "mods" l.mods
  plugins := reached all keys "plugins" l.plugins

theorem stage_self (l : Lock) (all : List String) : l.stage all all = {} := by
  simp only [stage, reached_self]

theorem finish_stage (l : Lock) {all : List String} (hmods : "mods" ∈ all ∨ l.mods = .empty)
    (hplugins : "plugins" ∈ all ∨ l.plugins = .empty) : (l.stage all []).finish = l := by
  simp only [Draft.finish, stage, getD_reached hmods, getD_reached hplugins]

theorem decodes_versions {t : Table String} {j : Json} (written : TableWritten t j) :
    Decodes versions j t :=
  written.decodes fun _ hmembers => by
    rw [hmembers]
    exact List.forall₂_map_left_iff.mpr (List.forall₂_same.mpr fun e _ => ⟨rfl, decodes_text e.2⟩)

theorem staged (l : Lock) : Staged l.Fields readMembers {} l.stage where
  stage_self := l.stage_self
  read_nil _ := rfl
  turn given distinct key value keys doc rest hmem hall hkeys hold := by
    by_cases hmods : key = "mods"
    · subst hmods
      have hvalue := decodes_versions (given.mods.written_of_mem distinct hmem) _ hold
      simp [readMembers, stage, hvalue, ok_bind, once_reached hall hkeys, reached_cons_of_ne]
    by_cases hplugins : key = "plugins"
    · subst hplugins
      have hvalue := decodes_versions (given.plugins.written_of_mem distinct hmem) _ hold
      simp [readMembers, stage, hvalue, ok_bind, once_reached hall hkeys, reached_cons_of_ne]
    · simp [readMembers, stage, ok_bind, hold.skip, hmods, hplugins, reached_cons_of_ne]

theorem Written.decodes {l : Lock} {j : Json} (written : l.Written j) : Decodes ofDocument j l := by
  intro d holds
  obtain ⟨level, docs, members, rfl, shallow, given, hread⟩ := l.staged.read_record written holds
  rw [ofDocument, shallow, ok_bind, hread, ok_bind, l.finish_stage given.mods.mem_or
    given.plugins.mem_or]
  rfl

theorem written_toJson (l : Lock) : l.Written l.toJson :=
  .object (by simp) ⟨.inl ⟨_, .head _, .object (.refl _) rfl⟩,
    .inl ⟨_, .tail _ (.head _), .object (.refl _) rfl⟩⟩

def OptionWritten : Option Lock → Json → Prop
  | some l => l.Written
  | none => (· = .null)

theorem OptionWritten.decodes {lock : Option Lock} {j : Json} (written : OptionWritten lock j) :
    Decodes ofDocument? j lock := by
  intro d holds
  cases lock with
  | none =>
    obtain rfl : j = .null := written
    cases holds
    rfl
  | some l =>
    have hlock := Written.decodes written d holds
    cases written
    cases holds
    rw [ofDocument?, hlock]
    · rfl
    · intro h
      cases h

end Lock

namespace Manifest

structure Fields (manifest : Manifest) (members : List (String × Json)) : Prop where
  root : Gives members "mod" manifest.root.Written False
  lock : Gives members "lock" (Lock.OptionWritten manifest.lock) (manifest.lock = none)

def Written (manifest : Manifest) : Json → Prop := Record manifest.Fields

def stage (manifest : Manifest) (all keys : List String) : Draft where
  root := reached all keys "mod" manifest.root
  lock := reached all keys "lock" manifest.lock

theorem stage_self (manifest : Manifest) (all : List String) : manifest.stage all all = {} := by
  simp only [stage, reached_self]

theorem finish_stage (manifest : Manifest) {all : List String} (hroot : "mod" ∈ all)
    (hlock : "lock" ∈ all ∨ manifest.lock = none) :
    (manifest.stage all []).finish = .ok manifest := by
  rw [Draft.finish, stage, reached_of_mem hroot List.not_mem_nil]
  simp only [required, ok_bind, getD_reached hlock]
  rfl

theorem staged {manifest : Manifest} (ordered : manifest.root.Ordered) :
    Staged manifest.Fields readMembers {} manifest.stage where
  stage_self := manifest.stage_self
  read_nil _ := rfl
  turn given distinct key value keys doc rest hmem hall hkeys hold := by
    by_cases hroot : key = "mod"
    · subst hroot
      have hvalue := (given.root.written_of_mem distinct hmem).decodes ordered _ hold
      simp [readMembers, stage, hvalue, ok_bind, once_reached hall hkeys, reached_cons_of_ne]
    by_cases hlock : key = "lock"
    · subst hlock
      have hvalue := (given.lock.written_of_mem distinct hmem).decodes _ hold
      simp [readMembers, stage, hvalue, ok_bind, once_reached hall hkeys, reached_cons_of_ne]
    · simp [readMembers, stage, ok_bind, hold.skip, hroot, hlock, reached_cons_of_ne]

theorem Written.decodes {manifest : Manifest} (ordered : manifest.root.Ordered) {j : Json}
    (written : manifest.Written j) : Decodes ofDocument j manifest := by
  intro d holds
  obtain ⟨level, docs, members, rfl, shallow, given, hread⟩ :=
    (staged ordered).read_record written holds
  rw [ofDocument, shallow, ok_bind, hread, ok_bind]
  exact manifest.finish_stage (given.root.mem_or.resolve_right id) given.lock.mem_or

def toJson (manifest : Manifest) : Json :=
  .object [("lock", (manifest.lock.map Lock.toJson).getD .null), ("mod", manifest.root.toJson)]

theorem written_toJson (manifest : Manifest) : manifest.Written manifest.toJson := by
  refine .object (by simp) ⟨.inl ⟨_, .tail _ (.head _), manifest.root.written_toJson⟩,
    .inl ⟨_, .head _, ?_⟩⟩
  cases manifest.lock with
  | none => exact rfl
  | some l => exact l.written_toJson

theorem textOf_toUTF8 (text : String) : textOf (.ok text.toUTF8) = .ok text := by
  have h : String.fromUTF8? text.toUTF8 = some text := by
    rw [String.fromUTF8?, String.toUTF8_eq_toByteArray, dif_pos text.isValidUTF8]
    rfl
  simp only [textOf, ok_bind, h]

theorem ofManifest_of_reads {manifest : Manifest} {text : String} {j : Json}
    (ordered : manifest.root.Ordered) (written : manifest.Written j) (reads : Reads text j)
    (path : String) : Workspace.ofManifest path (.ok text.toUTF8) = .ok {
      path := (Path.parent? path).getD ""
      root := manifest.root
      lock := manifest.lock } := by
  have hparse : parse text = .ok manifest := (written.decodes ordered).of_reads reads
  simp only [Workspace.ofManifest, textOf_toUTF8, mapError_ok, ok_bind, hparse]
  rfl

/-- Mods, locks and manifests are read as what they were written as, be it in full, or with fields
left out and others added at any level; and the workspace of a manifest has its mod and its lock. -/
theorem written_reads_back (m : Mod) (ordered : m.Ordered) :
    (m.Written m.toJson ∧ ∀ j, m.Written j → Mod.ofJson j = .ok m) ∧
    (∀ l : Lock, l.Written l.toJson ∧ ∀ j, l.Written j → Lock.ofDocument (ofJson j) = .ok l) ∧
    ∀ lock : Option Lock, Written ⟨m, lock⟩ (toJson ⟨m, lock⟩) ∧
      (lock = none → Written ⟨m, lock⟩ (.object [("mod", m.toJson)])) ∧
      ∀ j, Written ⟨m, lock⟩ j → ofDocument (ofJson j) = .ok ⟨m, lock⟩ ∧
        ∀ text path, Reads text j → ∃ w, Workspace.ofManifest path (.ok text.toUTF8) = .ok w ∧
          w.root = m ∧ w.lock = lock ∧
          w.pluginVersions = (lock.map Lock.plugins).getD .empty := by
  refine ⟨⟨m.written_toJson, ?mod⟩, fun l => ⟨l.written_toJson, ?lock⟩,
    fun lock => ⟨written_toJson _, ?absent, fun j written => ⟨?manifest, ?workspace⟩⟩⟩
  case mod =>
    intro j written
    exact written.decodes ordered _ (holds_ofJson j)
  case lock =>
    intro j written
    exact written.decodes _ (holds_ofJson j)
  case absent =>
    intro hlock
    exact .object (by simp) ⟨.inl ⟨_, .head _, m.written_toJson⟩, .inr ⟨hlock, by simp⟩⟩
  case manifest => exact written.decodes ordered _ (holds_ofJson j)
  case workspace =>
    intro text path reads
    refine ⟨_, ofManifest_of_reads ordered written reads path, rfl, rfl, ?_⟩
    cases lock <;> rfl

/-- Its children stand under the empty key and under the one that loading adds. -/
def sample : Manifest where
  root := {
    name := "root"
    version := some "1.0"
    require := { plugins := [⟨"aws", "0.100"⟩] }
    mods := [("", { name := "blank" }), ("local", { name := "root" })] }
  lock := some { plugins := ⟨[("aws", "0.101.0")], by decide⟩ }

def sampleJson : Json :=
  .object [
    ("mod", .object [
      ("tags", .list [.boolean true]),
      ("mods", .object [
        ("local", .object [("name", .text "root")]), ("", .object [("name", .text "blank")])]),
      ("name", .text "root"),
      ("version", .text "1.0"),
      ("require", .object [("plugins", .list [.object [
        ("os", .null), ("name", .text "aws"), ("min_version", .text "0.100")]])])]),
    ("lock", .object [("plugins", .object [("aws", .text "0.101.0")])])]

def bareText : String := "\x7b\"mod\":\x7b\"tags\":[],\"name\":\"net\"\x7d,\"lock\":null\x7d"

def bareJson : Json :=
  .object [("mod", .object [("tags", .list []), ("name", .text "net")]), ("lock", .null)]

theorem reads_bareText : Reads bareText bareJson := by
  refine ⟨.table (some 1) [
    (.ok "mod", .table (some 2) [(.ok "tags", .list (some 3) []), (.ok "name", .text (.ok "net"))]),
    (.ok "lock", .null)], [], ?_, ?_, rfl⟩
  · simp [bareText, readDocument, readValue, Json.readItems, Json.readMembers, readMember, readWord,
      readText, readLiteral, Content.push, Content.finish, skipSpace, isSpace, Partial.after]
  · repeat constructor

theorem written_sampleJson : sample.Written sampleJson := by
  have hneed : Need.Written pluginShape ⟨"aws", "0.100"⟩
      (.object [("os", .null), ("name", .text "aws"), ("min_version", .text "0.100")]) :=
    .object (by simp) {
      name := .inl ⟨.text "aws", by simp, rfl⟩
      constraint := .inl ⟨.text "0.100", by simp [pluginShape], rfl⟩ }
  have hchild (name : String) : Mod.Written { name } (.object [("name", .text name)]) :=
    Mod.written_of_name (by simp) (by simp) (by simp)
  refine .object (by simp) {
    root := .inl ⟨_, .head _, .object (by simp) {
      name := .inl ⟨.text "root", by simp, rfl⟩
      dependencyName := .inr ⟨rfl, by simp⟩
      version := .inl ⟨.text "1.0", by simp, rfl⟩
      require := .inl ⟨_, .tail _ (.tail _ (.tail _ (.tail _ (.head _)))), .object (by simp) {
        plugins := .inl ⟨_, .head _, .list (.cons hneed .nil)⟩
        mods := .inr ⟨rfl, by simp⟩ }⟩
      mods := .inl ⟨_, .tail _ (.head _), .object (.swap _ _ _)
        ⟨rfl, hchild "blank", rfl, hchild "root", trivial⟩⟩ }⟩
    lock := .inl ⟨_, .tail _ (.head _), .object (by simp) {
      mods := .inr ⟨rfl, by simp⟩
      plugins := .inl ⟨_, .head _, .object (.refl _) rfl⟩ }⟩ }

theorem written_bareJson : Written ⟨{ name := "net" }, none⟩ bareJson :=
  .object (by simp) {
    root := .inl ⟨_, .head _, Mod.written_of_name (by simp) (by simp) (by simp)⟩
    lock := .inl ⟨_, .tail _ (.head _), rfl⟩ }

theorem sample_reads_back :
    sample.root.Ordered ∧ Mod.ofJson sample.root.toJson = .ok sample.root ∧
    sample.Written sampleJson ∧ ofDocument (ofJson sampleJson) = .ok sample ∧
    Reads bareText bareJson ∧
    ∃ w, Workspace.ofManifest "net/mod.json" (.ok bareText.toUTF8) = .ok w ∧
      w.root = { name := "net" } ∧ w.lock = none ∧ w.pluginVersions = .empty := by
  have ordered : sample.root.Ordered := by decide
  obtain ⟨⟨hwritten, hmod⟩, -, hmanifest⟩ := written_reads_back sample.root ordered
  obtain ⟨-, -, hvalue⟩ := hmanifest sample.lock
  obtain ⟨-, -, hmanifest⟩ := written_reads_back { name := "net" } (by decide)
  obtain ⟨-, -, hbare⟩ := hmanifest none
  obtain ⟨-, hworkspace⟩ := hbare bareJson written_bareJson
  exact ⟨ordered, hmod _ hwritten, written_sampleJson, (hvalue _ written_sampleJson).1,
    reads_bareText, hworkspace bareText "net/mod.json" reads_bareText⟩

end Manifest

end WorkspaceSession
