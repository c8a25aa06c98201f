import Mathlib.Data.List.Nodup
import Mathlib.Data.List.Perm.Basic
import WorkspaceSession.Json.Reader
import WorkspaceSession.Proofs.Fallible

/-! Documents that hold a JSON value, and records read from them. The members of an object may stand
in any order, a member whose name is no field's is passed over, and a field that is left out keeps
its default. -/
namespace WorkspaceSession.Json

namespace Document

mutual

/-- The document has no fault, is nested no deeper than may be, and shows the value. -/
inductive Holds : Document → Json → Prop where
  | null : Holds .null .null
  | boolean (b : Bool) : Holds (.boolean b) (.boolean b)
  | number (n : Number) : Holds (.number (.ok n)) (.number n)
  | text (s : String) : Holds (.text (.ok s)) (.text s)
  | list {level : Option Nat} {items : List Document} {values : List Json}
      (shallow : checkLevel level = .ok ()) (holds : HoldItems items values) :
      Holds (.list level items) (.list values)
  | object {level : Option Nat} {members : List (Except Fault String × Document)}
      {values : List (String × Json)} (shallow : checkLevel level = .ok ())
      (holds : HoldMembers members values) : Holds (.table level members) (.object values)

inductive HoldItems : List Document → List Json → Prop where
  | nil : HoldItems [] []
  | cons {item : Document} {items : List Document} {value : Json} {values : List Json}
      (hold : Holds item value) (holds : HoldItems items values) :
      HoldItems (item :: items) (value :: values)

inductive HoldMembers : List (Except Fault String × Document) → List (String × Json) → Prop where
  | nil : HoldMembers [] []
  | cons {key : String} {doc : Document} {members : List (Except Fault String × Document)}
      {value : Json} {values : List (String × Json)} (hold : Holds doc value)
      (holds : HoldMembers members values) :
      HoldMembers ((.ok key, doc) :: members) ((key, value) :: values)

end

mutual

theorem holds_ofJson : (j : Json) → (ofJson j).Holds j
  | .null => .null
  | .boolean b => .boolean b
  | .number n => .number n
  | .text s => .text s
  | .list items => .list rfl (holds_ofItems items)
  | .object members => .object rfl (holds_ofMembers members)

theorem holds_ofItems : (items : List Json) → HoldItems (ofItems items) items
  | [] => .nil
  | item :: items => .cons (holds_ofJson item) (holds_ofItems items)

theorem holds_ofMembers : (members : List (String × Json)) → HoldMembers (ofMembers members) members
  | [] => .nil
  | (_, value) :: members => .cons (holds_ofJson value) (holds_ofMembers members)

end

mutual

theorem Holds.skip : {d : Document} → {j : Json} → d.Holds j → d.skip = .ok ()
  | _, _, .null | _, _, .boolean _ | _, _, .number _ | _, _, .text _ => rfl
  | _, _, .list _ holds => holds.skip
  | _, _, .object _ holds => holds.skip

theorem HoldItems.skip : {items : List Document} → {values : List Json} →
    HoldItems items values → skipItems items = .ok ()
  | _, _, .nil => rfl
  | _, _, .cons hold holds => by
    rw [skipItems, hold.skip]
    exact holds.skip

theorem HoldMembers.skip : {members : List (Except Fault String × Document)} →
    {values : List (String × Json)} → HoldMembers members values → skipMembers members = .ok ()
  | _, _, .nil => rfl
  | _, _, .cons hold holds => by
    rw [skipMembers, hold.skip]
    exact holds.skip

end

end Document

inductive AnyOrder (given : List (String × Json) → Prop) : Json → Prop where
  | object {members ordered : List (String × Json)} (perm : members.Perm ordered)
      (holds : given ordered) : AnyOrder given (.object members)

inductive Each (written : α → Json → Prop) (xs : List α) : Json → Prop where
  | list {items : List Json} (each : List.Forall₂ written xs items) : Each written xs (.list items)

inductive Record (fields : List (String × Json) → Prop) : Json → Prop where
  | object {members : List (String × Json)} (distinct : (members.map Prod.fst).Nodup)
      (given : fields members) : Record fields (.object members)

/-- The members have one of the name, and it is written so; or they have none of the name, where the
field is idle and may be left out. -/
def Gives (members : List (String × Json)) (name : String) (written : Json → Prop) (idle : Prop) :
    Prop :=
  (∃ value, (name, value) ∈ members ∧ written value) ∨ idle ∧ name ∉ members.map Prod.fst

section

variable {members : List (String × Json)} {name : String} {written : Json → Prop} {idle : Prop}

theorem Gives.mem_or (gives : Gives members name written idle) :
    name ∈ members.map Prod.fst ∨ idle := by
  rcases gives with ⟨value, hmem, -⟩ | ⟨hidle, -⟩
  · exact .inl (List.mem_map_of_mem hmem)
  · exact .inr hidle

theorem Gives.written_of_mem (gives : Gives members name written idle)
    (distinct : (members.map Prod.fst).Nodup) {value : Json} (hmem : (name, value) ∈ members) :
    written value := by
  rcases gives with ⟨value', hmem', hwritten⟩ | ⟨-, hout⟩
  · obtain ⟨-, rfl⟩ := Prod.mk.inj (List.inj_on_of_nodup_map distinct hmem' hmem rfl)
    exact hwritten
  · exact absurd (List.mem_map_of_mem hmem) hout

end

section

variable {all keys : List String} {name key : String} {value : α}

/-- A field of a record of which `keys` are still to be read, out of `all` there are. -/
def reached (all keys : List String) (name : String) (value : α) : Option α :=
  if name ∈ all ∧ name ∉ keys then some value else none

theorem reached_self : reached all all name value = none :=
  if_neg fun h => h.2 h.1

theorem reached_cons_self : reached all (name :: keys) name value = none :=
  if_neg fun h => h.2 List.mem_cons_self

theorem reached_cons_of_ne (hne : key ≠ name) :
    reached all (key :: keys) name value = reached all keys name value := by
  simp [reached, Ne.symm hne]

theorem reached_of_mem (hall : name ∈ all) (hkeys : name ∉ keys) :
    reached all keys name value = some value :=
  if_pos ⟨hall, hkeys⟩

theorem once_reached (hall : name ∈ all) (hkeys : name ∉ keys) :
    Document.once name (reached all (name :: keys) name value) (.ok value) =
      .ok (reached all keys name value) := by
  rw [reached_cons_self, reached_of_mem hall hkeys]
  rfl

theorem getD_reached {idle : α} (h : name ∈ all ∨ value = idle) :
    (reached all [] name value).getD idle = value := by
  unfold reached
  split
  · rfl
  · next hout =>
    rcases h with hall | rfl
    · exact absurd ⟨hall, List.not_mem_nil⟩ hout
    · rfl

end

def Decodes (decode : Document → Except Fault α) (value : Json) (a : α) : Prop :=
  ∀ d : Document, d.Holds value → decode d = .ok a

section

variable {decode : Document → Except Fault α}

theorem decodes_text (s : String) : Decodes Document.asText (.text s) s := by
  intro d holds
  cases holds
  rfl

theorem decodes_text? (s : Option String) : Decodes Document.asText? (ofText? s) s := by
  intro d holds
  cases s <;> cases holds <;> rfl

theorem mapM_of_holdItems {xs : List α} {values : List Json}
    (h : List.Forall₂ (fun x value => Decodes decode value x) xs values) {items : List Document}
    (holds : Document.HoldItems items values) : items.mapM decode = .ok xs := by
  induction h generalizing items with
  | nil =>
    cases holds
    rfl
  | cons hdecode _ ih =>
    cases holds with
    | cons hold holds =>
      rw [List.mapM_cons, hdecode _ hold, ok_bind, ih holds]
      rfl

theorem Each.decodes {written : α → Json → Prop} {xs : List α} {j : Json}
    (h : Each written xs j) (hdecode : ∀ x item, written x item → Decodes decode item x) :
    Decodes (Document.asList decode) j xs := by
  obtain ⟨each⟩ := h
  intro d holds
  cases holds with
  | list shallow holds =>
    rw [Document.asList, shallow, ok_bind]
    exact mapM_of_holdItems (each.imp hdecode) holds

def DecodesAll (decode : Document → Except Fault α) (members : List (String × Json))
    (es : List (String × α)) : Prop :=
  List.Forall₂ (fun member e => member.1 = e.1 ∧ Decodes decode member.2 e.2) members es

theorem DecodesAll.entries {members : List (String × Json)} {es : List (String × α)}
    (h : DecodesAll decode members es) {docs : List (Except Fault String × Document)}
    (holds : Document.HoldMembers docs members) (t : Table α) :
    Document.entries decode t docs = .ok (es.foldl (fun t e => t.insert e.1 e.2) t) := by
  induction h generalizing docs t with
  | nil =>
    cases holds
    rfl
  | @cons _ e _ _ hdecode _ ih =>
    obtain ⟨key, a⟩ := e
    cases holds with
    | cons hold holds =>
      obtain ⟨rfl, hdecode⟩ := hdecode
      rw [Document.entries, ok_bind, hdecode _ hold, ok_bind, ih holds]
      rfl

theorem DecodesAll.exists_perm {members ordered : List (String × Json)} {es : List (String × α)}
    (perm : members.Perm ordered) (h : DecodesAll decode ordered es) :
    ∃ es', DecodesAll decode members es' ∧ es'.Perm es :=
  List.perm_comp_forall₂ perm h

theorem AnyOrder.decodes {given : List (String × Json) → Prop} {j : Json} {t : Table α}
    (h : AnyOrder given j)
    (hdecode : ∀ members, given members → DecodesAll decode members t.entries) :
    Decodes (Document.asTable decode) j t := by
  obtain ⟨perm, given⟩ := h
  obtain ⟨es, hes, hperm⟩ := (hdecode _ given).exists_perm perm
  intro d holds
  cases holds with
  | object shallow holds =>
    rw [Document.asTable, shallow, ok_bind, hes.entries holds, Table.foldl_insert_of_perm hperm]

/-- The text is that of the value, with nothing but white space behind it, and has no fault. -/
def Reads (text : String) (value : Json) : Prop :=
  ∃ d rest, readDocument text.toList = ⟨d, some rest⟩ ∧ d.Holds value ∧ skipSpace rest = []

theorem Decodes.of_reads {value : Json} {a : α} (h : Decodes decode value a) {text : String}
    (reads : Reads text value) : Json.decode decode text = .ok a := by
  obtain ⟨d, rest, hread, holds, hrest⟩ := reads
  simp only [Json.decode, hread, h d holds, ok_bind, Option.map_some, hrest]
  rfl

end

/-- A record is read in stages, which go by the members there are in all and the keys still to come:
every member that the fields allow takes it from one stage to the next. -/
structure Staged {δ : Type} (fields : List (String × Json) → Prop)
    (read : δ → List (Except Fault String × Document) → Except Fault δ) (start : δ)
    (stage : List String → List String → δ) : Prop where
  stage_self : ∀ all, stage all all = start
  read_nil : ∀ d, read d [] = .ok d
  turn : ∀ {members}, fields members → (members.map Prod.fst).Nodup →
    ∀ {key value keys doc rest}, (key, value) ∈ members → key ∈ members.map Prod.fst →
      key ∉ keys → doc.Holds value →
      read (stage (members.map Prod.fst) (key :: keys)) ((.ok key, doc) :: rest) =
        read (stage (members.map Prod.fst) keys) rest

namespace Staged

variable {δ : Type} {fields : List (String × Json) → Prop}
  {read : δ → List (Except Fault String × Document) → Except Fault δ} {start : δ}
  {stage : List String → List String → δ} {members : List (String × Json)}

/-- By induction on the members still to be read, which are among all there are. -/
theorem read_rest (staged : Staged fields read start stage) (given : fields members)
    (distinct : (members.map Prod.fst).Nodup) {rest : List (String × Json)} (hrest : rest ⊆ members)
    (hdistinct : (rest.map Prod.fst).Nodup) {docs : List (Except Fault String × Document)}
    (holds : Document.HoldMembers docs rest) :
    read (stage (members.map Prod.fst) (rest.map Prod.fst)) docs =
      .ok (stage (members.map Prod.fst) []) := by
  induction rest generalizing docs with
  | nil =>
    cases holds
    exact staged.read_nil _
  | cons e rest ih =>
    cases holds with
    | cons hold holds =>
      obtain ⟨hmem, hrest⟩ := List.cons_subset.mp hrest
      rw [List.map_cons, List.nodup_cons] at hdistinct
      obtain ⟨hkey, hdistinct⟩ := hdistinct
      rw [List.map_cons, staged.turn given distinct hmem (List.mem_map_of_mem hmem) hkey hold]
      exact ih hrest hdistinct holds

theorem read_record (staged : Staged fields read start stage) {j : Json} (record : Record fields j)
    {d : Document} (holds : d.Holds j) :
    ∃ level docs members, d = .table level docs ∧ Document.checkLevel level = .ok () ∧
      fields members ∧ read start docs = .ok (stage (members.map Prod.fst) []) := by
  rcases record with @⟨members, distinct, given⟩
  cases holds with
  | object shallow holds =>
    have hread := staged.read_rest given distinct (List.Subset.refl _) distinct holds
    rw [staged.stage_self] at hread
    exact ⟨_, _, members, rfl, shallow, given, hread⟩

end Staged

end WorkspaceSession.Json
