/-! Tables keyed by text, in ascending order of their keys. The operations on plain entry lists
serve the trees that nest such tables; `Table` carries the order as a proof. -/
namespace WorkspaceSession

namespace Entries

def Ascending (es : List (String × α)) : Prop := es.Pairwise fun a b => a.1 < b.1

instance (es : List (String × α)) : Decidable (Ascending es) := by
  unfold Ascending; infer_instance

/-- Puts an entry in its place; an entry of the same key is replaced. -/
def insert (k : String) (v : α) : List (String × α) → List (String × α)
  | [] => [(k, v)]
  | (l, w) :: rest =>
    if k < l then (k, v) :: (l, w) :: rest
    else if k = l then (k, v) :: rest
    else (l, w) :: insert k v rest

theorem mem_insert {k : String} {v : α} {e : String × α} :
    {es : List (String × α)} → e ∈ insert k v es → e = (k, v) ∨ e ∈ es
  | [], h => by simp_all [insert]
  | (l, w) :: rest, h => by
    simp only [insert] at h
    split at h
    · simpa using h
    · split at h
      · simp only [List.mem_cons] at h ⊢
        exact h.imp_right .inr
      · simp only [List.mem_cons] at h ⊢
        rcases h with h | h
        · exact .inr (.inl h)
        · exact (mem_insert h).imp_right .inr

theorem Ascending.insert {k : String} {v : α} :
    {es : List (String × α)} → Ascending es → Ascending (Entries.insert k v es)
  | [], _ => by simp [Entries.insert, Ascending]
  | (l, w) :: rest, h => by
    have ⟨hl, hr⟩ := List.pairwise_cons.1 h
    simp only [Entries.insert]
    split
    · next hk =>
      refine List.pairwise_cons.2 ⟨fun e he => ?_, h⟩
      rcases List.mem_cons.1 he with rfl | he
      · exact hk
      · exact String.lt_trans hk (hl e he)
    · next hk =>
      split
      · next he =>
        subst he
        exact List.pairwise_cons.2 ⟨hl, hr⟩
      · next he =>
        refine List.pairwise_cons.2 ⟨fun e hm => ?_, Ascending.insert hr⟩
        rcases mem_insert hm with rfl | hm
        · show l < k
          grind
        · exact hl e hm

def find? (k : String) : List (String × α) → Option α
  | [] => none
  | (l, w) :: rest => if k = l then some w else find? k rest

@[simp] theorem find?_insert (k l : String) (v : α) (es : List (String × α)) :
    find? l (insert k v es) = if l = k then some v else find? l es := by
  induction es with
  | nil => simp [insert, find?]
  | cons e rest ih =>
    obtain ⟨m, w⟩ := e
    simp only [insert]
    split
    · simp [find?]
    · split
      · next h => subst h; simp only [find?]; split <;> simp_all
      · next h =>
        simp only [find?, ih]
        split
        · next hm => subst hm; simp [Ne.symm h]
        · rfl

theorem isSome_find?_iff {k : String} {es : List (String × α)} :
    (find? k es).isSome = true ↔ k ∈ es.map Prod.fst := by
  induction es with
  | nil => simp [find?]
  | cons e rest ih =>
    obtain ⟨l, w⟩ := e
    rw [List.map_cons, List.mem_cons, ← ih]
    simp only [find?]
    split
    · next h => simp [h]
    · next h => simp [h]

theorem mem_keys_insert {k l : String} {v : α} {es : List (String × α)} :
    l ∈ (insert k v es).map Prod.fst ↔ l = k ∨ l ∈ es.map Prod.fst := by
  rw [← isSome_find?_iff, ← isSome_find?_iff, find?_insert]
  split
  · next h => simp [h]
  · next h => simp [h]

theorem insert_perm {key : String} {value : α} {es : List (String × α)}
    (hkey : key ∉ es.map Prod.fst) : (insert key value es).Perm ((key, value) :: es) := by
  induction es with
  | nil => exact .refl _
  | cons e rest ih =>
    rw [List.map_cons, List.mem_cons, not_or] at hkey
    obtain ⟨hne, hrest⟩ := hkey
    simp only [insert, if_neg hne]
    split
    · exact .refl _
    · exact ((ih hrest).cons e).trans (.swap _ _ _)

theorem foldl_insert_perm (es read : List (String × α))
    (hkeys : ((read ++ es).map Prod.fst).Nodup) :
    (es.foldl (fun read e => insert e.1 e.2 read) read).Perm (read ++ es) := by
  induction es generalizing read with
  | nil => rw [List.append_nil]; exact .refl _
  | cons e es ih =>
    have hmiddle : (read ++ e :: es).Perm (e :: read ++ es) := List.perm_middle
    have hkeys' := (hmiddle.map Prod.fst).nodup hkeys
    have hinsert : (insert e.1 e.2 read ++ es).Perm (e :: read ++ es) := by
      refine (insert_perm ?_).append_right es
      rw [List.cons_append, List.map_cons, List.nodup_cons, List.map_append, List.mem_append,
        not_or] at hkeys'
      exact hkeys'.1.1
    rw [List.foldl_cons]
    exact (ih _ ((hinsert.map Prod.fst).symm.nodup hkeys')).trans (hinsert.trans hmiddle.symm)

theorem ascending_foldl_insert (es read : List (String × α)) (hread : Ascending read) :
    Ascending (es.foldl (fun read e => insert e.1 e.2 read) read) := by
  induction es generalizing read with
  | nil => exact hread
  | cons e es ih => exact ih _ hread.insert

theorem Ascending.nodup {es : List (String × α)} (h : Ascending es) :
    (es.map Prod.fst).Nodup := by
  have hne : es.Pairwise fun a b => a.1 ≠ b.1 := h.imp fun hlt heq => by
    rw [heq] at hlt
    exact String.lt_irrefl _ hlt
  exact List.pairwise_map.mpr hne

theorem foldl_insert_of_perm {es sorted : List (String × α)} (hperm : es.Perm sorted)
    (hsorted : Ascending sorted) : es.foldl (fun read e => insert e.1 e.2 read) [] = sorted := by
  have hkeys : (([] ++ es).map Prod.fst).Nodup := (hperm.map Prod.fst).symm.nodup hsorted.nodup
  refine ((foldl_insert_perm es [] hkeys).trans hperm).eq_of_pairwise ?_
    (ascending_foldl_insert es [] .nil) hsorted
  intro a b _ _ hab hba
  exact absurd hba (String.lt_asymm hab)

end Entries

structure Table (α : Type) where
  entries : List (String × α)
  ascending : Entries.Ascending entries := by decide

namespace Table

def empty : Table α := ⟨[], List.Pairwise.nil⟩

instance : EmptyCollection (Table α) := ⟨empty⟩
instance : Inhabited (Table α) := ⟨empty⟩

def insert (t : Table α) (k : String) (v : α) : Table α :=
  ⟨Entries.insert k v t.entries, t.ascending.insert⟩

def get? (t : Table α) (k : String) : Option α := Entries.find? k t.entries

def contains (t : Table α) (k : String) : Bool := (t.get? k).isSome

/-- Of entries with the same key the last one stays. -/
def ofList (es : List (String × α)) : Table α :=
  es.foldl (fun t e => t.insert e.1 e.2) empty

@[simp] theorem get?_empty (k : String) : (empty : Table α).get? k = none := rfl

@[simp] theorem get?_insert (t : Table α) (k l : String) (v : α) :
    (t.insert k v).get? l = if l = k then some v else t.get? l :=
  Entries.find?_insert k l v t.entries

theorem mem_keys_foldl_insert {k : String} (es : List (String × α)) (t : Table α) :
    k ∈ (es.foldl (fun t e => t.insert e.1 e.2) t).entries.map Prod.fst ↔
      k ∈ t.entries.map Prod.fst ∨ k ∈ es.map Prod.fst := by
  induction es generalizing t with
  | nil => simp
  | cons e es ih =>
    rw [List.foldl_cons, ih, List.map_cons, List.mem_cons]
    unfold insert
    rw [Entries.mem_keys_insert, or_assoc, or_left_comm]

theorem mem_keys_ofList {k : String} {es : List (String × α)} :
    k ∈ (ofList es).entries.map Prod.fst ↔ k ∈ es.map Prod.fst := by
  unfold ofList
  rw [mem_keys_foldl_insert]
  simp [empty]

theorem keys_pairwise (t : Table α) : (t.entries.map Prod.fst).Pairwise (· < ·) :=
  List.pairwise_map.mpr t.ascending

theorem eq_of_entries {t u : Table α} (h : t.entries = u.entries) : t = u := by
  cases t
  cases u
  subst h
  rfl

theorem entries_foldl_insert (es : List (String × α)) (t : Table α) :
    (es.foldl (fun t e => t.insert e.1 e.2) t).entries =
      es.foldl (fun es e => Entries.insert e.1 e.2 es) t.entries := by
  induction es generalizing t with
  | nil => rfl
  | cons e es ih => exact ih _

theorem foldl_insert_of_perm {es : List (String × α)} {t : Table α} (hperm : es.Perm t.entries) :
    es.foldl (fun t e => t.insert e.1 e.2) empty = t :=
  eq_of_entries <| (entries_foldl_insert es empty).trans <|
    Entries.foldl_insert_of_perm hperm t.ascending

end Table

end WorkspaceSession
