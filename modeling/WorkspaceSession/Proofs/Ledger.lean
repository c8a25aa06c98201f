import WorkspaceSession.Proofs.InitCourse
import WorkspaceSession.Session.Cleanup

/-! Ledgers of what a session was given and what it released. Things are numbered in the order in
which they are given; one at a time is held, and the next one given takes its place. A thing may be
lost as soon as it is given. -/
namespace WorkspaceSession

/-- The things of a kind: all that were given and which of them are lost, the one held, and how
often each was released. -/
structure Ledger (α : Type) where
  given : List α
  lost : α → Bool
  count : Nat
  held : Option (Nat × α)
  released : Nat → Nat

theorem exists_of_latest (first : Nat) (given : List α) (number : Nat) (value : α)
    (h : latest Prod.mk first given = some (number, value)) :
    ∃ i, number = first + i ∧ given[i]? = some value := by
  unfold latest at h
  rw [List.getLast?_eq_getElem?, List.getElem?_zipIdx] at h
  generalize (given.zipIdx first).length - 1 = i at h
  refine ⟨i, ?_⟩
  cases hvalue : given[i]? with
  | none => simp [hvalue] at h
  | some found =>
    simp only [hvalue, Option.map_some, Option.some.injEq, Prod.mk.injEq] at h
    exact ⟨h.1.symm, by rw [h.2]⟩

namespace Ledger

def take (l : Ledger α) (more : List α) : Ledger α :=
  { l with
    given := l.given ++ more
    count := l.count + more.length
    held := ((latest Prod.mk l.count more).filter fun thing => !l.lost thing.2).or l.held }

def free (l : Ledger α) : Ledger α :=
  match l.held with
  | none => l
  | some (number, _) =>
    { l with
      held := none
      released := fun n => l.released n + if n = number then 1 else 0 }

/-- Nothing is released twice or without having been given, and what is held is what was given under
its number, and it is neither lost nor released. -/
structure Sound (l : Ledger α) : Prop where
  counted : l.count = l.given.length
  once : ∀ n, l.released n ≤ 1
  known : ∀ n, l.given.length ≤ n → l.released n = 0
  held : ∀ n value, l.held = some (n, value) →
    l.given[n]? = some value ∧ l.lost value = false ∧ l.released n = 0
  lost : ∀ n value, l.given[n]? = some value → l.lost value = true → l.released n = 0

def Settled (l : Ledger α) : Prop :=
  ∀ n value, l.given[n]? = some value → l.lost value = false →
    l.released n = 1 ∨ ∃ value', l.held = some (n, value')

theorem Sound.take (l : Ledger α) (sound : l.Sound) (more : List α) : (l.take more).Sound where
  counted := by
    simp only [Ledger.take, List.length_append]
    rw [sound.counted]
  once := sound.once
  known := by
    intro n hn
    simp only [Ledger.take, List.length_append] at hn
    apply sound.known
    omega
  held := by
    intro n value hheld
    simp only [Ledger.take] at hheld ⊢
    rcases Option.or_eq_some_iff.mp hheld with hlatest | ⟨-, hheld⟩
    · obtain ⟨hlatest, hkept⟩ := Option.filter_eq_some_iff.mp hlatest
      obtain ⟨i, rfl, hvalue⟩ := exists_of_latest _ _ _ _ hlatest
      rw [sound.counted]
      refine ⟨?_, by simpa using hkept, ?_⟩
      · rw [List.getElem?_append_right (Nat.le_add_right _ _), Nat.add_sub_cancel_left, hvalue]
      · apply sound.known
        omega
    · obtain ⟨hvalue, hkept, hfree⟩ := sound.held n value hheld
      obtain ⟨hn, -⟩ := List.getElem?_eq_some_iff.mp hvalue
      rw [List.getElem?_append_left hn]
      exact ⟨hvalue, hkept, hfree⟩
  lost := by
    intro n value hvalue hlost
    simp only [Ledger.take] at hvalue ⊢
    by_cases hold : n < l.given.length
    · rw [List.getElem?_append_left hold] at hvalue
      exact sound.lost n value hvalue hlost
    · exact sound.known n (by omega)

theorem Sound.free (l : Ledger α) (sound : l.Sound) : l.free.Sound := by
  unfold Ledger.free
  cases hheld : l.held with
  | none => exact sound
  | some pair =>
    obtain ⟨number, value⟩ := pair
    obtain ⟨hvalue, hkept, hfree⟩ := sound.held number value hheld
    obtain ⟨hnumber, -⟩ := List.getElem?_eq_some_iff.mp hvalue
    constructor
    · exact sound.counted
    · intro n
      have honce := sound.once n
      by_cases hn : n = number
      · subst hn
        simp [hfree]
      · simpa [hn] using honce
    · intro n hn
      have hknown := sound.known n hn
      have hne : n ≠ number := by
        intro heq
        simp only at hn
        omega
      simp [hne, hknown]
    · intro n value hnone
      simp at hnone
    · intro n other hother hlost
      have hne : n ≠ number := by
        rintro rfl
        obtain rfl := Option.some.inj (hvalue.symm.trans hother)
        simp only at hlost
        rw [hkept] at hlost
        contradiction
      have hfree := sound.lost n other hother hlost
      simp [hne, hfree]

/-- A ledger with nothing held stays settled when it takes one thing at most. -/
theorem Settled.take (l : Ledger α) (sound : l.Sound) (settled : l.Settled) (more : List α)
    (hheld : l.held = none) (hmore : more.length ≤ 1) : (l.take more).Settled := by
  intro n value hvalue hkept
  simp only [Ledger.take] at hvalue hkept ⊢
  by_cases hold : n < l.given.length
  · left
    rw [List.getElem?_append_left hold] at hvalue
    rcases settled n value hvalue hkept with hreleased | ⟨value', hvalue'⟩
    · exact hreleased
    · rw [hheld] at hvalue'
      contradiction
  · right
    rw [List.getElem?_append_right (Nat.le_of_not_lt hold)] at hvalue
    obtain ⟨hn, -⟩ := List.getElem?_eq_some_iff.mp hvalue
    have hnumber : n = l.count := by
      rw [sound.counted]
      omega
    obtain ⟨only, rfl⟩ : ∃ only, more = [only] := List.length_eq_one_iff.mp (by omega)
    rw [hnumber, sound.counted, Nat.sub_self, List.getElem?_cons_zero] at hvalue
    obtain rfl := Option.some.inj hvalue
    refine ⟨only, ?_⟩
    simp [latest_singleton, Option.filter, hkept, hnumber]

theorem Settled.free (l : Ledger α) (sound : l.Sound) (settled : l.Settled) : l.free.Settled := by
  unfold Ledger.free
  cases hheld : l.held with
  | none => exact settled
  | some pair =>
    obtain ⟨number, value⟩ := pair
    obtain ⟨-, -, hfree⟩ := sound.held number value hheld
    intro n other hother hkept
    left
    rcases settled n other hother hkept with hreleased | ⟨value', hvalue'⟩
    · have hne : n ≠ number := by
        intro heq
        rw [heq] at hreleased
        omega
      simp [hne, hreleased]
    · rw [hheld, Option.some.injEq, Prod.mk.injEq] at hvalue'
      simp [← hvalue'.1, hfree]

theorem Settled.released_eq (l : Ledger α) (sound : l.Sound) (settled : l.Settled)
    (hheld : l.held = none) (n : Nat) (value : α) (hvalue : l.given[n]? = some value) :
    l.released n = if l.lost value then 0 else 1 := by
  cases hlost : l.lost value with
  | true =>
    rw [if_pos rfl]
    exact sound.lost n value hvalue hlost
  | false =>
    rw [if_neg Bool.false_ne_true]
    rcases settled n value hvalue hlost with hreleased | ⟨value', hvalue'⟩
    · exact hreleased
    · rw [hheld] at hvalue'
      contradiction

end Ledger

def ClientSpec.panicsAt (spec : ClientSpec) (moment : Nat) : Bool :=
  match (spec.serverSettings moment).outcome with
  | .error _ => true
  | .ok _ => false

/-- A client as its connect gave it. It is lost where it panics when it is asked about its server,
right after the connect and what the connector had relayed. -/
structure GivenClient where
  spec : ClientSpec
  lost : Bool

def Services.client? (services : Services) (moment : Nat) : Event → Option GivenClient
  | .connect text cancelled options =>
    let connection := services.connect .rendering none moment text cancelled options
    connection.outcome.value?.map fun spec =>
      ⟨spec, spec.panicsAt (moment + 1 + connection.relays.length)⟩
  | _ => none

structure Kind (α : Type) where
  given? : Services → Nat → Event → Option α
  lost : α → Bool
  count : Session → Nat
  held : Session → Option (Nat × α)
  release : Nat → Event
  release_inj : ∀ n m, release n = release m → n = m
  given?_release : ∀ services moment n, given? services moment (release n) = none

namespace Kind

def clients : Kind GivenClient where
  given? := Services.client?
  lost := GivenClient.lost
  count := Session.clients
  held := fun s => s.client.map fun client => (client.number, ⟨client.spec, false⟩)
  release := .clientClose
  release_inj := fun _ _ h => Event.clientClose.inj h
  given?_release := fun _ _ _ => rfl

def hooks : Kind TelemetryHook where
  given? := Services.hook?
  lost := fun _ => false
  count := Session.hooks
  held := fun s => s.telemetry.map fun held => (held.number, held.hook)
  release := .telemetryShutdown
  release_inj := fun _ _ h => Event.telemetryShutdown.inj h
  given?_release := fun _ _ _ => rfl

variable (kind : Kind α)

def gathered (services : Option Services) (moment : Nat) (calls : List Event) : List α :=
  match services with
  | none => []
  | some services => gather (kind.given? services) moment calls

def ledger (s : Session) : Ledger α :=
  { given := kind.gathered s.services 0 s.trace
    lost := kind.lost
    count := kind.count s
    held := kind.held s
    released := fun n => s.trace.count (kind.release n) }

theorem gathered_append (services : Option Services) (moment : Nat) (calls others : List Event) :
    kind.gathered services moment (calls ++ others) =
      kind.gathered services moment calls ++
        kind.gathered services (moment + calls.length) others := by
  cases services with
  | none => rfl
  | some services => exact gather_append _ _ _ _

theorem gathered_eq_nil (services : Option Services) (moment : Nat) (calls : List Event)
    (hcalls : ∀ call ∈ calls, ∀ services moment, kind.given? services moment call = none) :
    kind.gathered services moment calls = [] := by
  cases services with
  | none => rfl
  | some services =>
    apply gather_eq_nil
    intro call hcall moment
    exact hcalls call hcall services moment

theorem ledger_of_calls (s t : Session) (calls : List Event) (more : List α)
    (hservices : t.services = s.services) (htrace : t.trace = s.trace ++ calls)
    (hcalls : ∀ n, kind.release n ∉ calls)
    (hmore : kind.gathered s.services s.moment calls = more)
    (hcount : kind.count t = kind.count s + more.length)
    (hheld : kind.held t =
      ((latest Prod.mk (kind.count s) more).filter fun thing => !kind.lost thing.2).or
        (kind.held s)) :
    kind.ledger t = (kind.ledger s).take more := by
  have hgiven : kind.gathered t.services 0 t.trace =
      kind.gathered s.services 0 s.trace ++ more := by
    rw [hservices, htrace, gathered_append, Nat.zero_add, ← hmore]
    rfl
  have hreleased (n : Nat) : t.trace.count (kind.release n) = s.trace.count (kind.release n) := by
    rw [htrace, List.count_append, List.count_eq_zero_of_not_mem (hcalls n), Nat.add_zero]
  unfold ledger Ledger.take
  simp only [hgiven, hcount, hheld, hreleased]

theorem ledger_of_quiet (s t : Session) (calls : List Event)
    (hservices : t.services = s.services) (htrace : t.trace = s.trace ++ calls)
    (hcalls : ∀ call ∈ calls, (∀ n, call ≠ kind.release n) ∧
      ∀ services moment, kind.given? services moment call = none)
    (hcount : kind.count t = kind.count s) (hheld : kind.held t = kind.held s) :
    kind.ledger t = kind.ledger s := by
  have hnone : kind.gathered s.services s.moment calls = [] := by
    apply gathered_eq_nil
    intro call hcall
    exact (hcalls call hcall).2
  have hkept : kind.held t =
      ((latest Prod.mk (kind.count s) []).filter fun thing => !kind.lost thing.2).or
        (kind.held s) := by
    rw [latest_nil, Option.filter_none, Option.none_or, hheld]
  rw [kind.ledger_of_calls s t calls [] hservices htrace (fun n hn => (hcalls _ hn).1 n rfl) hnone
    hcount hkept]
  simp [Ledger.take]

theorem ledger_of_release (s t : Session) (number : Nat) (value : α)
    (hnow : kind.held s = some (number, value))
    (hservices : t.services = s.services) (htrace : t.trace = s.trace ++ [kind.release number])
    (hcount : kind.count t = kind.count s) (hheld : kind.held t = none) :
    kind.ledger t = (kind.ledger s).free := by
  have hgiven : kind.gathered t.services 0 t.trace = kind.gathered s.services 0 s.trace := by
    rw [hservices, htrace, gathered_append, kind.gathered_eq_nil _ _ [_], List.append_nil]
    intro call hcall
    obtain rfl := List.mem_singleton.mp hcall
    intro services moment
    exact kind.given?_release services moment number
  have hreleased (n : Nat) : t.trace.count (kind.release n) =
      s.trace.count (kind.release n) + if n = number then 1 else 0 := by
    rw [htrace, List.count_append, List.count_singleton]
    by_cases hn : n = number
    · simp [hn]
    · have hne : kind.release number ≠ kind.release n := fun h => hn (kind.release_inj _ _ h).symm
      simp [hn, hne]
  unfold ledger Ledger.free
  simp only [hnow, hgiven, hcount, hheld, hreleased]

end Kind
end WorkspaceSession
