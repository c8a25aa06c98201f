/-! Steps that may fail: a chain of them succeeds where every one does, and a fault keeps its place
when its wording changes. -/
namespace WorkspaceSession

theorem bind_eq_ok_iff {x : Except ε α} {f : α → Except ε β} {b : β} :
    x >>= f = .ok b ↔ ∃ a, x = .ok a ∧ f a = .ok b := by
  cases x with
  | error e => simp [bind, Except.bind]
  | ok a => simp [bind, Except.bind]

theorem ok_bind (a : α) (f : α → Except ε β) : (Except.ok a >>= f) = f a := rfl

theorem mapError_error (f : ε → δ) (e : ε) :
    (Except.error e : Except ε α).mapError f = .error (f e) := rfl

theorem mapError_ok (f : ε → δ) (a : α) : (Except.ok a).mapError f = .ok a := rfl

def Yields (p : α → Prop) (x : Except ε α) : Prop := ∀ a, x = .ok a → p a

namespace Yields

variable {p : α → Prop}

theorem pure {a : α} (h : p a) : Yields p (Pure.pure a : Except ε α) := by
  rintro b ⟨⟩
  exact h

theorem bind {x : Except ε β} {f : β → Except ε α} (h : ∀ b, Yields p (f b)) :
    Yields p (x >>= f) := by
  intro a ha
  obtain ⟨b, -, hb⟩ := bind_eq_ok_iff.mp ha
  exact h b a hb

theorem ite {c : Prop} [Decidable c] {x y : Except ε α} (hx : Yields p x) (hy : Yields p y) :
    Yields p (if c then x else y) := by
  split
  · exact hx
  · exact hy

end Yields

end WorkspaceSession
