import AdvMcp.Lib.Savepoint

/-!
# Computations that cannot tell two states apart

* `bind_congr_ok` — two computations with one head are equal if they are equal where the head returns;
* `Alike` — a computation that only looks, and sees the same in two states, with a rule for each way to build
  computations.
-/

namespace AdvMcp.Lib

universe u

section Except

variable {ε α β : Type u}

lemma bind_congr_ok {x : Except ε α} {f g : α → Except ε β} (h : ∀ a, x = .ok a → f a = g a) :
    (x >>= f) = (x >>= g) := by
  cases x with
  | error e => rfl
  | ok a => exact h a rfl

end Except

section Alike

variable {ε ε' σ α β : Type u} {s t : σ}

/-- The computation ends in the same way in both states, and leaves each of them as it is. -/
inductive Alike (s t : σ) (x : EStateM ε σ α) : Prop
  | ok (a : α) (hs : x s = .ok a s) (ht : x t = .ok a t)
  | error (e : ε) (hs : x s = .error e s) (ht : x t = .error e t)

lemma alike_pure (a : α) : Alike s t (pure a : EStateM ε σ α) := .ok a rfl rfl

/-- What is seen decides. -/
lemma alike_peek {g : σ → Except ε α} (h : g t = g s) : Alike s t (peek g) := by
  cases hg : g s with
  | ok a => exact .ok a (peek_ok.2 ⟨hg, rfl⟩) (peek_ok.2 ⟨h.trans hg, rfl⟩)
  | error e => exact .error e (peek_error.2 ⟨hg, rfl⟩) (peek_error.2 ⟨h.trans hg, rfl⟩)

lemma alike_bind {x : EStateM ε σ α} {f : α → EStateM ε σ β} (hx : Alike s t x)
    (hf : ∀ a, x s = .ok a s → Alike s t (f a)) : Alike s t (x >>= f) := by
  cases hx with
  | error e hs ht => exact .error e (bind_error.2 (Or.inl hs)) (bind_error.2 (Or.inl ht))
  | ok a hs ht =>
    cases hf a hs with
    | ok b hs' ht' => exact .ok b (bind_ok.2 ⟨a, s, hs, hs'⟩) (bind_ok.2 ⟨a, t, ht, ht'⟩)
    | error e hs' ht' =>
      exact .error e (bind_error.2 (Or.inr ⟨a, s, hs, hs'⟩)) (bind_error.2 (Or.inr ⟨a, t, ht, ht'⟩))

lemma alike_savepoint {x : EStateM ε σ α} (h : Alike s t x) : Alike s t (savepoint x) := by
  cases h with
  | ok a hs ht => exact .ok a (savepoint_ok.2 hs) (savepoint_ok.2 ht)
  | error e hs ht => exact .error e (savepoint_error.2 ⟨rfl, s, hs⟩) (savepoint_error.2 ⟨rfl, t, ht⟩)

lemma alike_adapt {x : EStateM ε σ α} (g : ε → ε') (h : Alike s t x) : Alike s t (x.adaptExcept g) := by
  cases h with
  | ok a hs ht => exact .ok a (adaptExcept_ok.2 hs) (adaptExcept_ok.2 ht)
  | error e hs ht => exact .error (g e) (adaptExcept_error.2 ⟨e, rfl, hs⟩) (adaptExcept_error.2 ⟨e, rfl, ht⟩)

end Alike

end AdvMcp.Lib
