import AdvMcp.Lib.Savepoint

/-!
# Computations that are interrupted

A computation over a state, with points on its way, and one exception that may be raised when it gets to a
point.  What was done before stays done.

* `pass fault p` — the computation gets to the point `p`;
* `writing f` — a write of the state.
-/

namespace AdvMcp.Lib

/-- An exception, and the point at which it is raised. -/
structure Fault (ι ε : Type) where
  point : ι
  exc : ε

variable {ι ε σ : Type} [DecidableEq ι]

def pass (fault : Option (Fault ι ε)) (p : ι) : EStateM ε σ Unit := fun s =>
  match fault with
  | some i => if i.point = p then .error i.exc s else .ok () s
  | none => .ok () s

def writing (f : σ → σ) : EStateM ε σ Unit := fun s => .ok () (f s)

variable {fault : Option (Fault ι ε)} {p : ι} {i : Fault ι ε} {e : ε} {s s' : σ} {u : Unit}

lemma pass_ok : pass fault p s = .ok u s' ↔ (∀ i, fault = some i → i.point ≠ p) ∧ s = s' := by
  unfold pass
  cases fault with
  | none => simp
  | some i =>
    simp only [Option.some.injEq, forall_eq']
    split_ifs with h <;> simp [h]

lemma pass_error : pass fault p s = .error e s' ↔ (∃ i, fault = some i ∧ i.point = p ∧ i.exc = e) ∧ s = s' := by
  unfold pass
  cases fault with
  | none => simp
  | some i =>
    simp only [Option.some.injEq, exists_eq_left']
    split_ifs with h <;> simp [h]

lemma pass_none (p : ι) (s : σ) : (pass none p : EStateM ε σ Unit) s = .ok () s := rfl

/-- An exception that waits at another point. -/
lemma pass_of_ne (h : i.point ≠ p) : pass (some i) p s = .ok () s := if_neg h

lemma pass_at (h : i.point = p) : pass (some i) p s = .error i.exc s := if_pos h

lemma writing_eq (f : σ → σ) (s : σ) : (writing f : EStateM ε σ Unit) s = .ok () (f s) := rfl

/-- A read. -/
lemma peek_pure {α : Type} (g : σ → α) :
    (peek fun s => .ok (g s) : EStateM ε σ α) s = .ok (g s) s := rfl

section Bind

variable {α β : Type} {x : EStateM ε σ α} {g : α → EStateM ε σ β} {a : α}

/-- The rest of a computation, behind a step that returned. -/
lemma bind_of_ok (h : x s = .ok a s') : (x >>= g) s = g a s' := by
  show EStateM.bind x g s = _
  unfold EStateM.bind
  rw [h]

lemma bind_of_error (h : x s = .error e s') : (x >>= g) s = .error e s' := bind_error.2 (Or.inl h)

end Bind

end AdvMcp.Lib
