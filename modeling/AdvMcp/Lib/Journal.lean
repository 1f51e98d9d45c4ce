import AdvMcp.Lib.Savepoint

/-!
# Computations with a journal

A state together with the list of what was done to get to it.

* `unlogged x` — runs `x` on the state;
* `logged p x` — the same, and when it returns, `p` was done.

Under a savepoint the journal goes back with the state.
-/

namespace AdvMcp.Lib

variable {ε σ ω α : Type}

abbrev Journal (σ ω : Type) := σ × List ω

/-- `x`, with nothing that is kept. -/
def unlogged (x : EStateM ε σ α) : EStateM ε (Journal σ ω) α := fun s =>
  match x s.1 with
  | .ok a db => .ok a (db, s.2)
  | .error e db => .error e (db, s.2)

/-- `x`, which is kept as `p` if it returns. -/
def logged (p : ω) (x : EStateM ε σ α) : EStateM ε (Journal σ ω) α := fun s =>
  match x s.1 with
  | .ok a db => .ok a (db, s.2 ++ [p])
  | .error e db => .error e (db, s.2)

variable {x : EStateM ε σ α} {s s' : Journal σ ω} {a : α}

lemma unlogged_ok : unlogged x s = .ok a s' ↔ x s.1 = .ok a s'.1 ∧ s'.2 = s.2 := by
  obtain ⟨db, l⟩ := s'
  unfold unlogged
  cases x s.1 <;> simp [eq_comm, and_assoc]

lemma logged_ok {p : ω} : logged p x s = .ok a s' ↔ x s.1 = .ok a s'.1 ∧ s'.2 = s.2 ++ [p] := by
  obtain ⟨db, l⟩ := s'
  unfold logged
  cases x s.1 <;> simp [eq_comm, and_assoc]

end AdvMcp.Lib
