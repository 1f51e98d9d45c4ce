import Mathlib.Data.List.Basic

/-!
# Lanes

A machine answers actions, and every action is in a lane.  If the answers to a lane, and what it sees of the state
after them, depend on what it sees before, and no other lane changes that, then a lane is answered as if it were
alone, whatever the others do.

* `answers` — the answers of a run;
* `Separate` — what a lane sees is its own;
* `Separate.alone` — the run of a lane among the others, and by itself.
-/

namespace AdvMcp.Lib

variable {S A R V κ : Type*} [DecidableEq κ]

/-- The actions of a run with their answers. -/
def answers (f : S → A → R × S) : S → List A → List (A × R)
  | _, [] => []
  | s, a :: as => (a, (f s a).1) :: answers f (f s a).2 as

/-- What the lane sees is its own: no other lane changes it, and it decides the answers. -/
structure Separate (f : S → A → R × S) (lane : A → κ) (k : κ) (see : S → V) : Prop where
  other : ∀ s a, lane a ≠ k → see (f s a).2 = see s
  own : ∀ s t a, lane a = k → see s = see t → (f s a).1 = (f t a).1 ∧ see (f s a).2 = see (f t a).2

variable {f : S → A → R × S} {lane : A → κ} {k : κ} {see : S → V}

/-- **A lane by itself** is answered as it is among the others. -/
theorem Separate.alone (h : Separate f lane k see) {s t : S} (hst : see s = see t) (as : List A) :
    (answers f s as).filter (fun p => lane p.1 = k) = answers f t (as.filter fun a => lane a = k) := by
  induction as generalizing s t with
  | nil => rfl
  | cons a as ih =>
    by_cases ha : lane a = k
    · obtain ⟨hanswer, hsee⟩ := h.own s t a ha hst
      simp only [answers, List.filter_cons, ha, decide_true, if_true]
      rw [hanswer, ih hsee]
    · have hsee : see (f s a).2 = see t := (h.other s a ha).trans hst
      simp only [answers, List.filter_cons, ha, decide_false, Bool.false_eq_true, if_false]
      exact ih hsee

end AdvMcp.Lib
