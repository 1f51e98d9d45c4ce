import Mathlib.Order.Closure
import Mathlib.Order.CompletePartialOrder

/-!
# The closure of a set under rules with one premise

`R x y` says that who has `x` has `y`.  The closure of a set is the smallest set around it that the
rules do not leave, and a member of the closure is a member of the set or the conclusion of a rule.
-/

namespace AdvMcp.Lib

variable {α : Type*} {R : α → α → Prop} {s t : Set α}

/-- The rules do not leave `s`. -/
def ClosedUnder (R : α → α → Prop) (s : Set α) : Prop := ∀ ⦃x y⦄, R x y → x ∈ s → y ∈ s

/-- The closure under the rules. -/
def closureOf (R : α → α → Prop) : ClosureOperator (Set α) :=
  .ofCompletePred (ClosedUnder R) fun S hS x y h hx => by
    simp only [Set.sInf_eq_sInter, Set.mem_sInter] at hx ⊢
    exact fun u hu => hS u hu h (hx u hu)

lemma closedUnder_closureOf (R : α → α → Prop) (s : Set α) : ClosedUnder R (closureOf R s) :=
  (closureOf R).isClosed_closure s

/-- **The closed-set rule**: what contains `s` and is not left contains the closure. -/
lemma closureOf_subset (h : s ⊆ t) (ht : ClosedUnder R t) : closureOf R s ⊆ t :=
  ClosureOperator.closure_min h (show (closureOf R).IsClosed t from ht)

lemma subset_closureOf (R : α → α → Prop) (s : Set α) : s ⊆ closureOf R s :=
  (closureOf R).le_closure s

/-- A set around `s` that the rules do not leave, and that lies in every other such set. -/
theorem closureOf_eq (h : s ⊆ t) (ht : ClosedUnder R t) (hmin : ∀ u, s ⊆ u → ClosedUnder R u → t ⊆ u) :
    closureOf R s = t :=
  (closureOf_subset h ht).antisymm
    (hmin _ (subset_closureOf R s) (closedUnder_closureOf R s))

/-- The last rule: a member of the closure that is not in the set is concluded from a member. -/
lemma exists_rule {y : α} (hy : y ∈ closureOf R s) (hys : y ∉ s) : ∃ x ∈ closureOf R s, R x y := by
  by_contra hno
  push Not at hno
  have hsub : closureOf R s ⊆ closureOf R s \ {y} := by
    refine closureOf_subset (fun x hx => ⟨subset_closureOf R s hx, ?_⟩) fun x z hxz hx => ?_
    · rintro rfl
      exact hys hx
    · refine ⟨closedUnder_closureOf R s hxz hx.1, ?_⟩
      rintro rfl
      exact hno x hx.1 hxz
  exact (hsub hy).2 rfl

end AdvMcp.Lib
