import Mathlib.Order.Basic

/-!
# Labelled systems: reachable states, runs, invariants

* `Sys` — a system with its initial states and a labelled step relation;
* `Sys.Reachable`, `Sys.Run` — the states a run from an initial state meets, and the runs from a
  given state;
* `Sys.Reachable.inv` — the invariant rule: what holds initially and is kept by every step holds of
  every reachable state;
* `Sys.Run.stable` — the same rule along the runs that start in a given reachable state;
* `Sys.RunIn.stable` — the same along the runs that stay within a set of states;
* `Sys.RunBy.stable` — the same along the runs whose steps all meet a condition.
-/

namespace AdvMcp.Lib

/-- A labelled system. -/
structure Sys (σ α : Type*) where
  init : σ → Prop
  step : σ → α → σ → Prop

namespace Sys

variable {σ α : Type*} {M : Sys σ α}

/-- The states that a run from an initial state meets. -/
inductive Reachable (M : Sys σ α) : σ → Prop
  | init {s : σ} : M.init s → Reachable M s
  | step {s s' : σ} {a : α} : Reachable M s → M.step s a s' → Reachable M s'

/-- The run from `s` to `s'` under the labels `as`. -/
inductive Run (M : Sys σ α) : σ → List α → σ → Prop
  | nil (s : σ) : Run M s [] s
  | cons {s t s' : σ} {a : α} {as : List α} : M.step s a t → Run M t as s' → Run M s (a :: as) s'

/-- **The invariant rule.** -/
theorem Reachable.inv {I : σ → Prop} (h0 : ∀ s, M.init s → I s)
    (hs : ∀ s a s', M.Reachable s → I s → M.step s a s' → I s') {s : σ} (h : M.Reachable s) :
    I s := by
  induction h with
  | init h => exact h0 _ h
  | step hr hst ih => exact hs _ _ _ hr ih hst

theorem Run.reachable {s s' : σ} {as : List α} (h : M.Run s as s') (hr : M.Reachable s) :
    M.Reachable s' := by
  induction h with
  | nil => exact hr
  | cons hst _ ih => exact ih (hr.step hst)

/-- What every step out of a reachable state keeps is kept by every run out of one. -/
theorem Run.stable {I : σ → Prop} (hs : ∀ s a s', M.Reachable s → I s → M.step s a s' → I s')
    {s s' : σ} {as : List α} (h : M.Run s as s') (hr : M.Reachable s) (hI : I s) : I s' := by
  induction h with
  | nil => exact hI
  | cons hst _ ih => exact ih (hr.step hst) (hs _ _ _ hr hI hst)

/-- The run from `s` to `s'` under the labels `as`, if all its states satisfy `P`. -/
inductive RunIn (M : Sys σ α) (P : σ → Prop) : σ → List α → σ → Prop
  | nil {s : σ} : P s → RunIn M P s [] s
  | cons {s t s' : σ} {a : α} {as : List α} :
    P s → M.step s a t → RunIn M P t as s' → RunIn M P s (a :: as) s'

section RunIn

variable {P I : σ → Prop} {s s' : σ} {as : List α}

theorem RunIn.run (h : M.RunIn P s as s') : M.Run s as s' := by
  induction h with
  | nil _ => exact .nil _
  | cons _ hst _ ih => exact .cons hst ih

theorem RunIn.first (h : M.RunIn P s as s') : P s := by
  cases h with
  | nil hp => exact hp
  | cons hp _ _ => exact hp

/-- What every step between two states of `P` keeps is kept by every run within `P`. -/
theorem RunIn.stable (hs : ∀ s a s', M.Reachable s → P s → I s → M.step s a s' → P s' → I s')
    (h : M.RunIn P s as s') (hr : M.Reachable s) (hI : I s) : I s' := by
  induction h with
  | nil _ => exact hI
  | cons hp hst hrun ih => exact ih (hr.step hst) (hs _ _ _ hr hp hI hst hrun.first)

end RunIn

/-- The run from `s` to `s'` under the labels `as`, if all its steps meet `C`. -/
inductive RunBy (M : Sys σ α) (C : σ → α → Prop) : σ → List α → σ → Prop
  | nil (s : σ) : RunBy M C s [] s
  | cons {s t s' : σ} {a : α} {as : List α} :
    C s a → M.step s a t → RunBy M C t as s' → RunBy M C s (a :: as) s'

section RunBy

variable {C : σ → α → Prop} {I : σ → Prop} {s s' : σ} {as : List α}

theorem RunBy.run (h : M.RunBy C s as s') : M.Run s as s' := by
  induction h with
  | nil s => exact .nil s
  | cons _ hst _ ih => exact .cons hst ih

/-- What every step that meets `C` keeps is kept by every run of such steps. -/
theorem RunBy.stable (hs : ∀ s a s', M.Reachable s → I s → C s a → M.step s a s' → I s')
    (h : M.RunBy C s as s') (hr : M.Reachable s) (hI : I s) : I s' := by
  induction h with
  | nil s => exact hI
  | cons hc hst _ ih => exact ih (hr.step hst) (hs _ _ _ hr hI hc hst)

end RunBy

end Sys

end AdvMcp.Lib
