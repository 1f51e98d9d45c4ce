import Mathlib.Data.Nat.Init
import Mathlib.Logic.Relation

/-!
# Loops

A loop `while True:` is given by what one turn may do: `body s none` when the turn may leave the loop
at `s`, and `body s (some t)` when it may go on from `t`.  A turn may have a choice (the order in which
a search without an order returns its rows).

`Total body s Q` is total correctness: no run goes on for ever, none gets stuck, and all end in `Q`.
`total_of_variant` proves it from an invariant and a variant.
-/

namespace AdvMcp.Lib

variable {σ : Type*} {body : σ → Option σ → Prop} {s t : σ} {Q : σ → Prop}

/-- One turn that goes on. -/
def Turn (body : σ → Option σ → Prop) (s t : σ) : Prop := body s (some t)

/-- The complete runs: from where to where. -/
inductive Ends (body : σ → Option σ → Prop) : σ → σ → Prop
  | leave {s : σ} : body s none → Ends body s s
  | turn {s t u : σ} : body s (some t) → Ends body t u → Ends body s u

structure Total (body : σ → Option σ → Prop) (s : σ) (Q : σ → Prop) : Prop where
  halts : Acc (fun t s => Turn body s t) s
  progress : ∀ t, Relation.ReflTransGen (Turn body) s t → ∃ o, body t o
  result : ∀ t, Ends body s t → Q t

/-- What every turn keeps holds wherever the runs lead. -/
lemma keeps {I : σ → Prop} (hI : ∀ s t, I s → body s (some t) → I t) (hs : I s)
    (h : Relation.ReflTransGen (Turn body) s t) : I t := by
  induction h with
  | refl => exact hs
  | tail _ hturn ih => exact hI _ _ ih hturn

/-- A complete run ends where the invariant holds and a turn may leave the loop. -/
lemma Ends.invariant {I : σ → Prop} (hI : ∀ s t, I s → body s (some t) → I t) (h : Ends body s t)
    (hs : I s) : I t ∧ body t none := by
  induction h with
  | leave hnone => exact ⟨hs, hnone⟩
  | turn hturn _ ih => exact ih (hI _ _ hs hturn)

/-- A variant that every turn makes smaller. -/
lemma acc_of_variant {I : σ → Prop} (m : σ → ℕ)
    (hI : ∀ s t, I s → body s (some t) → I t ∧ m t < m s) (hs : I s) :
    Acc (fun t s => Turn body s t) s := by
  induction hm : m s using Nat.strong_induction_on generalizing s with
  | _ k ih =>
    constructor
    intro t hturn
    obtain ⟨ht, hlt⟩ := hI s t hs hturn
    exact ih (m t) (by omega) ht rfl

/-- **The rule of loops.** -/
theorem total_of_variant {I : σ → Prop} (m : σ → ℕ)
    (hI : ∀ s t, I s → body s (some t) → I t ∧ m t < m s) (hprogress : ∀ s, I s → ∃ o, body s o)
    (hleave : ∀ s, I s → body s none → Q s) (hs : I s) : Total body s Q := by
  have hkeep : ∀ s t, I s → body s (some t) → I t := fun s t h hturn => (hI s t h hturn).1
  refine ⟨acc_of_variant m hI hs, fun t ht => hprogress t (keeps hkeep hs ht), fun t ht => ?_⟩
  obtain ⟨hIt, hnone⟩ := ht.invariant hkeep hs
  exact hleave t hIt hnone

/-- There is a complete run, and every complete run ends in `Q`. -/
theorem Total.ends (h : Total body s Q) : ∃ t, Ends body s t ∧ Q t := by
  have hex : ∃ t, Ends body s t := by
    obtain ⟨hacc, hprogress, -⟩ := h
    induction hacc with
    | intro s _ ih =>
      obtain ⟨o, ho⟩ := hprogress s .refl
      cases o with
      | none => exact ⟨s, .leave ho⟩
      | some t =>
        obtain ⟨u, hu⟩ := ih t ho fun v hv => hprogress v (.head ho hv)
        exact ⟨u, .turn ho hu⟩
  obtain ⟨t, ht⟩ := hex
  exact ⟨t, ht, h.result t ht⟩

lemma Total.mono {Q' : σ → Prop} (h : Total body s Q) (hQ : ∀ t, Q t → Q' t) : Total body s Q' :=
  ⟨h.halts, h.progress, fun t ht => hQ t (h.result t ht)⟩

end AdvMcp.Lib
