import Mathlib.Logic.Function.Basic
import Mathlib.Tactic.TypeStar

/-!
# Computations that are silent about hidden cells

A store is a function `ι → α`, of which some cells are hidden.  A function of the store is *silent* at a
store when no change of the hidden cells changes its value.

* `Silent.bind`, `Silent.mapM` — the rules for computations that may raise;
* `not_silent_of` — one change of a hidden cell that shows refutes silence.
-/

namespace AdvMcp.Lib

universe u v

variable {ι α δ : Type*} {β γ : Type u} {ε : Type v}

/-- `s'` is `s` up to the hidden cells. -/
def Agree (hidden : ι → Prop) (s s' : ι → α) : Prop := ∀ i, ¬ hidden i → s' i = s i

/-- Whatever the hidden cells hold, `f` has the value it has at `s`. -/
def Silent (hidden : ι → Prop) (f : (ι → α) → δ) (s : ι → α) : Prop :=
  ∀ s', Agree hidden s s' → f s' = f s

section Rules

variable {hidden : ι → Prop} {s : ι → α}

lemma Silent.const (b : δ) : Silent hidden (fun _ => b) s := fun _ _ => rfl

lemma Silent.cell {i : ι} (h : ¬ hidden i) : Silent hidden (fun s => s i) s := fun _ ha => ha i h

lemma Silent.map {f : (ι → α) → β} (g : β → δ) (hf : Silent hidden f s) :
    Silent hidden (fun s => g (f s)) s := fun s' ha => congrArg g (hf s' ha)

lemma Silent.map₂ {f : (ι → α) → β} {f' : (ι → α) → γ} (g : β → γ → δ) (hf : Silent hidden f s)
    (hf' : Silent hidden f' s) : Silent hidden (fun s => g (f s) (f' s)) s := by
  intro s' ha
  simp only [hf s' ha, hf' s' ha]

lemma Silent.bind {f : (ι → α) → Except ε β} {g : (ι → α) → β → Except ε γ} (hf : Silent hidden f s)
    (hg : ∀ b, f s = .ok b → Silent hidden (fun s => g s b) s) :
    Silent hidden (fun s => f s >>= g s) s := by
  intro s' ha
  simp only [hf s' ha]
  cases hb : f s with
  | error e => rfl
  | ok b => exact hg b hb s' ha

lemma Silent.listMap {l : List β} {f : (ι → α) → β → γ} (hf : ∀ b ∈ l, Silent hidden (fun s => f s b) s) :
    Silent hidden (fun s => l.map (f s)) s := by
  intro s' ha
  exact List.map_congr_left fun b hb => hf b hb s' ha

lemma Silent.mapM {l : List β} {f : (ι → α) → β → Except ε γ}
    (hf : ∀ b ∈ l, Silent hidden (fun s => f s b) s) :
    Silent hidden (fun s => l.mapM (f s)) s := by
  induction l with
  | nil => exact Silent.const _
  | cons b l ih =>
    have hcons : (fun s => (b :: l).mapM (f s)) =
        fun s => f s b >>= fun c => l.mapM (f s) >>= fun cs => pure (c :: cs) := by
      funext s
      rw [List.mapM_cons]
    rw [hcons]
    apply Silent.bind (hf b List.mem_cons_self)
    intro c _
    apply Silent.bind (ih fun d hd => hf d (List.mem_cons_of_mem b hd))
    intro cs _
    exact Silent.const _

lemma agree_update [DecidableEq ι] {i : ι} (h : hidden i) (a : α) :
    Agree hidden s (Function.update s i a) := by
  intro j hj
  rw [Function.update_of_ne]
  rintro rfl
  exact hj h

/-- A change of one hidden cell that shows. -/
lemma not_silent_of [DecidableEq ι] {f : (ι → α) → δ} {i : ι} (h : hidden i) {a : α}
    (hne : f (Function.update s i a) ≠ f s) : ¬ Silent hidden f s :=
  fun hs => hne (hs _ (agree_update h a))

end Rules

end AdvMcp.Lib
