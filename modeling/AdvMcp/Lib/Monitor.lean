import Mathlib.Logic.Relation
import AdvMcp.Lib.Journal

/-!
# Monitored journals

A monitor says which operation is allowed from which state to which.  A computation with a journal obeys it if
everything that it does is in the journal and allowed where it is done.

* `Monitored` — from one state to another by allowed entries;
* `ObeysAt` — a computation that makes allowed entries only, with a rule for each way to build computations;
* `Steps` — a history: who acts, one after the other, and the states that are left;
* `Acts` — an actor makes entries that are allowed to it, or one change that is not in the journal;
* `Steps.entries` — every entry of a history was made by the actor of one of its steps, where it is allowed.
-/

namespace AdvMcp.Lib

section Monitor

variable {ε σ ω α β : Type} (allowed : σ → ω → σ → Prop)

/-- One entry more, which is allowed where it is made. -/
def Entered (s t : Journal σ ω) : Prop := ∃ p, t.2 = s.2 ++ [p] ∧ allowed s.1 p t.1

/-- One allowed entry after another. -/
abbrev Monitored : Journal σ ω → Journal σ ω → Prop := Relation.ReflTransGen (Entered allowed)

/-- The computation makes allowed entries only, when it returns. -/
def ObeysAt (s : Journal σ ω) (x : EStateM ε (Journal σ ω) α) : Prop :=
  ∀ a s', x s = .ok a s' → Monitored allowed s s'

/-- The entry `p`, made from `u` to `v` on the way from `s` to `t`. -/
structure MadeBetween (s t : Journal σ ω) (p : ω) (u v : Journal σ ω) : Prop where
  before : Monitored allowed s u
  entry : v.2 = u.2 ++ [p]
  behind : allowed u.1 p v.1
  after : Monitored allowed v t

variable {allowed} {s t : Journal σ ω} {x : EStateM ε (Journal σ ω) α} {f : α → EStateM ε (Journal σ ω) β}

/-! ### Rules -/

lemma obeys_pure (a : α) : ObeysAt allowed s (pure a : EStateM ε (Journal σ ω) α) := by
  intro b s' h
  obtain ⟨-, rfl⟩ := pure_ok.1 h
  exact .refl

lemma obeys_peek (g : Journal σ ω → Except ε α) : ObeysAt allowed s (peek g) := by
  intro a s' h
  obtain ⟨-, rfl⟩ := peek_ok.1 h
  exact .refl

lemma obeys_throw (e : ε) : ObeysAt allowed s (throw e : EStateM ε (Journal σ ω) α) := by
  intro a s' h
  cases h

/-- What the first computation returns is known to the second one. -/
lemma obeys_bind (hx : ObeysAt allowed s x) (hf : ∀ a s', x s = .ok a s' → ObeysAt allowed s' (f a)) :
    ObeysAt allowed s (x >>= f) := by
  intro b s' h
  obtain ⟨a, t, ha, h⟩ := bind_ok.1 h
  exact (hx a t ha).trans (hf a t ha b s' h)

/-- After a look at the state, the state is the one that was looked at. -/
lemma obeys_peek_bind {g : Journal σ ω → Except ε α} (hf : ∀ a, g s = .ok a → ObeysAt allowed s (f a)) :
    ObeysAt allowed s (peek g >>= f) := by
  refine obeys_bind (obeys_peek g) fun a s' h => ?_
  obtain ⟨ha, rfl⟩ := peek_ok.1 h
  exact hf a ha

lemma obeys_logged {p : ω} {y : EStateM ε σ α} (h : ∀ a db, y s.1 = .ok a db → allowed s.1 p db) :
    ObeysAt allowed s (logged p y) := by
  intro a s' hy
  obtain ⟨hy, hj⟩ := logged_ok.1 hy
  exact .single ⟨p, hj, h a s'.1 hy⟩

lemma obeys_savepoint (h : ObeysAt allowed s x) : ObeysAt allowed s (savepoint x) :=
  fun a s' hs => h a s' (savepoint_ok.1 hs)

/-! ### What was made -/

/-- **The entries** that were made on the way, each where it is allowed. -/
lemma Monitored.made (h : Monitored allowed s t) :
    ∃ ps, t.2 = s.2 ++ ps ∧ ∀ p ∈ ps, ∃ u v, MadeBetween allowed s t p u v := by
  induction h with
  | refl => exact ⟨[], (List.append_nil _).symm, fun p hp => absurd hp List.not_mem_nil⟩
  | @tail u v hsu hstep ih =>
    obtain ⟨ps, hps, hall⟩ := ih
    obtain ⟨p, hj, hp⟩ := hstep
    refine ⟨ps ++ [p], by rw [hj, hps, List.append_assoc], fun q hq => ?_⟩
    rcases List.mem_append.1 hq with hq | hq
    · obtain ⟨u', v', hmade⟩ := hall q hq
      exact ⟨u', v', hmade.before, hmade.entry, hmade.behind, hmade.after.tail ⟨p, hj, hp⟩⟩
    · obtain rfl := List.mem_singleton.1 hq
      exact ⟨u, v, hsu, hj, hp, .refl⟩

end Monitor

/-! ### Histories -/

section History

variable {α τ σ ω : Type}

/-- A history, from `s`: who acts, and the state that is left. -/
inductive Steps (R : α → τ → τ → Prop) : τ → List (α × τ) → Prop
  | nil (s : τ) : Steps R s []
  | cons {s t : τ} {a : α} {l : List (α × τ)} (h : R a s t) (rest : Steps R t l) : Steps R s ((a, t) :: l)

/-- The state that a history leaves. -/
def lastOf (s : τ) (l : List (α × τ)) : τ := l.foldl (fun _ x => x.2) s

lemma Steps.mono {R R' : α → τ → τ → Prop} (hR : ∀ a s t, R a s t → R' a s t) {s : τ} {l : List (α × τ)}
    (h : Steps R s l) : Steps R' s l := by
  induction h with
  | nil s => exact .nil s
  | cons h _ ih => exact .cons (hR _ _ _ h) ih

/-- What the actor `a` does: entries that are allowed to it, or one change that is not in the journal. -/
def Acts (allowed : α → σ → ω → σ → Prop) (outside : α → σ → σ → Prop) (a : α) (s t : Journal σ ω) : Prop :=
  Monitored (allowed a) s t ∨ (outside a s.1 t.1 ∧ t.2 = s.2)

/-- **The journal of a history** only gets longer, and each new entry was made in one of its steps, by the actor
of that step and where it is allowed to that actor. -/
theorem Steps.entries {allowed : α → σ → ω → σ → Prop} {outside : α → σ → σ → Prop} {s : Journal σ ω}
    {l : List (α × Journal σ ω)} (h : Steps (Acts allowed outside) s l) :
    ∃ ps, (lastOf s l).2 = s.2 ++ ps ∧ ∀ p ∈ ps, ∃ earlier a t later u v,
      l = earlier ++ (a, t) :: later ∧ MadeBetween (allowed a) (lastOf s earlier) t p u v := by
  induction h with
  | nil s => exact ⟨[], (List.append_nil _).symm, fun p hp => absurd hp List.not_mem_nil⟩
  | @cons s t a l hact _ ih =>
    obtain ⟨ps, hps, hall⟩ := ih
    have hfirst : ∃ qs, t.2 = s.2 ++ qs ∧ ∀ p ∈ qs, ∃ u v, MadeBetween (allowed a) s t p u v := by
      rcases hact with hm | ⟨-, hj⟩
      · exact hm.made
      · exact ⟨[], by rw [hj, List.append_nil], fun p hp => absurd hp List.not_mem_nil⟩
    obtain ⟨qs, hqs, hfirst⟩ := hfirst
    refine ⟨qs ++ ps, ?_, fun p hp => ?_⟩
    · show (lastOf t l).2 = _
      rw [hps, hqs, List.append_assoc]
    · rcases List.mem_append.1 hp with hp | hp
      · obtain ⟨u, v, hmade⟩ := hfirst p hp
        exact ⟨[], a, t, l, u, v, rfl, hmade⟩
      · obtain ⟨earlier, b, t', later, u, v, rfl, hmade⟩ := hall p hp
        exact ⟨(a, t) :: earlier, b, t', later, u, v, rfl, hmade⟩

end History

end AdvMcp.Lib
