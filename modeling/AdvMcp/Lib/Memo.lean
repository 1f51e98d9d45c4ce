import AdvMcp.Lib.Savepoint
import Mathlib.Logic.Function.Basic

/-!
# Memoised readers

Rows that programs change, and readers of the rows whose answers are kept in a cache until it is cleared.

* `Memo.Coherent` — every kept answer is the one that the reader would compute from the rows as they are;
* `Memo.lookup_answer`, `Memo.Coherent.lookup` — from a coherent cache a lookup answers what the reader
  computes, and leaves the cache coherent;
* `Forgets` — a program that puts nothing into the cache;
* `Flushes` — a program that returns with an empty cache, or has changed no row.  Programs compose to such
  programs, and every program becomes one by a final `clearCache`;
* `Memo.Coherent.transaction` — a program with both properties keeps a cache coherent, also where it raises and
  the rows are put back.
-/

namespace AdvMcp.Lib

variable {ε σ κ : Type} {ν : κ → Type}

/-- Rows, and the kept answers of the readers. -/
structure Memo (σ κ : Type) (ν : κ → Type) where
  rows : σ
  cache : (k : κ) → Option (ν k)

namespace Memo

/-- Nothing is kept. -/
def cold (rows : σ) : Memo σ κ ν := ⟨rows, fun _ => none⟩

/-- The answer of a reader: the kept one, or the computed one, which is kept then.  An exception is not. -/
def lookup [DecidableEq κ] (compute : σ → (k : κ) → Except ε (ν k)) (k : κ) (m : Memo σ κ ν) :
    Except ε (ν k) × Memo σ κ ν :=
  match m.cache k with
  | some v => (.ok v, m)
  | none =>
    match compute m.rows k with
    | .ok v => (.ok v, { m with cache := Function.update m.cache k (some v) })
    | .error e => (.error e, m)

/-- The cache drops the answers of some readers. -/
def evict (dropped : κ → Bool) (m : Memo σ κ ν) : Memo σ κ ν :=
  { m with cache := fun k => if dropped k then none else m.cache k }

/-- Every kept answer is up to date. -/
def Coherent (compute : σ → (k : κ) → Except ε (ν k)) (m : Memo σ κ ν) : Prop :=
  ∀ k v, m.cache k = some v → compute m.rows k = .ok v

/-- The first keeps only answers that the second keeps. -/
def Fewer (m m' : Memo σ κ ν) : Prop := ∀ k v, m.cache k = some v → m'.cache k = some v

lemma Fewer.refl (m : Memo σ κ ν) : Fewer m m := fun _ _ h => h

lemma Fewer.trans {m₁ m₂ m₃ : Memo σ κ ν} (h : Fewer m₁ m₂) (h' : Fewer m₂ m₃) : Fewer m₁ m₃ :=
  fun k v hk => h' k v (h k v hk)

section Coherent

variable {compute : σ → (k : κ) → Except ε (ν k)} {m m' : Memo σ κ ν}

lemma Coherent.of_empty (h : ∀ k, m.cache k = none) : Coherent compute m := by
  intro k v hk
  rw [h k] at hk
  cases hk

lemma Coherent.cold (rows : σ) : Coherent compute (cold rows) := .of_empty fun _ => rfl

lemma Coherent.fewer (h : Coherent compute m) (hf : Fewer m' m) (hr : m'.rows = m.rows) :
    Coherent compute m' := by
  intro k v hk
  rw [hr]
  exact h k v (hf k v hk)

lemma Coherent.evict (h : Coherent compute m) (dropped : κ → Bool) : Coherent compute (m.evict dropped) := by
  refine h.fewer (fun k v hk => ?_) rfl
  have hk' : (if dropped k then none else m.cache k) = some v := hk
  split_ifs at hk'
  exact hk'

variable [DecidableEq κ]

/-- **From a coherent cache a lookup answers what the reader computes.** -/
lemma lookup_answer (h : Coherent compute m) (k : κ) : (m.lookup compute k).1 = compute m.rows k := by
  unfold lookup
  cases hk : m.cache k with
  | some v => exact (h k v hk).symm
  | none => cases compute m.rows k <;> rfl

lemma Coherent.lookup (h : Coherent compute m) (k : κ) : Coherent compute (m.lookup compute k).2 := by
  unfold Memo.lookup
  cases hk : m.cache k with
  | some v => exact h
  | none =>
    cases hc : compute m.rows k with
    | error e => exact h
    | ok v =>
      intro k' v' hk'
      by_cases he : k' = k
      · subst he
        have hv : some v = some v' := (Function.update_self k' (some v) m.cache).symm.trans hk'
        rw [← Option.some.inj hv]
        exact hc
      · exact h k' v' ((Function.update_of_ne he (some v) m.cache).symm.trans hk')

end Coherent

end Memo

/-! ### Programs over rows and cache -/

open Memo

/-- A program that changes rows and clears the cache. -/
abbrev Script (ε σ κ : Type) (ν : κ → Type) (α : Type) := EStateM ε (Memo σ κ ν) α

/-- The rows. -/
def rows : Script ε σ κ ν σ := fun m => .ok m.rows m

/-- The rows are changed, or the change is refused. -/
def change (f : σ → Except ε σ) : Script ε σ κ ν Unit := fun m =>
  match f m.rows with
  | .ok r => .ok () { m with rows := r }
  | .error e => .error e m

def clearCache : Script ε σ κ ν Unit := fun m => .ok () (cold m.rows)

/-- The program, if the condition holds. -/
def onlyIf (c : Bool) (x : Script ε σ κ ν Unit) : Script ε σ κ ν Unit := if c then x else pure ()

/-- Where the program raises, the rows are put back. -/
def transaction {α : Type} (x : Script ε σ κ ν α) : Script ε σ κ ν α := fun m =>
  match x m with
  | .ok a m' => .ok a m'
  | .error e m' => .error e { m' with rows := m.rows }

/-- The state that a program leaves. -/
def leaves {α : Type} (x : Script ε σ κ ν α) (m : Memo σ κ ν) : Memo σ κ ν :=
  match x m with
  | .ok _ m' => m'
  | .error _ m' => m'

/-- The program puts nothing into the cache. -/
def Forgets {α : Type} (x : Script ε σ κ ν α) : Prop := ∀ m, Fewer (leaves x m) m

/-- Where the program returns, the cache is empty, or no row was changed. -/
def Flushes {α : Type} (x : Script ε σ κ ν α) : Prop :=
  ∀ m a m', x m = .ok a m' → (∀ k, m'.cache k = none) ∨ m'.rows = m.rows

section Rules

variable {α β : Type} {x : Script ε σ κ ν α} {f : α → Script ε σ κ ν β} {m m' : Memo σ κ ν} {a : α} {e : ε}

lemma leaves_ok (h : x m = .ok a m') : leaves x m = m' := by
  unfold leaves
  rw [h]

lemma leaves_error (h : x m = .error e m') : leaves x m = m' := by
  unfold leaves
  rw [h]

/-- A program that puts nothing into the cache, where it returns and where it raises. -/
lemma forgets_iff : Forgets x ↔
    (∀ m a m', x m = .ok a m' → Fewer m' m) ∧ ∀ m e m', x m = .error e m' → Fewer m' m := by
  constructor
  · exact fun h => ⟨fun m a m' hx => leaves_ok hx ▸ h m, fun m e m' hx => leaves_error hx ▸ h m⟩
  · rintro ⟨hok, herr⟩ m
    cases hx : x m with
    | ok a m' => exact leaves_ok hx ▸ hok m a m' hx
    | error e m' => exact leaves_error hx ▸ herr m e m' hx

lemma forgets_pure (a : α) : Forgets (pure a : Script ε σ κ ν α) := fun m => .refl m

lemma forgets_rows : Forgets (rows : Script ε σ κ ν σ) := fun m => .refl m

lemma forgets_change (g : σ → Except ε σ) : Forgets (change g : Script ε σ κ ν Unit) := by
  intro m
  unfold leaves change
  cases g m.rows with
  | ok r => exact fun _ _ h => h
  | error e => exact .refl m

lemma forgets_clearCache : Forgets (clearCache : Script ε σ κ ν Unit) :=
  fun m k v h => by cases h

lemma forgets_bind (hx : Forgets x) (hf : ∀ a, Forgets (f a)) : Forgets (x >>= f) := by
  rw [forgets_iff] at hx ⊢
  refine ⟨fun m b m' h => ?_, fun m e m' h => ?_⟩
  · obtain ⟨a, t, ha, hb⟩ := bind_ok.1 h
    exact ((forgets_iff.1 (hf a)).1 t b m' hb).trans (hx.1 m a t ha)
  · rcases bind_error.1 h with h | ⟨a, t, ha, hb⟩
    · exact hx.2 m e m' h
    · exact ((forgets_iff.1 (hf a)).2 t e m' hb).trans (hx.1 m a t ha)

lemma forgets_onlyIf {x : Script ε σ κ ν Unit} (c : Bool) (h : Forgets x) : Forgets (onlyIf c x) := by
  unfold onlyIf
  split_ifs
  · exact h
  · exact forgets_pure _

lemma forgets_forM {γ : Type} {l : List γ} {g : γ → Script ε σ κ ν PUnit} (h : ∀ c, Forgets (g c)) :
    Forgets (l.forM g) := by
  induction l with
  | nil => exact forgets_pure _
  | cons c l ih => exact forgets_bind (h c) fun _ => ih

lemma flushes_pure (a : α) : Flushes (pure a : Script ε σ κ ν α) := by
  intro m b m' h
  obtain ⟨-, rfl⟩ := pure_ok.1 h
  exact Or.inr rfl

lemma flushes_rows : Flushes (rows : Script ε σ κ ν σ) := by
  intro m a m' h
  cases h
  exact Or.inr rfl

/-- **A final `clearCache` makes up for every change.** -/
lemma flushes_clearCache : Flushes (x >>= fun _ => clearCache) := by
  intro m a m' h
  obtain ⟨b, t, -, hc⟩ := bind_ok.1 h
  cases hc
  exact Or.inl fun _ => rfl

/-- A cache that is empty stays empty under programs that forget. -/
lemma flushes_bind (hx : Flushes x) (hf : ∀ a, Flushes (f a)) (hforget : ∀ a, Forgets (f a)) :
    Flushes (x >>= f) := by
  intro m b m' h
  obtain ⟨a, t, ha, hb⟩ := bind_ok.1 h
  rcases hf a t b m' hb with hempty | hrows
  · exact Or.inl hempty
  · rcases hx m a t ha with hempty | hrows'
    · refine Or.inl fun k => ?_
      cases hk : m'.cache k with
      | none => rfl
      | some v =>
        have hv := (forgets_iff.1 (hforget a)).1 t b m' hb k v hk
        rw [hempty k] at hv
        cases hv
    · exact Or.inr (hrows.trans hrows')

lemma flushes_onlyIf {x : Script ε σ κ ν Unit} (c : Bool) (h : Flushes x) : Flushes (onlyIf c x) := by
  unfold onlyIf
  split_ifs
  · exact h
  · exact flushes_pure _

lemma flushes_forM {γ : Type} {l : List γ} {g : γ → Script ε σ κ ν PUnit} (h : ∀ c, Flushes (g c))
    (hforget : ∀ c, Forgets (g c)) : Flushes (l.forM g) := by
  induction l with
  | nil => exact flushes_pure _
  | cons c l ih => exact flushes_bind (h c) (fun _ => ih) fun _ => forgets_forM hforget

lemma transaction_ok : transaction x m = .ok a m' ↔ x m = .ok a m' := by
  unfold transaction
  cases x m <;> simp

/-- **A transaction keeps the cache coherent**, whether it returns or raises. -/
theorem Memo.Coherent.transaction {compute : σ → (k : κ) → Except ε (ν k)} (h : Coherent compute m)
    (hforget : Forgets x) (hflush : Flushes x) : Coherent compute (leaves (transaction x) m) := by
  cases hx : x m with
  | ok a m' =>
    rw [leaves_ok (transaction_ok.2 hx)]
    rcases hflush m a m' hx with hempty | hrows
    · exact .of_empty hempty
    · exact h.fewer ((forgets_iff.1 hforget).1 m a m' hx) hrows
  | error e m' =>
    have ht : AdvMcp.Lib.transaction x m = .error e { m' with rows := m.rows } := by
      unfold AdvMcp.Lib.transaction
      rw [hx]
    rw [leaves_error ht]
    exact h.fewer (fun k v hk => (forgets_iff.1 hforget).2 m e m' hx k v hk) rfl

end Rules

end AdvMcp.Lib
