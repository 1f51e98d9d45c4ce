import Mathlib.Data.List.Forall2

/-!
# Computations that may raise, and savepoints

Computations that return or raise (`Except`), and those over a state (`EStateM`); there the state is left
in both cases, so what was done before an exception stays done.

* `savepoint x` — runs `x`, and puts the state back when an exception leaves it;
* `peek f` — a computation that only looks at the state.
-/

namespace AdvMcp.Lib

universe u

variable {ε σ α β : Type u}

/-- `x` under a savepoint. -/
def savepoint (x : EStateM ε σ α) : EStateM ε σ α := fun s =>
  match x s with
  | .ok a s' => .ok a s'
  | .error e _ => .error e s

/-- A computation that leaves the state alone. -/
def peek (f : σ → Except ε α) : EStateM ε σ α := fun s =>
  match f s with
  | .ok a => .ok a s
  | .error e => .error e s

variable {x : EStateM ε σ α} {f : α → EStateM ε σ β} {s s' : σ} {a : α} {b : β} {e : ε}

lemma savepoint_ok : savepoint x s = .ok a s' ↔ x s = .ok a s' := by
  unfold savepoint
  cases x s <;> simp

/-- An exception that leaves a savepoint leaves the state as it was. -/
lemma savepoint_error : savepoint x s = .error e s' ↔ s' = s ∧ ∃ t, x s = .error e t := by
  unfold savepoint
  cases x s <;> simp [and_comm, eq_comm]

lemma bind_ok : (x >>= f) s = .ok b s' ↔ ∃ a t, x s = .ok a t ∧ f a t = .ok b s' := by
  show EStateM.bind x f s = _ ↔ _
  unfold EStateM.bind
  cases x s <;> simp

lemma bind_error : (x >>= f) s = .error e s' ↔
    x s = .error e s' ∨ ∃ a t, x s = .ok a t ∧ f a t = .error e s' := by
  show EStateM.bind x f s = _ ↔ _
  unfold EStateM.bind
  cases x s <;> simp

lemma pure_ok {c : α} : (pure a : EStateM ε σ α) s = .ok c s' ↔ a = c ∧ s = s' := by
  show EStateM.Result.ok a s = _ ↔ _
  simp

lemma peek_ok {g : σ → Except ε α} : peek g s = .ok a s' ↔ g s = .ok a ∧ s = s' := by
  unfold peek
  cases g s <;> simp

lemma peek_error {g : σ → Except ε α} : peek g s = .error e s' ↔ g s = .error e ∧ s = s' := by
  unfold peek
  cases g s <;> simp

section Adapt

variable {ε' : Type u} {h : ε → ε'} {e' : ε'}

lemma adaptExcept_ok : x.adaptExcept h s = .ok a s' ↔ x s = .ok a s' := by
  unfold EStateM.adaptExcept
  cases x s <;> simp

lemma adaptExcept_error : x.adaptExcept h s = .error e' s' ↔ ∃ e, h e = e' ∧ x s = .error e s' := by
  unfold EStateM.adaptExcept
  cases x s <;> simp

end Adapt

/-! ### Without a state -/

lemma except_bind_ok {x : Except ε α} {f : α → Except ε β} {b : β} :
    (x >>= f) = .ok b ↔ ∃ a, x = .ok a ∧ f a = .ok b := by
  cases x with
  | error e => exact ⟨fun h => (by cases h), fun ⟨a, h, _⟩ => (by cases h)⟩
  | ok a => exact ⟨fun h => ⟨a, rfl, h⟩, fun ⟨a', h, h'⟩ => (by cases h; exact h')⟩

lemma ok_bind (a : α) (f : α → Except ε β) : (Except.ok a >>= f) = f a := rfl

lemma except_pure_ok {a b : α} : (pure a : Except ε α) = .ok b ↔ a = b :=
  ⟨fun h => Except.ok.inj h, fun h => h ▸ rfl⟩

lemma forM_ok {ε α : Type} {f : α → Except ε Unit} {l : List α} : l.forM f = .ok () ↔ ∀ a ∈ l, f a = .ok () := by
  induction l with
  | nil => exact iff_of_true rfl fun a ha => absurd ha List.not_mem_nil
  | cons a l ih =>
    show (f a >>= fun _ => l.forM f) = .ok () ↔ _
    rw [except_bind_ok, List.forall_mem_cons, ← ih]
    constructor
    · rintro ⟨⟨⟩, ha, hl⟩
      exact ⟨ha, hl⟩
    · rintro ⟨ha, hl⟩
      exact ⟨(), ha, hl⟩

/-- A list that is mapped element by element. -/
lemma mapM_ok {f : α → Except ε β} {l : List α} {r : List β} :
    l.mapM f = .ok r ↔ List.Forall₂ (fun a b => f a = .ok b) l r := by
  induction l generalizing r with
  | nil =>
    rw [List.mapM_nil, List.forall₂_nil_left_iff, except_pure_ok]
    exact eq_comm
  | cons a l ih =>
    rw [List.mapM_cons, List.forall₂_cons_left_iff]
    simp only [except_bind_ok, except_pure_ok, ih]
    constructor
    · rintro ⟨b, hb, bs, hbs, rfl⟩
      exact ⟨b, bs, hb, hbs, rfl⟩
    · rintro ⟨b, bs, hb, hbs, rfl⟩
      exact ⟨b, hb, bs, hbs, rfl⟩

lemma mapM_mem {f : α → Except ε β} {l : List α} {r : List β} (h : l.mapM f = .ok r) {b : β}
    (hb : b ∈ r) : ∃ a ∈ l, f a = .ok b := by
  rw [mapM_ok] at h
  induction h with
  | nil => cases hb
  | cons ha _ ih =>
    rcases List.mem_cons.1 hb with rfl | hb
    · exact ⟨_, List.mem_cons_self, ha⟩
    · obtain ⟨a, hmem, hab⟩ := ih hb
      exact ⟨a, List.mem_cons_of_mem _ hmem, hab⟩

lemma mapM_mem_left {f : α → Except ε β} {l : List α} {r : List β} (h : l.mapM f = .ok r) {a : α}
    (ha : a ∈ l) : ∃ b ∈ r, f a = .ok b := by
  rw [mapM_ok] at h
  induction h with
  | nil => cases ha
  | cons hb _ ih =>
    rcases List.mem_cons.1 ha with rfl | ha
    · exact ⟨_, List.mem_cons_self, hb⟩
    · obtain ⟨b, hmem, hab⟩ := ih ha
      exact ⟨b, List.mem_cons_of_mem _ hmem, hab⟩

/-- What each step keeps of an element is kept of the list. -/
lemma mapM_map {γ : Type} {f : α → Except ε β} {g : α → γ} {g' : β → γ} (hg : ∀ a b, f a = .ok b → g' b = g a)
    {l : List α} {r : List β} (h : l.mapM f = .ok r) : r.map g' = l.map g := by
  rw [mapM_ok] at h
  induction h with
  | nil => rfl
  | cons hb _ ih => rw [List.map_cons, List.map_cons, hg _ _ hb, ih]

/-- Two functions that map a list to the same list agree on it. -/
lemma mapM_agree {f g : α → Except ε β} {l : List α} {r : List β} (hf : l.mapM f = .ok r)
    (hg : l.mapM g = .ok r) {a : α} (ha : a ∈ l) : f a = g a := by
  rw [mapM_ok] at hf hg
  induction hf with
  | nil => cases ha
  | cons hb _ ih =>
    cases hg with
    | cons hb' hg =>
      rcases List.mem_cons.1 ha with rfl | ha
      · rw [hb, hb']
      · exact ih hg ha

section Filtered

variable {ε α : Type}

/-- The elements that pass a check which may raise. -/
def filtered (p : α → Except ε Bool) : List α → Except ε (List α)
  | [] => .ok []
  | a :: l => do
    let b ← p a
    let r ← filtered p l
    return if b then a :: r else r

lemma mem_filtered {p : α → Except ε Bool} {l r : List α} (h : filtered p l = .ok r) {a : α} :
    a ∈ r ↔ a ∈ l ∧ p a = .ok true := by
  induction l generalizing r with
  | nil =>
    obtain rfl := Except.ok.inj h
    simp
  | cons b l ih =>
    obtain ⟨c, hc, h⟩ := except_bind_ok.1 h
    obtain ⟨r', hr, h⟩ := except_bind_ok.1 h
    obtain rfl := except_pure_ok.1 h
    have hb : ∀ x, x = b → (p x = .ok true ↔ c = true) := by
      rintro x rfl
      rw [hc]
      exact ⟨fun he => Except.ok.inj he, fun he => he ▸ rfl⟩
    cases c with
    | true =>
      simp only [if_true, List.mem_cons, ih hr]
      constructor
      · rintro (ha | ⟨ha, hp⟩)
        · exact ⟨Or.inl ha, (hb a ha).2 rfl⟩
        · exact ⟨Or.inr ha, hp⟩
      · rintro ⟨ha | ha, hp⟩
        · exact Or.inl ha
        · exact Or.inr ⟨ha, hp⟩
    | false =>
      simp only [Bool.false_eq_true, if_false, List.mem_cons, ih hr]
      constructor
      · rintro ⟨ha, hp⟩
        exact ⟨Or.inr ha, hp⟩
      · rintro ⟨ha | ha, hp⟩
        · exact absurd ((hb a ha).1 hp) (by simp)
        · exact ⟨ha, hp⟩

lemma filtered_sublist {p : α → Except ε Bool} {l r : List α} (h : filtered p l = .ok r) :
    List.Sublist r l := by
  induction l generalizing r with
  | nil =>
    obtain rfl := Except.ok.inj h
    exact List.Sublist.refl _
  | cons b l ih =>
    obtain ⟨c, -, h⟩ := except_bind_ok.1 h
    obtain ⟨r', hr, h⟩ := except_bind_ok.1 h
    obtain rfl := except_pure_ok.1 h
    split_ifs
    · exact (ih hr).cons_cons b
    · exact (ih hr).cons b

end Filtered

end AdvMcp.Lib
