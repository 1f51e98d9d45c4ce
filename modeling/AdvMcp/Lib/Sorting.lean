import Mathlib.Data.List.Lex
import Mathlib.Data.List.Sort
import AdvMcp.Lib.Savepoint

/-!
# Sorting what cannot always be compared

A comparison `lt` may raise.  `sortBy` is a stable sort that raises when one of its comparisons does.

* `lexLt` — the comparison of two sequences by their first elements that differ;
* `Comparison` — an equality and a comparison that two linear orders agree with, and whose exceptions are
  where these two orders disagree.  `Comparison.lex`: so it is with sequences.

`sortBy_ok_iff` says that a list can be sorted exactly when every two of its elements can be compared.  The
argument is about any sort that only compares: without an exception its result is in both orders.
-/

namespace AdvMcp.Lib

section Definitions

variable {α ε : Type}

/-- `xs < ys`: the first elements that differ decide, and then the lengths. -/
def lexLt (eq : α → α → Bool) (lt : α → α → Except ε Bool) : List α → List α → Except ε Bool
  | [], ys => .ok (!ys.isEmpty)
  | _ :: _, [] => .ok false
  | x :: xs, y :: ys => if eq x y then lexLt eq lt xs ys else lt x y

/-- `xs == ys` -/
def lexEq (eq : α → α → Bool) (xs ys : List α) : Bool :=
  xs.length == ys.length && (xs.zip ys).all fun p => eq p.1 p.2

/-- The element goes in front of the first one that is greater. -/
def insertBy (lt : α → α → Except ε Bool) (a : α) : List α → Except ε (List α)
  | [] => .ok [a]
  | b :: l => do
    if ← lt a b then return a :: b :: l
    else return b :: (← insertBy lt a l)

def sortBy (lt : α → α → Except ε Bool) (l : List α) : Except ε (List α) :=
  l.foldlM (fun acc a => insertBy lt a acc) []

end Definitions

/-! ### Comparisons -/

section Comparisons

variable {α ε κ : Type} [LinearOrder κ] {D : α → Prop} {eq : α → α → Bool} {lt : α → α → Except ε Bool}
  {φ ψ : α → κ}

/-- The two orders disagree. -/
def Opposed (φ ψ : α → κ) (x y : α) : Prop := φ x < φ y ∧ ψ y < ψ x ∨ φ y < φ x ∧ ψ x < ψ y

/-- On `D` the orders of `φ` and `ψ` extend the comparison, one way and the other. -/
structure Comparison (D : α → Prop) (eq : α → α → Bool) (lt : α → α → Except ε Bool) (φ ψ : α → κ) : Prop where
  left : ∀ x y, D x → D y → (eq x y = true ↔ φ x = φ y)
  right : ∀ x y, D x → D y → (eq x y = true ↔ ψ x = ψ y)
  ok : ∀ x y c, D x → D y → lt x y = .ok c → (c = true ↔ φ x < φ y) ∧ (c = true ↔ ψ x < ψ y)
  error : ∀ x y e, D x → D y → lt x y = .error e → Opposed φ ψ x y

omit [LinearOrder κ] in
lemma lexEq_iff (h : ∀ x y, D x → D y → (eq x y = true ↔ φ x = φ y)) {xs ys : List α} (hx : ∀ x ∈ xs, D x)
    (hy : ∀ y ∈ ys, D y) : lexEq eq xs ys = true ↔ xs.map φ = ys.map φ := by
  unfold lexEq
  induction xs generalizing ys with
  | nil => cases ys <;> simp
  | cons x xs ih =>
    cases ys with
    | nil => simp
    | cons y ys =>
      have hxy := h x y (hx x List.mem_cons_self) (hy y List.mem_cons_self)
      have ih' := ih (fun x hmem => hx x (List.mem_cons_of_mem _ hmem)) fun y hmem =>
        hy y (List.mem_cons_of_mem _ hmem)
      simp only [Bool.and_eq_true, beq_iff_eq] at ih'
      simp only [List.length_cons, List.zip_cons_cons, List.all_cons, Bool.and_eq_true, beq_iff_eq,
        List.map_cons, List.cons.injEq, ← hxy, ← ih']
      constructor
      · rintro ⟨hlen, he, hall⟩
        exact ⟨he, by omega, hall⟩
      · rintro ⟨he, hlen, hall⟩
        exact ⟨by omega, he, hall⟩

lemma lexLt_ok (he : ∀ x y, D x → D y → (eq x y = true ↔ φ x = φ y))
    (hc : ∀ x y c, D x → D y → lt x y = .ok c → (c = true ↔ φ x < φ y)) {xs ys : List α} (hx : ∀ x ∈ xs, D x)
    (hy : ∀ y ∈ ys, D y) {c : Bool} (h : lexLt eq lt xs ys = .ok c) : c = true ↔ xs.map φ < ys.map φ := by
  induction xs generalizing ys with
  | nil =>
    obtain rfl := Except.ok.inj h
    cases ys <;> simp
  | cons x xs ih =>
    cases ys with
    | nil =>
      obtain rfl := Except.ok.inj h
      simp
    | cons y ys =>
      have hdx := hx x List.mem_cons_self
      have hdy := hy y List.mem_cons_self
      rw [List.map_cons, List.map_cons, List.cons_lt_cons_iff]
      unfold lexLt at h
      split_ifs at h with hxy
      · have hφ := (he x y hdx hdy).1 hxy
        rw [ih (fun x hmem => hx x (List.mem_cons_of_mem _ hmem))
          (fun y hmem => hy y (List.mem_cons_of_mem _ hmem)) h]
        simp [hφ]
      · have hφ : φ x ≠ φ y := fun hφ => hxy ((he x y hdx hdy).2 hφ)
        rw [hc x y c hdx hdy h]
        simp [hφ]

lemma lexLt_error (he : ∀ x y, D x → D y → (eq x y = true ↔ φ x = φ y))
    (he' : ∀ x y, D x → D y → (eq x y = true ↔ ψ x = ψ y))
    (hc : ∀ x y e, D x → D y → lt x y = .error e → Opposed φ ψ x y) {xs ys : List α} (hx : ∀ x ∈ xs, D x)
    (hy : ∀ y ∈ ys, D y) {e : ε} (h : lexLt eq lt xs ys = .error e) :
    Opposed (List.map φ) (List.map ψ) xs ys := by
  induction xs generalizing ys with
  | nil => cases h
  | cons x xs ih =>
    cases ys with
    | nil => cases h
    | cons y ys =>
      have hdx := hx x List.mem_cons_self
      have hdy := hy y List.mem_cons_self
      unfold Opposed
      simp only [List.map_cons, List.cons_lt_cons_iff]
      unfold lexLt at h
      split_ifs at h with hxy
      · have hφ := (he x y hdx hdy).1 hxy
        have hψ := (he' x y hdx hdy).1 hxy
        have hrest := ih (fun x hmem => hx x (List.mem_cons_of_mem _ hmem))
          (fun y hmem => hy y (List.mem_cons_of_mem _ hmem)) h
        unfold Opposed at hrest
        simpa [hφ, hψ] using hrest
      · rcases hc x y e hdx hdy h with ⟨h₁, h₂⟩ | ⟨h₁, h₂⟩
        · exact Or.inl ⟨Or.inl h₁, Or.inl h₂⟩
        · exact Or.inr ⟨Or.inl h₁, Or.inl h₂⟩

lemma Comparison.congr {eq' : α → α → Bool} (h : Comparison D eq lt φ ψ)
    (he : ∀ x y, D x → D y → eq' x y = eq x y) : Comparison D eq' lt φ ψ where
  left x y hx hy := by
    rw [he x y hx hy]
    exact h.left x y hx hy
  right x y hx hy := by
    rw [he x y hx hy]
    exact h.right x y hx hy
  ok := h.ok
  error := h.error

/-- **Sequences** compare as their elements do. -/
theorem Comparison.lex (h : Comparison D eq lt φ ψ) :
    Comparison (fun xs => ∀ x ∈ xs, D x) (lexEq eq) (lexLt eq lt) (List.map φ) (List.map ψ) where
  left _ _ hx hy := lexEq_iff h.left hx hy
  right _ _ hx hy := lexEq_iff h.right hx hy
  ok _ _ _ hx hy hc := ⟨lexLt_ok h.left (fun x y c hx hy hc => (h.ok x y c hx hy hc).1) hx hy hc,
    lexLt_ok h.right (fun x y c hx hy hc => (h.ok x y c hx hy hc).2) hx hy hc⟩
  error _ _ _ hx hy he := lexLt_error h.left h.right h.error hx hy he

end Comparisons

/-! ### The sort -/

section Sorting

variable {α ε κ : Type} {lt : α → α → Except ε Bool}

lemma insertBy_perm {a : α} {l r : List α} (h : insertBy lt a l = .ok r) : r.Perm (a :: l) := by
  induction l generalizing r with
  | nil =>
    obtain rfl := Except.ok.inj h
    exact List.Perm.refl _
  | cons b l ih =>
    unfold insertBy at h
    obtain ⟨c, -, h⟩ := except_bind_ok.1 h
    split_ifs at h
    · obtain rfl := except_pure_ok.1 h
      exact List.Perm.refl _
    · obtain ⟨r', hr, h⟩ := except_bind_ok.1 h
      obtain rfl := except_pure_ok.1 h
      exact ((ih hr).cons b).trans (List.Perm.swap a b l)

lemma foldlM_insertBy_perm {acc l r : List α} (h : l.foldlM (fun acc a => insertBy lt a acc) acc = .ok r) :
    r.Perm (acc ++ l) := by
  induction l generalizing acc with
  | nil =>
    obtain rfl := except_pure_ok.1 h
    rw [List.append_nil]
  | cons a l ih =>
    rw [List.foldlM_cons] at h
    obtain ⟨acc', ha, h⟩ := except_bind_ok.1 h
    have hacc := (insertBy_perm ha).append_right l
    exact (ih h).trans (hacc.trans List.perm_middle.symm)

/-- The result is a rearrangement. -/
theorem sortBy_perm {l r : List α} (h : sortBy lt l = .ok r) : r.Perm l := foldlM_insertBy_perm h

lemma insertBy_total {a : α} {l : List α} (h : ∀ b ∈ l, ∃ c, lt a b = .ok c) : ∃ r, insertBy lt a l = .ok r := by
  induction l with
  | nil => exact ⟨_, rfl⟩
  | cons b l ih =>
    obtain ⟨c, hc⟩ := h b List.mem_cons_self
    obtain ⟨r, hr⟩ := ih fun b hb => h b (List.mem_cons_of_mem _ hb)
    unfold insertBy
    rw [hc, hr]
    cases c
    · exact ⟨_, rfl⟩
    · exact ⟨_, rfl⟩

lemma foldlM_insertBy_total {acc l : List α} (hacc : ∀ a ∈ l, ∀ b ∈ acc, ∃ c, lt a b = .ok c)
    (hl : l.Pairwise fun b a => ∃ c, lt a b = .ok c) :
    ∃ r, l.foldlM (fun acc a => insertBy lt a acc) acc = .ok r := by
  induction l generalizing acc with
  | nil => exact ⟨acc, rfl⟩
  | cons a l ih =>
    obtain ⟨hhead, htail⟩ := List.pairwise_cons.1 hl
    obtain ⟨acc', ha⟩ := insertBy_total (hacc a List.mem_cons_self)
    rw [List.foldlM_cons, ha, ok_bind]
    refine ih ?_ htail
    intro x hx b hb
    rcases List.mem_cons.1 ((insertBy_perm ha).mem_iff.1 hb) with rfl | hb
    · exact hhead x hx
    · exact hacc x (List.mem_cons_of_mem _ hx) b hb

variable [LinearOrder κ] {D : α → Prop} {φ ψ : α → κ}

/-- The comparison answers what the order of `φ` says. -/
def Follows (D : α → Prop) (lt : α → α → Except ε Bool) (φ : α → κ) : Prop :=
  ∀ x y c, D x → D y → lt x y = .ok c → (c = true ↔ φ x < φ y)

lemma insertBy_sorted (hc : Follows D lt φ) {a : α} {l r : List α} (ha : D a) (hD : ∀ b ∈ l, D b)
    (hl : l.Pairwise fun x y => φ x ≤ φ y) (h : insertBy lt a l = .ok r) : r.Pairwise fun x y => φ x ≤ φ y := by
  induction l generalizing r with
  | nil =>
    obtain rfl := Except.ok.inj h
    exact List.pairwise_singleton _ _
  | cons b l ih =>
    obtain ⟨hhead, htail⟩ := List.pairwise_cons.1 hl
    unfold insertBy at h
    obtain ⟨c, hlt, h⟩ := except_bind_ok.1 h
    have hab := hc a b c ha (hD b List.mem_cons_self) hlt
    split_ifs at h with hct
    · obtain rfl := except_pure_ok.1 h
      have hlt' : φ a < φ b := hab.1 hct
      refine List.pairwise_cons.2 ⟨fun x hx => ?_, hl⟩
      rcases List.mem_cons.1 hx with rfl | hx
      · exact hlt'.le
      · exact hlt'.le.trans (hhead x hx)
    · obtain ⟨r', hr, h⟩ := except_bind_ok.1 h
      obtain rfl := except_pure_ok.1 h
      have hle : φ b ≤ φ a := not_lt.1 fun hlt' => hct (hab.2 hlt')
      refine List.pairwise_cons.2 ⟨fun x hx => ?_, ih (fun b hb => hD b (List.mem_cons_of_mem _ hb)) htail hr⟩
      rcases List.mem_cons.1 ((insertBy_perm hr).mem_iff.1 hx) with rfl | hx
      · exact hle
      · exact hhead x hx

lemma foldlM_insertBy_sorted (hc : Follows D lt φ) {acc l r : List α} (hacc : ∀ b ∈ acc, D b)
    (hD : ∀ b ∈ l, D b) (hs : acc.Pairwise fun x y => φ x ≤ φ y)
    (h : l.foldlM (fun acc a => insertBy lt a acc) acc = .ok r) : r.Pairwise fun x y => φ x ≤ φ y := by
  induction l generalizing acc with
  | nil =>
    obtain rfl := except_pure_ok.1 h
    exact hs
  | cons a l ih =>
    have ha := hD a List.mem_cons_self
    rw [List.foldlM_cons] at h
    obtain ⟨acc', hins, h⟩ := except_bind_ok.1 h
    refine ih ?_ (fun b hb => hD b (List.mem_cons_of_mem _ hb)) (insertBy_sorted hc ha hacc hs hins) h
    intro b hb
    rcases List.mem_cons.1 ((insertBy_perm hins).mem_iff.1 hb) with rfl | hb
    · exact ha
    · exact hacc b hb

/-- A result is sorted by every order that the comparison follows. -/
theorem sortBy_sorted (hc : Follows D lt φ) {l r : List α} (hD : ∀ b ∈ l, D b) (h : sortBy lt l = .ok r) :
    r.Pairwise fun x y => φ x ≤ φ y :=
  foldlM_insertBy_sorted hc (by simp) hD List.Pairwise.nil h

/-- **Two orders.**  A list that can be sorted has no two elements on which two orders disagree that the
comparison follows. -/
theorem sortBy_not_opposed (hφ : Follows D lt φ) (hψ : Follows D lt ψ) {l r : List α} (hD : ∀ b ∈ l, D b)
    (h : sortBy lt l = .ok r) {a b : α} (ha : a ∈ l) (hb : b ∈ l) : ¬ Opposed φ ψ a b := by
  have hboth : r.Pairwise fun x y => φ x ≤ φ y ∧ ψ x ≤ ψ y :=
    (sortBy_sorted hφ hD h).and (sortBy_sorted hψ hD h)
  have hsym : ∀ ⦃x⦄, x ∈ r → ∀ ⦃y⦄, y ∈ r → (φ x ≤ φ y ∧ ψ x ≤ ψ y) ∨ (φ y ≤ φ x ∧ ψ y ≤ ψ x) :=
    List.Pairwise.forall_of_forall_of_flip (fun x _ => Or.inl ⟨le_rfl, le_rfl⟩) (hboth.imp Or.inl)
      (hboth.imp Or.inr)
  have hperm := sortBy_perm h
  intro hop
  rcases hsym (hperm.mem_iff.2 ha) (hperm.mem_iff.2 hb) with ⟨h₁, h₂⟩ | ⟨h₁, h₂⟩
  · rcases hop with ⟨-, h₃⟩ | ⟨h₃, -⟩
    · exact absurd h₃ (not_lt.2 h₂)
    · exact absurd h₃ (not_lt.2 h₁)
  · rcases hop with ⟨h₃, -⟩ | ⟨-, h₃⟩
    · exact absurd h₃ (not_lt.2 h₁)
    · exact absurd h₃ (not_lt.2 h₂)

/-- **What can be sorted**: exactly what can be compared, every two elements. -/
theorem sortBy_ok_iff {eq : α → α → Bool} (hc : Comparison D eq lt φ ψ) {l : List α} (hD : ∀ b ∈ l, D b)
    (hnd : l.Nodup) : (∃ r, sortBy lt l = .ok r) ↔ ∀ a ∈ l, ∀ b ∈ l, a ≠ b → ∃ c, lt a b = .ok c := by
  constructor
  · rintro ⟨r, hr⟩ a ha b hb -
    cases hab : lt a b with
    | ok c => exact ⟨c, rfl⟩
    | error e =>
      have hop := hc.error a b e (hD a ha) (hD b hb) hab
      exact absurd hop (sortBy_not_opposed (fun x y c hx hy h => (hc.ok x y c hx hy h).1)
        (fun x y c hx hy h => (hc.ok x y c hx hy h).2) hD hr ha hb)
  · intro h
    refine foldlM_insertBy_total (by simp) ?_
    refine (List.pairwise_iff_forall_sublist.2 fun {x y} hsub => ?_)
    have hmem : x ∈ l ∧ y ∈ l := ⟨hsub.subset (by simp), hsub.subset (by simp)⟩
    have hxy : x ≠ y := by
      have := hnd.sublist hsub
      simpa using this
    exact h y hmem.2 x hmem.1 (Ne.symm hxy)

end Sorting

end AdvMcp.Lib
