import Mathlib.Data.List.Basic

/-!
# Reading a list page by page

A pager shows `size` rows from an offset on, but from no offset above `cap`: a page asked for beyond is
shown from `cap`.  It names the offset behind the page while there are rows behind it.

* `Pages` — the pages that a reader sees who follows the named offsets to the end;
* `pages_complete_iff` — the reader comes to an end and has seen every row once, in order, exactly when
  the last page starts within the cap.
-/

namespace AdvMcp.Lib

variable {β : Type*} {rows : List β} {size cap : ℕ}

/-- The reader who starts at an offset comes to an end, and has seen these pages. -/
inductive Pages (rows : List β) (size cap : ℕ) : ℕ → List (List β) → Prop
  | last {o : ℕ} : rows.length ≤ min o cap + size →
      Pages rows size cap o [(rows.drop (min o cap)).take size]
  | next {o : ℕ} {ps : List (List β)} : min o cap + size < rows.length →
      Pages rows size cap (min o cap + size) ps →
      Pages rows size cap o ((rows.drop (min o cap)).take size :: ps)

/-- While the offsets stay within the cap, the pages are the rest of the rows. -/
lemma pages_within (hlen : rows.length ≤ (cap / size + 1) * size) :
    ∀ d j : ℕ, j + d = cap / size →
      ∃ ps, Pages rows size cap (j * size) ps ∧ ps.flatten = rows.drop (j * size) := by
  have hcap : cap / size * size ≤ cap := Nat.div_mul_le_self cap size
  intro d
  induction d with
  | zero =>
    intro j hj
    have hmin : min (j * size) cap = j * size := by
      rw [Nat.min_eq_left]
      rw [← hj, Nat.add_zero] at hcap
      exact hcap
    refine ⟨_, .last ?_, ?_⟩
    · rw [hmin]
      rw [← hj, Nat.add_zero, Nat.succ_mul] at hlen
      exact hlen
    · rw [hmin, List.flatten_singleton]
      rw [← hj, Nat.add_zero, Nat.succ_mul] at hlen
      refine List.take_of_length_le ?_
      rw [List.length_drop]
      omega
  | succ d ih =>
    intro j hj
    have hle : j * size ≤ cap / size * size := Nat.mul_le_mul_right size (by omega)
    have hmin : min (j * size) cap = j * size := Nat.min_eq_left (Nat.le_trans hle hcap)
    by_cases hmore : j * size + size < rows.length
    · obtain ⟨ps, hps, hflat⟩ := ih (j + 1) (by omega)
      rw [Nat.succ_mul] at hps hflat
      rw [← hmin] at hmore hps
      refine ⟨_, .next hmore hps, ?_⟩
      rw [hmin, List.flatten_cons, hflat, ← List.drop_drop, List.take_append_drop]
    · refine ⟨_, .last (by rw [hmin]; omega), ?_⟩
      rw [hmin, List.flatten_singleton]
      refine List.take_of_length_le ?_
      rw [List.length_drop]
      omega

/-- A reader beyond the cap is shown the page at the cap again and again, unless it is the last one. -/
lemma pages_beyond {o : ℕ} {ps : List (List β)} (h : Pages rows size cap o ps) (ho : cap ≤ o) :
    rows.length ≤ cap + size := by
  induction h with
  | @last o hlast =>
    rw [Nat.min_eq_right ho] at hlast
    exact hlast
  | @next o ps _ _ ih =>
    rw [Nat.min_eq_right ho] at ih
    exact ih (by omega)

/-- When a page is needed beyond the cap, a reader who comes to an end has seen too many rows. -/
lemma pages_excess (hlen : (cap / size + 1) * size < rows.length) (hs : 0 < size) {o : ℕ}
    {ps : List (List β)} (h : Pages rows size cap o ps) :
    ∀ j ≤ cap / size + 1, o = j * size → rows.length < o + ps.flatten.length := by
  have hcap : cap / size * size ≤ cap := Nat.div_mul_le_self cap size
  have hcap' : cap < (cap / size + 1) * size := by
    rw [Nat.mul_comm]
    exact Nat.lt_mul_div_succ cap hs
  induction h with
  | @last o hlast =>
    intro j hj ho
    have hsucc : (cap / size + 1) * size = cap / size * size + size := Nat.succ_mul _ _
    by_cases hjk : j ≤ cap / size
    · -- a page within the cap has rows behind it
      have hle : j * size ≤ cap / size * size := Nat.mul_le_mul_right size hjk
      have hmin : min o cap = j * size := by omega
      rw [hmin] at hlast
      omega
    · obtain rfl : j = cap / size + 1 := by omega
      have hmin : min o cap = cap := by omega
      rw [hmin] at hlast ⊢
      rw [List.flatten_singleton, List.length_take, List.length_drop]
      omega
  | @next o ps hmore hps ih =>
    intro j hj ho
    have hsucc : (cap / size + 1) * size = cap / size * size + size := Nat.succ_mul _ _
    by_cases hjk : j ≤ cap / size
    · have hle : j * size ≤ cap / size * size := Nat.mul_le_mul_right size hjk
      have hmin : min o cap = j * size := by omega
      have hrest := ih (j + 1) (by omega) (by rw [hmin, Nat.succ_mul])
      rw [List.flatten_cons, List.length_append, List.length_take, List.length_drop]
      omega
    · obtain rfl : j = cap / size + 1 := by omega
      have hmin : min o cap = cap := by omega
      rw [hmin] at hmore hps
      have hend := pages_beyond hps (by omega)
      omega

/-- **Reading to the end.** -/
theorem pages_complete_iff (hs : 0 < size) :
    (∃ ps, Pages rows size cap 0 ps ∧ ps.flatten = rows) ↔
      rows.length ≤ (cap / size + 1) * size := by
  constructor
  · rintro ⟨ps, hps, hflat⟩
    by_contra hlen
    have hexcess := pages_excess (by omega) hs hps 0 (Nat.zero_le _) (Nat.zero_mul size).symm
    rw [hflat] at hexcess
    omega
  · intro hlen
    obtain ⟨ps, hps, hflat⟩ := pages_within hlen (cap / size) 0 (Nat.zero_add _)
    rw [Nat.zero_mul] at hps hflat
    exact ⟨ps, hps, hflat⟩

end AdvMcp.Lib
