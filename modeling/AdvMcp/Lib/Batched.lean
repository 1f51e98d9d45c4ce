import Mathlib.Data.List.Basic

/-!
# Deletion in batches

Two loops over a store that delete what a search returns, `n` rows at a time.

* `drain` searches again after every batch and stops at an empty one;
* `sweep` keeps a cursor: it searches the rows past the last one seen, in the order of their keys,
  and deletes only those of the batch that `q` picks, so rows it spares are not met again.

`drain_inv` and `sweep_inv` carry an invariant of the deletions through the loops.

Both are run with a bound on the number of turns; `drain_eq` and `sweep_eq` say that a bound as
large as the number of rows the search returns is enough, and that the loop then deletes at one
stroke what it deletes batch by batch.
-/

namespace AdvMcp.Lib

variable {σ α : Type*}

section Drain

variable (search : σ → List α) (unlink : σ → List α → σ) (n : ℕ)

/-- Search, delete the first `n` rows found, and search again. -/
def drain : ℕ → σ → σ × ℕ
  | 0, s => (s, 0)
  | k + 1, s =>
    let batch := (search s).take n
    if batch.isEmpty then (s, 0)
    else
      let r := drain k (unlink s batch)
      (r.1, batch.length + r.2)

variable {search unlink n}

/-- What every deletion keeps is kept by the loop. -/
lemma drain_inv {I : σ → Prop} (hu : ∀ s b, I s → I (unlink s b)) (k : ℕ) (s : σ) (h : I s) :
    I (drain search unlink n k s).1 := by
  induction k generalizing s with
  | zero => exact h
  | succ k ih =>
    unfold drain
    simp only
    split_ifs
    · exact h
    · exact ih _ (hu _ _ h)

/-- **The loop deletes what its search selects**, when deleting the rows found first leaves the
others to be found. -/
theorem drain_eq {I : σ → Prop} (hn : 0 < n) (hnil : ∀ s, unlink s [] = s)
    (hcomp : ∀ s b c, unlink (unlink s b) c = unlink s (b ++ c))
    (hI : ∀ s b c, I s → search s = b ++ c → I (unlink s b) ∧ search (unlink s b) = c) :
    ∀ (k : ℕ) (s : σ), I s → (search s).length ≤ k →
      drain search unlink n k s = (unlink s (search s), (search s).length) := by
  intro k
  induction k with
  | zero =>
    intro s _ hk
    have h0 : search s = [] := List.length_eq_zero_iff.1 (Nat.le_zero.1 hk)
    simp [drain, h0, hnil]
  | succ k ih =>
    intro s hs hk
    by_cases hb : (search s).take n = []
    · have h0 : search s = [] := by
        rcases List.take_eq_nil_iff.1 hb with h | h
        · omega
        · exact h
      simp [drain, h0, hnil]
    · have hsplit : search s = (search s).take n ++ (search s).drop n :=
        (List.take_append_drop n _).symm
      obtain ⟨hI', hrest⟩ := hI s _ _ hs hsplit
      have hlen : (search s).length = ((search s).take n).length + ((search s).drop n).length := by
        conv_lhs => rw [hsplit, List.length_append]
      have hpos : 0 < ((search s).take n).length := List.length_pos_iff.2 hb
      have hrec := ih (unlink s ((search s).take n)) hI' (by rw [hrest]; omega)
      rw [hrest, hcomp, List.take_append_drop] at hrec
      have hne : ((search s).take n).isEmpty = false := by simpa using hb
      simp only [drain, hne, Bool.false_eq_true, if_false, hrec]
      rw [hlen]

end Drain

section Sweep

variable {κ : Type*} (search : σ → κ → List α) (key : α → κ) (q : α → Bool)
  (unlink : σ → List α → σ) (n : ℕ)

/-- Search past the cursor, delete the rows of the batch that `q` picks, and move the cursor to the
end of the batch. -/
def sweep : ℕ → κ → σ → σ × ℕ
  | 0, _, s => (s, 0)
  | k + 1, last, s =>
    match ((search s last).take n).getLast? with
    | none => (s, 0)
    | some r =>
      let del := ((search s last).take n).filter q
      let t := sweep k (key r) (unlink s del)
      (t.1, del.length + t.2)

variable {search key q unlink n}

/-- What every deletion keeps is kept by the loop. -/
lemma sweep_inv {I : σ → Prop} (hu : ∀ s b, I s → I (unlink s b)) (k : ℕ) (last : κ) (s : σ)
    (h : I s) : I (sweep search key q unlink n k last s).1 := by
  induction k generalizing last s with
  | zero => exact h
  | succ k ih =>
    unfold sweep
    split
    · exact h
    · exact ih _ _ (hu _ _ h)

/-- **The cursor loop deletes what `q` picks** of what its first search returns. -/
theorem sweep_eq {I : σ → Prop} (hn : 0 < n) (hnil : ∀ s, unlink s [] = s)
    (hcomp : ∀ s b c, unlink (unlink s b) c = unlink s (b ++ c))
    (hI : ∀ s last b r c, I s → search s last = b ++ r :: c →
      I (unlink s ((b ++ [r]).filter q)) ∧ search (unlink s ((b ++ [r]).filter q)) (key r) = c) :
    ∀ (k : ℕ) (last : κ) (s : σ), I s → (search s last).length ≤ k →
      sweep search key q unlink n k last s =
        (unlink s ((search s last).filter q), ((search s last).filter q).length) := by
  intro k
  induction k with
  | zero =>
    intro last s _ hk
    have h0 : search s last = [] := List.length_eq_zero_iff.1 (Nat.le_zero.1 hk)
    simp [sweep, h0, hnil]
  | succ k ih =>
    intro last s hs hk
    cases hb : ((search s last).take n).getLast? with
    | none =>
      have h0 : search s last = [] := by
        rcases List.take_eq_nil_iff.1 (List.getLast?_eq_none_iff.1 hb) with h | h
        · omega
        · exact h
      simp [sweep, h0, hnil]
    | some r =>
      obtain ⟨b, hbr⟩ := List.getLast?_eq_some_iff.1 hb
      have hsplit : search s last = b ++ r :: (search s last).drop n := by
        conv_lhs => rw [← List.take_append_drop n (search s last), hbr]
        simp
      obtain ⟨hI', hrest⟩ := hI s last b r _ hs hsplit
      have hlen : (search s last).length = b.length + 1 + ((search s last).drop n).length := by
        conv_lhs => rw [hsplit]
        simp only [List.length_append, List.length_cons]; omega
      have hrec := ih (key r) (unlink s ((b ++ [r]).filter q)) hI' (by rw [hrest]; omega)
      have hf : (search s last).filter q =
          (b ++ [r]).filter q ++ ((search s last).drop n).filter q := by
        conv_lhs => rw [hsplit]
        simp [List.filter_append, List.filter_cons]
        split_ifs <;> simp
      rw [hrest, hcomp, ← hf] at hrec
      simp only [sweep, hbr, List.getLast?_concat, hrec]
      rw [hf, List.length_append]

end Sweep

end AdvMcp.Lib
