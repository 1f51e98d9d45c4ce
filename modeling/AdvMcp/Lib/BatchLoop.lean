import Mathlib.Data.List.Perm.Subperm
import AdvMcp.Lib.Loop
import AdvMcp.Lib.Table

/-!
# Loops that delete in batches

A search returns at most `n` of the rows that satisfy a test, and the loop deletes them.

* `unlinkBatched` searches again after every batch, in no order, and stops when nothing is found.
  Every deleted row is one that the next search no longer finds.
* `sweepBatched` spares some of the rows found.  It searches in the order of the keys, past the last
  key seen (`past`), so what is spared is not met again: `past_rest`.

Both are totally correct for every `n > 0` and every table whose keys are distinct, and delete at the
end what one deletion of all the rows would: `unlinkBatched_total`, `sweepBatched_total`.
-/

namespace AdvMcp.Lib

section

variable {σ α : Type*}

/-- What a search with a limit may return. -/
def Batch (n : ℕ) (found batch : List α) : Prop :=
  batch.Subperm found ∧ batch.length = min n found.length

/-- Deleting rows of a table by their keys. -/
structure Deletion (rows : σ → List α) (key : α → ℕ) (unlink : σ → List α → σ) : Prop where
  rows_unlink : ∀ s b, rows (unlink s b) = (rows s).filter fun r => key r ∉ b.map key
  unlink_nil : ∀ s, unlink s [] = s
  unlink_unlink : ∀ s b c, unlink (unlink s b) c = unlink s (b ++ c)
  unlink_congr : ∀ s b c, (∀ k, k ∈ b.map key ↔ k ∈ c.map key) → unlink s b = unlink s c

/-- A turn of the loop that searches again. -/
def unlinkBatched (rows : σ → List α) (unlink : σ → List α → σ) (p : α → Bool) (n : ℕ) :
    σ × ℕ → Option (σ × ℕ) → Prop
  | (s, count), o => ∃ batch, Batch n ((rows s).filter p) batch ∧
      o = if batch.isEmpty then none else some (unlink s batch, count + batch.length)

/-- The rows past a key that satisfy `p`, in the order of their keys. -/
def past (key : α → ℕ) (p : α → Bool) (last : ℕ) (rows : List α) : List α :=
  (rows.filter fun r => p r && decide (last < key r)).mergeSort fun a b => decide (key a ≤ key b)

/-- A turn of the loop that keeps a cursor and deletes what `q` picks. -/
def sweepBatched (rows : σ → List α) (key : α → ℕ) (unlink : σ → List α → σ) (p q : α → Bool) (n : ℕ) :
    σ × ℕ × ℕ → Option (σ × ℕ × ℕ) → Prop
  | (s, last, count), o =>
    let batch := (past key p last (rows s)).take n
    o = match batch.getLast? with
      | none => none
      | some r => some (unlink s (batch.filter q), key r, count + (batch.filter q).length)

end

/-! ### What a batch leaves -/

section Rest

variable {α : Type*} {key : α → ℕ} {p : α → Bool} {l b : List α} {n last : ℕ}

lemma batch_take (n : ℕ) (l : List α) : Batch n l (l.take n) :=
  ⟨(List.take_sublist n l).subperm, List.length_take⟩

/-- A batch, and the rows that the next search finds. -/
lemma batch_append_rest (hl : (l.map key).Nodup) (hb : b.Subperm (l.filter p)) :
    (b ++ (l.filter fun r => key r ∉ b.map key).filter p).Perm (l.filter p) := by
  have hfound : ((l.filter p).map key).Nodup := (List.filter_sublist.map key).nodup hl
  have hbn : b.Nodup := by
    obtain ⟨b', hperm, hsub⟩ := hb
    exact hperm.nodup_iff.1 (hsub.nodup (hfound.of_map key))
  have hmem : ∀ x, x ∈ (l.filter fun r => key r ∉ b.map key).filter p ↔
      x ∈ l.filter p ∧ key x ∉ b.map key := by
    intro x
    simp only [List.mem_filter, decide_eq_true_eq]
    tauto
  have hnodup : (b ++ (l.filter fun r => key r ∉ b.map key).filter p).Nodup := by
    refine hbn.append (((hl.of_map key).filter _).filter _) fun x hx hx' => ?_
    exact ((hmem x).1 hx').2 (List.mem_map_of_mem hx)
  refine (List.perm_ext_iff_of_nodup hnodup (hfound.of_map key)).2 fun x => ?_
  rw [List.mem_append, hmem]
  constructor
  · rintro (hx | hx)
    · exact hb.subset hx
    · exact hx.1
  · intro hx
    by_cases hk : key x ∈ b.map key
    · obtain ⟨y, hy, he⟩ := List.mem_map.1 hk
      rw [← List.inj_on_of_nodup_map hfound (hb.subset hy) hx he]
      exact Or.inl hy
    · exact Or.inr ⟨hx, hk⟩

lemma mem_past {x : α} : x ∈ past key p last l ↔ x ∈ l ∧ p x = true ∧ last < key x := by
  unfold past
  rw [List.mem_mergeSort, List.mem_filter]
  simp

lemma past_sorted : (past key p last l).Pairwise fun a b => key a ≤ key b := by
  unfold past
  refine (List.pairwise_mergeSort (fun a b c => ?_) (fun a b => ?_) _).imp fun h => by simpa using h
  · simp only [decide_eq_true_eq]
    omega
  · simp only [Bool.or_eq_true, decide_eq_true_eq]
    omega

lemma past_nodup (hl : (l.map key).Nodup) : ((past key p last l).map key).Nodup := by
  unfold past
  rw [((List.mergeSort_perm _ _).map _).nodup_iff]
  exact (List.filter_sublist.map _).nodup hl

/-- Rows sorted by distinct keys are determined by what they are. -/
lemma sorted_ext {l l' : List α} (hn : (l.map key).Nodup) (hn' : (l'.map key).Nodup)
    (hs : l.Pairwise fun a b => key a ≤ key b) (hs' : l'.Pairwise fun a b => key a ≤ key b)
    (hm : ∀ c, c ∈ l ↔ c ∈ l') : l = l' := by
  refine List.Perm.eq_of_pairwise (fun a b ha hb hab hba => ?_) hs hs' ?_
  · exact List.inj_on_of_nodup_map hn ha ((hm b).2 hb) (Nat.le_antisymm hab hba)
  · exact (List.perm_ext_iff_of_nodup (hn.of_map _) (hn'.of_map _)).2 hm

/-- A batch taken off the front leaves its rest to be found past its last key, whatever rows up to that
key are deleted. -/
theorem past_rest (hl : (l.map key).Nodup) {r : α} {c : List α} (hL : past key p last l = b ++ r :: c)
    {del : List α} (hdel : ∀ x ∈ del, key x ≤ key r) :
    past key p (key r) (l.filter fun x => key x ∉ del.map key) = c := by
  have hs : (past key p last l).Pairwise fun a b => key a ≤ key b := past_sorted
  have hn : ((past key p last l).map key).Nodup := past_nodup hl
  have hr : last < key r := (mem_past.1 (show r ∈ past key p last l by rw [hL]; simp)).2.2
  rw [hL] at hs hn
  obtain ⟨-, hsc, hbr⟩ := List.pairwise_append.1 hs
  rw [List.map_append, List.map_cons] at hn
  have hnc := List.nodup_cons.1 (List.nodup_append.1 hn).2.1
  have hafter : ∀ x ∈ c, key r < key x := by
    intro x hx
    have hle : key r ≤ key x := (List.pairwise_cons.1 hsc).1 x hx
    have hne : key r ≠ key x := fun he => hnc.1 (he ▸ List.mem_map_of_mem hx)
    omega
  have hmem : ∀ x, x ∈ c ↔ x ∈ l ∧ p x = true ∧ key r < key x := by
    intro x
    have hx : x ∈ past key p last l ↔ x ∈ b ∨ x = r ∨ x ∈ c := by rw [hL]; simp
    rw [mem_past] at hx
    constructor
    · intro hc
      obtain ⟨h1, h2, -⟩ := hx.2 (Or.inr (Or.inr hc))
      exact ⟨h1, h2, hafter x hc⟩
    · rintro ⟨h1, h2, h3⟩
      rcases hx.1 ⟨h1, h2, by omega⟩ with hb | rfl | hc
      · have hle := hbr x hb r List.mem_cons_self
        omega
      · omega
      · exact hc
  refine sorted_ext (past_nodup ((List.filter_sublist.map _).nodup hl)) hnc.2 past_sorted
    (List.pairwise_cons.1 hsc).2 fun x => ?_
  rw [mem_past, hmem, List.mem_filter]
  constructor
  · rintro ⟨⟨h1, -⟩, h2⟩
    exact ⟨h1, h2⟩
  · rintro ⟨h1, h2, h3⟩
    refine ⟨⟨h1, decide_eq_true fun hm => ?_⟩, h2, h3⟩
    obtain ⟨y, hy, he⟩ := List.mem_map.1 hm
    have hle := hdel y hy
    omega

end Rest

/-! ### The loops -/

section Loops

variable {σ α : Type*} {rows : σ → List α} {key : α → ℕ} {unlink : σ → List α → σ} {p q : α → Bool} {n : ℕ}

lemma Deletion.keys_nodup (hd : Deletion rows key unlink) {s : σ} (hs : ((rows s).map key).Nodup)
    (b : List α) : ((rows (unlink s b)).map key).Nodup := by
  rw [hd.rows_unlink]
  exact (List.filter_sublist.map key).nodup hs

/-- **The loop that searches again** deletes the rows that satisfy `p` and counts them. -/
theorem unlinkBatched_total (hd : Deletion rows key unlink) (hn : 0 < n) {s : σ}
    (hs : ((rows s).map key).Nodup) (count : ℕ) :
    Total (unlinkBatched rows unlink p n) (s, count)
      (· = (unlink s ((rows s).filter p), count + ((rows s).filter p).length)) := by
  -- `d` is what has been deleted so far
  let I (t : σ × ℕ) : Prop := ∃ d, (d ++ (rows t.1).filter p).Perm ((rows s).filter p) ∧
    t.1 = unlink s d ∧ t.2 = count + d.length
  have hstart : I (s, count) := ⟨[], by simp, (hd.unlink_nil s).symm, rfl⟩
  refine total_of_variant (I := I) (fun t => ((rows t.1).filter p).length) ?_ ?_ ?_ hstart
  · rintro ⟨t, c⟩ t' ⟨d, hperm, rfl, rfl⟩ ⟨batch, ⟨hsub, hlen⟩, hturn⟩
    by_cases hb : batch = []
    · simp [hb] at hturn
    · have hrest := batch_append_rest (hd.keys_nodup hs d) hsub
      have hpos : 0 < batch.length := List.length_pos_iff.2 hb
      rw [if_neg (by simpa using hb), Option.some_inj] at hturn
      subst hturn
      rw [← hd.rows_unlink] at hrest
      refine ⟨⟨d ++ batch, ?_, hd.unlink_unlink _ _ _, ?_⟩, ?_⟩
      · rw [List.append_assoc]
        exact (hrest.append_left d).trans hperm
      · simp only [List.length_append]
        omega
      · have hl := hrest.length_eq
        rw [List.length_append] at hl
        simp only
        omega
  · rintro ⟨t, c⟩ -
    exact ⟨_, _, batch_take n _, rfl⟩
  · rintro ⟨t, c⟩ ⟨d, hperm, rfl, rfl⟩ ⟨batch, ⟨-, hlen⟩, hleave⟩
    have hb : batch = [] := by
      by_contra hb
      rw [if_neg (by simpa using hb)] at hleave
      cases hleave
    have hnone : (rows (unlink s d)).filter p = [] := by
      rw [hb, List.length_nil] at hlen
      exact List.length_eq_zero_iff.1 (by omega)
    rw [hnone, List.append_nil] at hperm
    rw [hd.unlink_congr s d _ fun k => (hperm.map key).mem_iff, hperm.length_eq]

/-- **The loop with a cursor** deletes what `q` picks of the rows past the cursor, and counts it. -/
theorem sweepBatched_total (hd : Deletion rows key unlink) (hn : 0 < n) {s : σ}
    (hs : ((rows s).map key).Nodup) (last count : ℕ) :
    Total (sweepBatched rows key unlink p q n) (s, last, count)
      (fun t => t.1 = unlink s ((past key p last (rows s)).filter q) ∧
        t.2.2 = count + ((past key p last (rows s)).filter q).length) := by
  -- `d` is what the cursor has gone past so far
  let I (t : σ × ℕ × ℕ) : Prop := ∃ d, past key p last (rows s) = d ++ past key p t.2.1 (rows t.1) ∧
    t.1 = unlink s (d.filter q) ∧ t.2.2 = count + (d.filter q).length
  have hstart : I (s, last, count) := ⟨[], rfl, (hd.unlink_nil s).symm, rfl⟩
  refine total_of_variant (I := I) (fun t => (past key p t.2.1 (rows t.1)).length) ?_ ?_ ?_ hstart
  · rintro ⟨t, l, c⟩ t' ⟨d, hpast, rfl, rfl⟩ hturn
    simp only [sweepBatched] at hturn
    simp only at hpast ⊢
    cases hlast : ((past key p l (rows (unlink s (d.filter q)))).take n).getLast? with
    | none =>
      rw [hlast] at hturn
      cases hturn
    | some r =>
      rw [hlast, Option.some_inj] at hturn
      subst hturn
      obtain ⟨b, hbatch⟩ := List.getLast?_eq_some_iff.1 hlast
      have hsplit : past key p l (rows (unlink s (d.filter q))) =
          b ++ r :: (past key p l (rows (unlink s (d.filter q)))).drop n := by
        conv_lhs => rw [← List.take_append_drop n (past key p l (rows (unlink s (d.filter q)))), hbatch]
        simp
      have hle : ∀ x ∈ (b ++ [r]).filter q, key x ≤ key r := by
        intro x hx
        have hsorted : (past key p l (rows (unlink s (d.filter q)))).Pairwise fun a b => key a ≤ key b :=
          past_sorted
        rw [hsplit] at hsorted
        rcases List.mem_append.1 (List.mem_of_mem_filter hx) with hx | hx
        · exact (List.pairwise_append.1 hsorted).2.2 x hx r List.mem_cons_self
        · exact Nat.le_of_eq (congrArg key (List.mem_singleton.1 hx))
      have hrest := past_rest (hd.keys_nodup hs _) hsplit hle
      rw [← hd.rows_unlink] at hrest
      rw [hbatch]
      refine ⟨⟨d ++ (b ++ [r]), ?_, ?_, ?_⟩, ?_⟩
      · simp only
        rw [hrest, hpast]
        conv_lhs => rw [hsplit]
        simp
      · rw [List.filter_append d (b ++ [r]), ← hd.unlink_unlink]
      · rw [List.filter_append d (b ++ [r]), List.length_append]
        simp only
        omega
      · simp only
        rw [hrest]
        conv_rhs => rw [hsplit]
        simp only [List.length_append, List.length_cons]
        omega
  · rintro ⟨t, l, c⟩ -
    exact ⟨_, rfl⟩
  · rintro ⟨t, l, c⟩ ⟨d, hpast, rfl, rfl⟩ hleave
    simp only [sweepBatched] at hleave
    simp only at hpast ⊢
    have hnone : past key p l (rows (unlink s (d.filter q))) = [] := by
      cases hlast : ((past key p l (rows (unlink s (d.filter q)))).take n).getLast? with
      | none =>
        rcases List.take_eq_nil_iff.1 (List.getLast?_eq_none_iff.1 hlast) with h | h
        · omega
        · exact h
      | some r =>
        rw [hlast] at hleave
        cases hleave
    rw [hpast, hnone, List.append_nil]
    exact ⟨rfl, rfl⟩

end Loops

end AdvMcp.Lib
