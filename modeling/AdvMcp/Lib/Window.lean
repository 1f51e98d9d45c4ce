import Mathlib.Algebra.Order.Group.Defs
import Mathlib.Data.List.Count
import Mathlib.Data.List.TakeWhile

/-!
# Sliding windows

Times that are admitted one after the other, each only if few of the earlier ones lie in the window that
ends with it; and a bucket that keeps the last of them.

* `Bucket` — a bucket from which nothing was dropped that is younger than a cutoff, with the rules for
  dropping and for pushing; its length bounds the number of times behind the cutoff;
* `Admitted` — the lists of times that may arise;
* `Admitted.window_le` — then no window at all holds more than the bound.
-/

namespace AdvMcp.Lib

variable {τ : Type*} [LinearOrder τ]

/-! ### The bucket -/

section Bucket

variable {c c' : τ} {ts bucket : List τ}

/-- The bucket holds the last of the times, and those before it are not later than `c`. -/
def Bucket (c : τ) (ts bucket : List τ) : Prop := ∃ old, ts = old ++ bucket ∧ ∀ u ∈ old, u ≤ c

lemma Bucket.mono (h : Bucket c ts bucket) (hc : c ≤ c') : Bucket c' ts bucket := by
  obtain ⟨old, rfl, hold⟩ := h
  exact ⟨old, rfl, fun u hu => (hold u hu).trans hc⟩

/-- What has come to the cutoff is dropped from the front. -/
lemma Bucket.drop (h : Bucket c ts bucket) : Bucket c ts (bucket.dropWhile fun u => decide (u ≤ c)) := by
  obtain ⟨old, rfl, hold⟩ := h
  refine ⟨old ++ bucket.takeWhile fun u => decide (u ≤ c), ?_, fun u hu => ?_⟩
  · rw [List.append_assoc, List.takeWhile_append_dropWhile]
  · rcases List.mem_append.1 hu with hu | hu
    · exact hold u hu
    · have hdrop := List.mem_takeWhile_imp hu
      exact of_decide_eq_true hdrop

lemma Bucket.push (h : Bucket c ts bucket) (t : τ) : Bucket c (ts ++ [t]) (bucket ++ [t]) := by
  obtain ⟨old, rfl, hold⟩ := h
  exact ⟨old, List.append_assoc old bucket [t], hold⟩

/-- The times behind the cutoff are in the bucket. -/
lemma Bucket.count_le (h : Bucket c ts bucket) : (ts.countP fun u => decide (c < u)) ≤ bucket.length := by
  obtain ⟨old, rfl, hold⟩ := h
  rw [List.countP_append]
  have hzero : (old.countP fun u => decide (c < u)) = 0 :=
    List.countP_eq_zero.2 fun u hu => by simpa using hold u hu
  have hle : (bucket.countP fun u => decide (c < u)) ≤ bucket.length := List.countP_le_length
  omega

/-- Of times in order, those behind the cutoff are what is left of the bucket when the old ones are dropped. -/
lemma Bucket.count_eq (h : Bucket c ts bucket) (hs : ts.Pairwise (· ≤ ·)) :
    (bucket.dropWhile fun u => decide (u ≤ c)).length = ts.countP fun u => decide (c < u) := by
  obtain ⟨old, rfl, hold⟩ := h
  have hzero : (old.countP fun u => decide (c < u)) = 0 :=
    List.countP_eq_zero.2 fun u hu => by simpa using hold u hu
  have hbucket := (List.pairwise_append.1 hs).2.1
  rw [List.countP_append, hzero, Nat.zero_add]
  clear hs hold hzero
  induction bucket with
  | nil => rfl
  | cons u bucket ih =>
    obtain ⟨hu, hbucket⟩ := List.pairwise_cons.1 hbucket
    by_cases hc : u ≤ c
    · rw [List.dropWhile_cons_of_pos (by simpa using hc), List.countP_cons_of_neg (by simpa using hc)]
      exact ih hbucket
    · have hall : ∀ v ∈ u :: bucket, decide (c < v) = true := by
        intro v hv
        rcases List.mem_cons.1 hv with rfl | hv
        · simpa using hc
        · have hle := hu v hv
          exact decide_eq_true (lt_of_lt_of_le (not_le.1 hc) hle)
      rw [List.dropWhile_cons_of_neg (by simpa using hc), List.countP_eq_length.2 hall]

/-- Dropping twice is dropping behind the later cutoff. -/
lemma dropWhile_dropWhile_le (hc : c ≤ c') (bucket : List τ) :
    ((bucket.dropWhile fun u => decide (u ≤ c)).dropWhile fun u => decide (u ≤ c')) =
      bucket.dropWhile fun u => decide (u ≤ c') := by
  induction bucket with
  | nil => rfl
  | cons u bucket ih =>
    by_cases hu : u ≤ c
    · rw [List.dropWhile_cons_of_pos (by simpa using hu), ih,
        List.dropWhile_cons_of_pos (by simpa using hu.trans hc)]
    · rw [List.dropWhile_cons_of_neg (by simpa using hu)]

end Bucket

/-! ### Any window -/

section Windows

variable [AddCommGroup τ] {W a t : τ} {m : ℕ} {ts us : List τ}

/-- How many of the times lie in the window of length `W` behind `a`. -/
def inWindow (W a : τ) (ts : List τ) : ℕ := ts.countP fun u => a < u ∧ u ≤ a + W

/-- The times in the order of their admission; each had fewer than `m` earlier ones in the window that ends
with it. -/
inductive Admitted (W : τ) (m : ℕ) : List τ → Prop
  | nil : Admitted W m []
  | snoc {ts : List τ} {t : τ} (h : Admitted W m ts)
    (ht : (ts.countP fun u => decide (t - W < u)) < m) : Admitted W m (ts ++ [t])

lemma inWindow_append : inWindow W a (ts ++ us) = inWindow W a ts + inWindow W a us := List.countP_append

lemma inWindow_sublist (h : us.Sublist ts) : inWindow W a us ≤ inWindow W a ts := h.countP_le

/-- A window behind `a` that holds `t` begins no earlier than the one that ends with `t`. -/
lemma inWindow_le [IsOrderedAddMonoid τ] (h : t ≤ a + W) (ts : List τ) :
    inWindow W a ts ≤ ts.countP fun u => decide (t - W < u) := by
  refine List.countP_mono_left fun u _ hu => ?_
  have hu' : a < u ∧ u ≤ a + W := of_decide_eq_true hu
  have hta : t - W ≤ a := sub_le_iff_le_add.2 h
  exact decide_eq_true (lt_of_le_of_lt hta hu'.1)

/-- **Any window** holds at most `m` of the times. -/
theorem Admitted.window_le [IsOrderedAddMonoid τ] (h : Admitted W m ts) (a : τ) : inWindow W a ts ≤ m := by
  induction h with
  | nil => exact Nat.zero_le m
  | @snoc ts t h ht ih =>
    rw [inWindow_append]
    by_cases hw : a < t ∧ t ≤ a + W
    · have hone : inWindow W a [t] ≤ 1 := List.countP_le_length
      have hle := inWindow_le hw.2 ts
      omega
    · have hzero : inWindow W a [t] = 0 := by
        unfold inWindow
        rw [List.countP_singleton]
        exact if_neg (by simpa using hw)
      omega

end Windows

end AdvMcp.Lib
