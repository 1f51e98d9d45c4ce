import Mathlib.Algebra.Order.Group.Int
import Mathlib.Data.Int.Notation
import Mathlib.Logic.Function.Basic
import AdvMcp.Lib.Window

/-!
# The sliding-window limiter

`RequestThrottle` of `server/rate_limiter.py`.  The clock is a whole number of ticks, and the window
is a number of ticks.

* `isLimited` — a call at a time, for a key;
* `Tracks` — the bucket of a key holds the last of the calls that were admitted for it, each with fewer
  than the maximum in its window; `Tracks.limited` and `Tracks.admit` say how a call keeps it.
-/

namespace AdvMcp.Server

open AdvMcp.Lib

/-- The buckets: for each key, the times of the calls admitted for it that have not been dropped. -/
abbrev Throttle (κ : Type*) := κ → List ℤ

variable {κ : Type*} [DecidableEq κ]

/-- `RequestThrottle.is_limited` at time `now`: the answer, and the buckets after it. -/
def isLimited (window : ℤ) (th : Throttle κ) (now : ℤ) (key : κ) (maxRequests : ℤ) :
    Bool × Throttle κ :=
  if maxRequests ≤ 0 then (false, th)
  else
    let cutoff := now - window
    let bucket := (th key).dropWhile fun t => decide (t ≤ cutoff)
    if maxRequests ≤ bucket.length then (true, Function.update th key bucket)
    else (false, Function.update th key (bucket ++ [now]))

variable {window now now' maxRequests : ℤ} {th : Throttle κ} {key k : κ} {ts : List ℤ}

/-- Another key keeps its bucket. -/
lemma isLimited_of_ne (h : k ≠ key) : (isLimited window th now key maxRequests).2 k = th k := by
  unfold isLimited
  simp only
  split_ifs
  · rfl
  · exact Function.update_of_ne h _ _
  · exact Function.update_of_ne h _ _

/-- The calls admitted for a key so far, and its bucket. -/
structure Tracks (window maxRequests now : ℤ) (ts bucket : List ℤ) : Prop where
  admitted : Admitted window maxRequests.toNat ts
  bucket : Bucket (now - window) ts bucket

lemma Tracks.later {bucket : List ℤ} (h : Tracks window maxRequests now ts bucket) (hn : now ≤ now') :
    Tracks window maxRequests now' ts bucket :=
  ⟨h.admitted, h.bucket.mono (by omega)⟩

/-- A call that is limited only drops what is old. -/
lemma Tracks.limited (h : Tracks window maxRequests now ts (th key))
    (hl : (isLimited window th now key maxRequests).1 = true) :
    Tracks window maxRequests now ts ((isLimited window th now key maxRequests).2 key) := by
  unfold isLimited at hl ⊢
  simp only at hl ⊢
  split_ifs at hl ⊢ with hm hb
  simp only [Function.update_self]
  exact ⟨h.admitted, h.bucket.drop⟩

/-- A call that is not limited is one more. -/
lemma Tracks.admit (h : Tracks window maxRequests now ts (th key)) (hpos : 0 < maxRequests)
    (hl : (isLimited window th now key maxRequests).1 = false) :
    Tracks window maxRequests now (ts ++ [now]) ((isLimited window th now key maxRequests).2 key) := by
  have hdrop := h.bucket.drop
  unfold isLimited at hl ⊢
  simp only at hl ⊢
  split_ifs at hl ⊢ with hm hb
  · omega
  · simp only [Function.update_self]
    have hcount := hdrop.count_le
    exact ⟨h.admitted.snoc (by omega), hdrop.push now⟩

end AdvMcp.Server
