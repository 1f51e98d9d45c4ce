import Mathlib.Data.List.Nodup
import Mathlib.Order.Lattice

/-!
# The first of a ranking

A list is ranked when its keys descend.  What is in front is at least as good as what is not
(`key_le_of_take`), and a class that beats everything else comes first: as many as there is room for
are in front, or all of it is (`take_class`).

`foldl_append_missing` is the loop that appends what is wanted and missing.
-/

namespace AdvMcp.Lib

section Ranking

variable {α κ : Type*} [LinearOrder κ] {key : α → κ} {l : List α} {k : ℕ}

/-- The keys descend. -/
def Ranked (key : α → κ) (l : List α) : Prop := l.Pairwise fun a b => key b ≤ key a

lemma key_le_of_take (hl : Ranked key l) {a b : α} (ha : a ∈ l.take k) (hb : b ∈ l)
    (hnb : b ∉ l.take k) : key b ≤ key a := by
  have hsplit : Ranked key (l.take k ++ l.drop k) := by rw [List.take_append_drop]; exact hl
  have hdrop : b ∈ l.drop k := by
    rw [← List.take_append_drop k l] at hb
    rcases List.mem_append.1 hb with h | h
    · exact absurd h hnb
    · exact h
  exact (List.pairwise_append.1 hsplit).2.2 a ha b hdrop

/-- Everything in front is of the class, or all of the class is in front. -/
theorem take_class (hl : Ranked key l) {p : α → Prop}
    (hp : ∀ a ∈ l, ∀ b ∈ l, p a → ¬ p b → key b < key a) :
    (∀ a ∈ l.take k, p a) ∨ ∀ a ∈ l, p a → a ∈ l.take k := by
  by_cases hall : ∀ a ∈ l.take k, p a
  · exact Or.inl hall
  · push Not at hall
    obtain ⟨b, hb, hpb⟩ := hall
    refine Or.inr fun a ha hpa => ?_
    by_contra hna
    have hle : key a ≤ key b := key_le_of_take hl hb ha hna
    have hlt : key b < key a := hp a ha b (List.mem_of_mem_take hb) hpa hpb
    exact absurd hle (not_le.2 hlt)

end Ranking

/-- What is appended are the elements that are wanted and were missing. -/
theorem foldl_append_missing {α : Type*} [DecidableEq α] (p : α → Bool) {es : List α} (hes : es.Nodup)
    (acc : List α) :
    es.foldl (fun acc e => if p e && e ∉ acc then acc ++ [e] else acc) acc =
      acc ++ es.filter fun e => p e && e ∉ acc := by
  induction es generalizing acc with
  | nil => simp
  | cons e es ih =>
    obtain ⟨he, hes⟩ := List.nodup_cons.1 hes
    rw [List.foldl_cons, ih hes]
    by_cases hc : (p e && decide (e ∉ acc)) = true
    · have hfilter : (es.filter fun x => p x && decide (x ∉ acc ++ [e])) =
          es.filter fun x => p x && decide (x ∉ acc) := by
        refine List.filter_congr fun x hx => ?_
        have hxe : x ≠ e := by
          rintro rfl
          exact he hx
        simp [hxe]
      rw [if_pos hc, hfilter, List.filter_cons_of_pos (by exact hc), List.append_assoc]
      rfl
    · rw [if_neg hc, List.filter_cons_of_neg (by exact hc)]

end AdvMcp.Lib
