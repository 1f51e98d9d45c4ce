import AdvMcp.Lib.Table

/-!
# The first element of each key

* `firsts key seen l` — the elements of `l` in order, without those whose key is in `seen` or was met before;
* `mem_firsts` — an element stays exactly if a search for its key finds it;
* `find?_firsts` — a search by the key finds the same in both lists;
* `firsts_append` — the firsts of two lists in a row.
-/

namespace AdvMcp.Lib

variable {α κ : Type*} [DecidableEq κ] (key : α → κ)

/-- The first element of each key that is not in `seen`. -/
def firsts (seen : List κ) : List α → List α
  | [] => []
  | a :: l => if key a ∈ seen then firsts seen l else a :: firsts (key a :: seen) l

variable {key} {seen seen' : List κ} {l l' : List α} {a : α}

lemma firsts_cons_of_mem (h : key a ∈ seen) : firsts key seen (a :: l) = firsts key seen l := by
  rw [firsts, if_pos h]

lemma firsts_cons_of_notMem (h : key a ∉ seen) :
    firsts key seen (a :: l) = a :: firsts key (key a :: seen) l := by
  rw [firsts, if_neg h]

/-- Only the keys in `seen` matter. -/
lemma firsts_congr (h : ∀ k, k ∈ seen ↔ k ∈ seen') : firsts key seen l = firsts key seen' l := by
  induction l generalizing seen seen' with
  | nil => rfl
  | cons b l ih =>
    by_cases hb : key b ∈ seen
    · rw [firsts_cons_of_mem hb, firsts_cons_of_mem ((h _).1 hb), ih h]
    · rw [firsts_cons_of_notMem hb, firsts_cons_of_notMem (mt (h _).2 hb)]
      refine congrArg (List.cons b) (ih fun k => ?_)
      simp [h k]

/-- What has been seen is left out. -/
lemma firsts_eq_filter : firsts key seen l = (firsts key [] l).filter fun b => key b ∉ seen := by
  suffices h : ∀ more : List κ, firsts key (seen ++ more) l = (firsts key more l).filter fun b => key b ∉ seen by
    simpa using h []
  induction l with
  | nil => intro more; rfl
  | cons b l ih =>
    intro more
    by_cases hm : key b ∈ more
    · rw [firsts_cons_of_mem (List.mem_append_right _ hm), firsts_cons_of_mem hm, ih]
    · rw [firsts_cons_of_notMem hm]
      by_cases hb : key b ∈ seen
      · rw [firsts_cons_of_mem (List.mem_append_left _ hb), List.filter_cons_of_neg (by simp [hb]), ← ih]
        refine firsts_congr fun k => ?_
        simp only [List.mem_append, List.mem_cons]
        constructor
        · rintro (h | h)
          · exact Or.inl h
          · exact Or.inr (Or.inr h)
        · rintro (h | rfl | h)
          · exact Or.inl h
          · exact Or.inl hb
          · exact Or.inr h
      · rw [firsts_cons_of_notMem (by simp [hb, hm]), List.filter_cons_of_pos (by simp [hb]), ← ih]
        refine congrArg (List.cons b) (firsts_congr fun k => ?_)
        simp only [List.mem_cons, List.mem_append]
        exact or_left_comm

lemma find?_firsts (k : κ) (hk : k ∉ seen) :
    (firsts key seen l).find? (fun b => decide (key b = k)) = l.find? fun b => decide (key b = k) := by
  induction l generalizing seen with
  | nil => rfl
  | cons b l ih =>
    by_cases he : key b = k
    · have hb : key b ∉ seen := by rwa [he]
      rw [firsts_cons_of_notMem hb, List.find?_cons_of_pos (by simp [he]), List.find?_cons_of_pos (by simp [he])]
    · rw [List.find?_cons_of_neg (by simp [he])]
      by_cases hb : key b ∈ seen
      · rw [firsts_cons_of_mem hb, ih hk]
      · have hk' : k ∉ key b :: seen := by
          simp only [List.mem_cons, not_or]
          exact ⟨fun h => he h.symm, hk⟩
        rw [firsts_cons_of_notMem hb, List.find?_cons_of_neg (by simp [he]), ih hk']

lemma firsts_subset : firsts key seen l ⊆ l := by
  induction l generalizing seen with
  | nil => exact List.Subset.refl _
  | cons b l ih =>
    unfold firsts
    split_ifs
    · exact List.subset_cons_of_subset b ih
    · exact List.cons_subset_cons b ih

lemma key_notMem_of_mem_firsts (h : a ∈ firsts key seen l) : key a ∉ seen := by
  rw [firsts_eq_filter] at h
  simpa using (List.mem_filter.1 h).2

lemma firsts_nodup : ((firsts key seen l).map key).Nodup := by
  induction l generalizing seen with
  | nil => exact List.nodup_nil
  | cons b l ih =>
    unfold firsts
    split_ifs
    · exact ih
    · rw [List.map_cons, List.nodup_cons]
      refine ⟨fun hm => ?_, ih⟩
      obtain ⟨c, hc, he⟩ := List.mem_map.1 hm
      exact key_notMem_of_mem_firsts hc (by simp [he])

/-- Every key stays. -/
lemma mem_keys_firsts {k : κ} : k ∈ (firsts key [] l).map key ↔ k ∈ l.map key := by
  constructor
  · intro h
    obtain ⟨b, hb, rfl⟩ := List.mem_map.1 h
    exact List.mem_map_of_mem (firsts_subset hb)
  · intro h
    obtain ⟨b, hb, rfl⟩ := List.mem_map.1 h
    cases hf : l.find? (fun c => decide (key c = key b)) with
    | none => simpa using List.find?_eq_none.1 hf b hb
    | some c =>
      have hc : key c = key b := by simpa using List.find?_some hf
      rw [← find?_firsts (key b) List.not_mem_nil] at hf
      rw [← hc]
      exact List.mem_map_of_mem (List.mem_of_find?_eq_some hf)

lemma firsts_of_nodup (h : (l.map key).Nodup) : firsts key [] l = l := by
  suffices hs : ∀ seen : List κ, (∀ b ∈ l, key b ∉ seen) → firsts key seen l = l from hs [] fun _ _ => List.not_mem_nil
  induction l with
  | nil => intro seen _; rfl
  | cons b l ih =>
    rw [List.map_cons, List.nodup_cons] at h
    intro seen hseen
    rw [firsts_cons_of_notMem (hseen b List.mem_cons_self)]
    refine congrArg (List.cons b) (ih h.2 _ fun c hc hm => ?_)
    rcases List.mem_cons.1 hm with he | hm
    · exact h.1 (he ▸ List.mem_map_of_mem hc)
    · exact hseen c (List.mem_cons_of_mem b hc) hm

/-- An element stays exactly if it is the first one with its key. -/
lemma mem_firsts : a ∈ firsts key [] l ↔ l.find? (fun b => decide (key b = key a)) = some a := by
  rw [← find?_firsts (key a) List.not_mem_nil]
  constructor
  · intro h
    exact find?_key firsts_nodup h
  · exact List.mem_of_find?_eq_some

lemma firsts_append : firsts key seen (l ++ l') =
    firsts key seen l ++ firsts key (l.map key ++ seen) l' := by
  induction l generalizing seen with
  | nil => rfl
  | cons b l ih =>
    by_cases hb : key b ∈ seen
    · rw [List.cons_append, firsts_cons_of_mem hb, firsts_cons_of_mem hb, ih]
      refine congrArg _ (firsts_congr fun k => ?_)
      simp only [List.map_cons, List.cons_append, List.mem_cons, List.mem_append]
      constructor
      · exact Or.inr
      · rintro (rfl | h)
        · exact Or.inr hb
        · exact h
    · rw [List.cons_append, firsts_cons_of_notMem hb, firsts_cons_of_notMem hb, ih, List.cons_append]
      refine congrArg (fun m => b :: (_ ++ m)) (firsts_congr fun k => ?_)
      simp only [List.map_cons, List.cons_append, List.mem_cons, List.mem_append]
      exact or_left_comm

lemma firsts_concat_of_mem (h : key a ∈ l.map key) : firsts key [] (l ++ [a]) = firsts key [] l := by
  rw [firsts_append, firsts_cons_of_mem (List.mem_append_left _ h), firsts, List.append_nil]

lemma firsts_concat_of_notMem (h : key a ∉ l.map key) : firsts key [] (l ++ [a]) = firsts key [] l ++ [a] := by
  rw [firsts_append, firsts_cons_of_notMem (by rwa [List.append_nil]), firsts]

end AdvMcp.Lib
