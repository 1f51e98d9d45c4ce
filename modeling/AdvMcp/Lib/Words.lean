import Mathlib.Data.List.Basic

/-!
# The words of a list

`words sp l` are the maximal non-empty runs of `l` without separators.  Words never contain a
separator (`mem_words`), a separator splits the words of the two sides (`words_append_cons`), and
joining words with a separator gives them back (`words_intercalate`).
-/

namespace AdvMcp.Lib

variable {α : Type*} {sp : α → Bool}

/-- The words of `l`, the separators being the elements that satisfy `sp`. -/
def words (sp : α → Bool) (l : List α) : List (List α) := (l.splitOnP sp).filter fun w => !w.isEmpty

@[simp] lemma words_nil : words sp [] = [] := by simp [words]

lemma words_append_cons (l r : List α) {x : α} (hx : sp x = true) :
    words sp (l ++ x :: r) = words sp l ++ words sp r := by
  unfold words
  rw [List.splitOnP_append_cons l r hx, List.filter_append]

/-- A non-empty run of separators splits the words of the two sides. -/
lemma words_append_seps (l r : List α) {m : List α} (hm : ∀ x ∈ m, sp x = true) (h0 : m ≠ []) :
    words sp (l ++ m ++ r) = words sp l ++ words sp r := by
  induction m generalizing l with
  | nil => exact absurd rfl h0
  | cons x m ih =>
    have hx : sp x = true := hm x List.mem_cons_self
    by_cases hm0 : m = []
    · subst hm0
      rw [List.append_assoc]
      exact words_append_cons l r hx
    · have hl : l ++ x :: m ++ r = (l ++ [x]) ++ m ++ r := by simp
      rw [hl, ih (l ++ [x]) (fun y hy => hm y (List.mem_cons_of_mem _ hy)) hm0,
        words_append_cons l [] hx, words_nil, List.append_nil]

lemma words_of_clean {w : List α} (hw : ∀ c ∈ w, sp c = false) (h0 : w ≠ []) : words sp w = [w] := by
  unfold words
  rw [List.splitOnP_eq_singleton hw]
  simp [h0]

lemma splitOnP_clean {l w : List α} (h : w ∈ l.splitOnP sp) : ∀ c ∈ w, sp c = false := by
  induction l generalizing w with
  | nil =>
    simp only [List.splitOnP_nil, List.mem_singleton] at h
    simp [h]
  | cons x l ih =>
    rw [List.splitOnP_cons_eq_if_modifyHead] at h
    by_cases hx : sp x = true
    · rw [if_pos hx] at h
      rcases List.mem_cons.1 h with rfl | h
      · simp
      · exact ih h
    · rw [if_neg hx] at h
      obtain ⟨v, vs, hv⟩ := List.exists_cons_of_ne_nil (List.splitOnP_ne_nil sp l)
      rw [hv, List.modifyHead_cons] at h
      rcases List.mem_cons.1 h with rfl | h
      · intro c hc
        rcases List.mem_cons.1 hc with rfl | hc
        · simpa using hx
        · exact ih (by rw [hv]; exact List.mem_cons_self) c hc
      · exact ih (by rw [hv]; exact List.mem_cons_of_mem _ h)

lemma mem_words {l w : List α} (h : w ∈ words sp l) : w ≠ [] ∧ ∀ c ∈ w, sp c = false := by
  obtain ⟨h1, h2⟩ := List.mem_filter.1 h
  exact ⟨by simpa using h2, splitOnP_clean h1⟩

/-- **Joining and splitting.** -/
theorem words_intercalate {x : α} (hx : sp x = true) :
    ∀ ws : List (List α), (∀ w ∈ ws, w ≠ [] ∧ ∀ c ∈ w, sp c = false) →
      words sp ([x].intercalate ws) = ws
  | [], _ => by simp
  | [w], h => by
    obtain ⟨h0, hw⟩ := h w (by simp)
    simpa using words_of_clean hw h0
  | w :: v :: ws, h => by
    obtain ⟨h0, hw⟩ := h w (by simp)
    have ih := words_intercalate hx (v :: ws) fun u hu => h u (List.mem_cons_of_mem _ hu)
    have he : [x].intercalate (w :: v :: ws) = w ++ x :: [x].intercalate (v :: ws) := by
      simp [List.intercalate]
    rw [he, words_append_cons _ _ hx, words_of_clean hw h0, ih]
    rfl

/-- The words of lists that are joined by a separator are those of the lists. -/
lemma words_intercalate_flatMap {x : α} (hx : sp x = true) (ls : List (List α)) :
    words sp ([x].intercalate ls) = ls.flatMap (words sp) := by
  induction ls with
  | nil => simp
  | cons l ls ih =>
    cases ls with
    | nil => simp
    | cons m ls =>
      have he : [x].intercalate (l :: m :: ls) = l ++ x :: [x].intercalate (m :: ls) := by
        simp [List.intercalate]
      rw [he, words_append_cons _ _ hx, ih, List.flatMap_cons (x := l)]

/-- The leading run of `p`, up to the first element without it. -/
lemma takeWhile_clean {p : α → Bool} {l r : List α} {a : α} (hl : ∀ c ∈ l, p c = true)
    (ha : p a = false) : (l ++ a :: r).takeWhile p = l ∧ (l ++ a :: r).dropWhile p = a :: r := by
  rw [List.takeWhile_append_of_pos hl, List.dropWhile_append_of_pos hl,
    List.takeWhile_cons_of_neg (by simp [ha]), List.dropWhile_cons_of_neg (by simp [ha])]
  exact ⟨List.append_nil l, rfl⟩

end AdvMcp.Lib
