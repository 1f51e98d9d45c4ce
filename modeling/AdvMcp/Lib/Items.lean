import Mathlib.Data.List.Nodup
import Mathlib.Data.List.Perm.Subperm

/-!
# Dictionaries built by assignments

The items of a dictionary, in the order in which the keys came first.  Assigning under a key that is there
replaces its value.  A dictionary built from pairs has all of them exactly when no key comes twice.
-/

namespace AdvMcp.Lib

section Definitions

variable {κ α : Type*} [DecidableEq κ]

/-- `d[k] = v` -/
def putItem (d : List (κ × α)) (p : κ × α) : List (κ × α) :=
  if p.1 ∈ d.map Prod.fst then d.map fun q => if q.1 = p.1 then p else q else d ++ [p]

/-- `{k: v for k, v in ps}` -/
def dictOfPairs (ps : List (κ × α)) : List (κ × α) := ps.foldl putItem []

end Definitions

variable {κ α : Type*} [DecidableEq κ] {d ps : List (κ × α)}

lemma putItem_keys (d : List (κ × α)) (p : κ × α) : (putItem d p).map Prod.fst =
    if p.1 ∈ d.map Prod.fst then d.map Prod.fst else d.map Prod.fst ++ [p.1] := by
  unfold putItem
  split_ifs with h
  · rw [List.map_map]
    refine List.map_congr_left fun q _ => ?_
    by_cases hq : q.1 = p.1
    · simp [hq]
    · simp [hq]
  · rw [List.map_append]
    rfl

/-- The keys of a dictionary are distinct, and they are those of the pairs. -/
lemma foldl_putItem_keys (h : (d.map Prod.fst).Nodup) : ((ps.foldl putItem d).map Prod.fst).Nodup ∧
    ∀ k, k ∈ (ps.foldl putItem d).map Prod.fst ↔ k ∈ d.map Prod.fst ∨ k ∈ ps.map Prod.fst := by
  induction ps generalizing d with
  | nil => exact ⟨h, fun k => by simp⟩
  | cons p ps ih =>
    have hput : ((putItem d p).map Prod.fst).Nodup ∧
        ∀ k, k ∈ (putItem d p).map Prod.fst ↔ k ∈ d.map Prod.fst ∨ k = p.1 := by
      rw [putItem_keys]
      split_ifs with hp
      · refine ⟨h, fun k => ⟨Or.inl, ?_⟩⟩
        rintro (hk | rfl)
        · exact hk
        · exact hp
      · refine ⟨h.append (List.nodup_singleton _) fun k hk hk' => ?_, fun k => by simp⟩
        rw [List.mem_singleton.1 hk'] at hk
        exact hp hk
    obtain ⟨hn, hm⟩ := ih hput.1
    refine ⟨hn, fun k => ?_⟩
    rw [List.foldl_cons, hm, hput.2, List.map_cons, List.mem_cons, or_assoc]

lemma foldl_putItem_eq (h : ((d ++ ps).map Prod.fst).Nodup) : ps.foldl putItem d = d ++ ps := by
  induction ps generalizing d with
  | nil => simp
  | cons p ps ih =>
    have hsplit : d ++ p :: ps = d ++ [p] ++ ps := by simp
    have hp : p.1 ∉ d.map Prod.fst := by
      rw [List.map_append, List.map_cons] at h
      exact fun hm => (List.nodup_append.1 h).2.2 _ hm _ List.mem_cons_self rfl
    have hput : putItem d p = d ++ [p] := if_neg hp
    rw [hsplit] at h ⊢
    rw [List.foldl_cons, hput, ih h]

/-- Pairs with distinct keys are the items. -/
theorem dictOfPairs_eq (h : (ps.map Prod.fst).Nodup) : dictOfPairs ps = ps := foldl_putItem_eq h

/-- A dictionary with as many items as there were pairs has lost none: no key came twice. -/
theorem nodup_of_length_dictOfPairs (h : (dictOfPairs ps).length = ps.length) : (ps.map Prod.fst).Nodup := by
  have hkeys : ((dictOfPairs ps).map Prod.fst).Nodup ∧
      ∀ k, k ∈ (dictOfPairs ps).map Prod.fst ↔ k ∈ ([] : List (κ × α)).map Prod.fst ∨ k ∈ ps.map Prod.fst :=
    foldl_putItem_keys List.nodup_nil
  obtain ⟨hn, hm⟩ := hkeys
  have hsub : (dictOfPairs ps).map Prod.fst ⊆ ps.map Prod.fst := by
    intro k hk
    rcases (hm k).1 hk with hk | hk
    · cases hk
    · exact hk
  have hperm : ((dictOfPairs ps).map Prod.fst).Perm (ps.map Prod.fst) := by
    refine (List.subperm_of_subset hn hsub).perm_of_length_le ?_
    rw [List.length_map, List.length_map]
    omega
  exact hperm.nodup_iff.1 hn

end AdvMcp.Lib
