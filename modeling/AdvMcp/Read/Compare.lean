import AdvMcp.Read.Rendered
import AdvMcp.Read.Secrecy

/-!
# Comparing two records

What `compare` reports, against the values of the two records.

* `Differences` — the fields, in order, in which the records differ, with the two values;
* `compare_exact` — the reply reports the differences; the other way round it reports them the other way
  round.
-/

namespace AdvMcp.Read

open AdvMcp.Lib AdvMcp.Py

section Compare

variable (py : Builtins) (env : Env)

/-- The fields with these names, but for the id, in which the records differ, each once and in order. -/
structure Differences (model : String) (names : List String) (a b : ℤ) (diffs : List (String × Value × Value)) :
    Prop where
  sorted : (diffs.map (·.1)).Pairwise (· < ·)
  mem_iff : ∀ k v w, (k, v, w) ∈ diffs ↔ k ∈ names ∧ k ≠ "id" ∧ v = env.value ⟨model, a, k⟩ ∧
    w = env.value ⟨model, b, k⟩ ∧ py.eq v w = false

/-- The differences of the other record from the one. -/
def swapped (diffs : List (String × Value × Value)) : List (String × Value × Value) :=
  diffs.map fun d => (d.1, d.2.2, d.2.1)

variable {py env} {model : String} {names : List String} {a b i : ℤ} {k : String}

lemma mem_keys_row : k ∈ (env.row model names i).map (·.1) ↔ k = "id" ∨ k ∈ names := by
  unfold Env.row
  rw [List.map_cons, List.mem_cons, List.map_map]
  simp only [Function.comp_def, List.map_id', List.mem_filter, List.mem_eraseDups, decide_eq_true_eq]
  constructor
  · rintro (h | ⟨h, -⟩)
    · exact Or.inl h
    · exact Or.inr h
  · rintro (h | h)
    · exact Or.inl h
    · by_cases hid : k = "id"
      · exact Or.inl hid
      · exact Or.inr ⟨h, hid⟩

/-- The differences of two rows with the same names. -/
lemma differences_diffsOf :
    Differences py env model names a b (diffsOf py (env.row model names a) (env.row model names b)) := by
  refine ⟨?_, fun k v w => ?_⟩
  · unfold diffsOf
    simp only [List.map_map, Function.comp_def, List.map_id']
    refine List.Pairwise.filter _ ?_
    have hle : List.Pairwise (· ≤ ·) ((((env.row model names a).map (·.1)).filter fun k =>
        (env.row model names b).has k && decide (k ≠ "id")).insertionSort (· ≤ ·)) :=
      List.pairwise_insertionSort _ _
    have hnd : ((((env.row model names a).map (·.1)).filter fun k =>
        (env.row model names b).has k && decide (k ≠ "id")).insertionSort (· ≤ ·)).Nodup :=
      (List.perm_insertionSort _ _).nodup_iff.2 ((row_nodup names a).filter _)
    refine (hle.and hnd).imp fun h => ?_
    by_contra hlt
    exact h.2 (String.le_antisymm h.1 (String.not_lt.1 hlt))
  · unfold diffsOf
    simp only [List.mem_map, List.mem_filter, List.mem_insertionSort, Bool.and_eq_true, Bool.not_eq_true',
      decide_eq_true_eq, Prod.mk.injEq]
    constructor
    · rintro ⟨k', ⟨⟨hk, -, hid⟩, hne⟩, rfl, rfl, rfl⟩
      have hn : k' ∈ names := (mem_keys_row.1 (List.mem_map.2 hk)).resolve_left hid
      rw [row_get hn hid, row_get hn hid] at hne ⊢
      exact ⟨hn, hid, rfl, rfl, hne⟩
    · rintro ⟨hn, hid, rfl, rfl, hne⟩
      refine ⟨k, ⟨⟨List.mem_map.1 (mem_keys_row.2 (Or.inr hn)), row_has hn hid, hid⟩, ?_⟩, rfl, ?_, ?_⟩
      · rw [row_get hn hid, row_get hn hid]
        exact hne
      · exact row_get hn hid
      · exact row_get hn hid

/-- The rows the other way round. -/
lemma diffsOf_swap (hsym : ∀ v w, py.eq v w = py.eq w v) :
    diffsOf py (env.row model names b) (env.row model names a) =
      swapped (diffsOf py (env.row model names a) (env.row model names b)) := by
  have hkeys : (((env.row model names b).map (·.1)).filter fun k =>
        (env.row model names a).has k && decide (k ≠ "id")) =
      ((env.row model names a).map (·.1)).filter fun k => (env.row model names b).has k && decide (k ≠ "id") := by
    have hmap : (env.row model names b).map (·.1) = (env.row model names a).map (·.1) := by
      unfold Env.row
      rw [List.map_cons, List.map_cons, List.map_map, List.map_map]
      rfl
    rw [hmap]
    refine List.filter_congr fun k hk => ?_
    by_cases hid : k = "id"
    · simp [hid]
    · have hn : k ∈ names := (mem_keys_row.1 hk).resolve_left hid
      rw [row_has hn hid, row_has hn hid]
  unfold diffsOf swapped
  simp only
  rw [hkeys, List.map_map]
  simp only [Function.comp_def]
  congr 1
  refine List.filter_congr fun k _ => ?_
  rw [hsym]

/-- **`compare`** reports the fields in which the two records differ, with the values of both as they are read with
`bin_size`; of the same fields the other way round, it reports the same differences the other way round. -/
theorem compare_exact (hsym : ∀ v w, py.eq v w = py.eq w v) {recordIdA recordIdB fields r : Value}
    (h : Read.compare py env model recordIdA recordIdB fields = .ok r) :
    ∃ a b toRead names diffs, py.int recordIdA = .ok a ∧ py.int recordIdB = .ok b ∧
      coerceFields py fields = .ok toRead ∧ env.fieldNames model toRead = .ok names ∧
      Differences py env model names a b diffs ∧
      r = result (compareText py model recordIdA recordIdB diffs)
        (compareStructured model recordIdA recordIdB diffs) ∧
      Read.compare py env model recordIdB recordIdA fields =
        .ok (result (compareText py model recordIdB recordIdA (swapped diffs))
          (compareStructured model recordIdB recordIdA (swapped diffs))) := by
  unfold Read.compare at h
  simp only [except_bind_ok, except_pure_ok] at h
  obtain ⟨⟨⟩, hm, ⟨⟩, hc, a, ha, b, hb, toRead, ht, rowsA, hA, dataA, hfA, rowsB, hB, dataB, hfB, rfl⟩ := h
  obtain ⟨names, hn, rfl⟩ := readOne_ok hA hfA
  obtain ⟨names', hn', rfl⟩ := readOne_ok hB hfB
  obtain rfl : names = names' := Except.ok.inj (hn.symm.trans hn')
  refine ⟨a, b, toRead, names, _, browse_ok ha, browse_ok hb, ht, hn, differences_diffsOf, rfl, ?_⟩
  unfold Read.compare
  rw [hm, ok_bind, hc, ok_bind, hb, ok_bind, ha, ok_bind, ht, ok_bind, hB, ok_bind, hfB, ok_bind, hA, ok_bind, hfA,
    ok_bind, diffsOf_swap hsym]
  rfl

end Compare

lemma sameText_comm (v w : Value) : sameText v w = sameText w v := by
  cases v <;> cases w <;> first | rfl | exact Bool.beq_comm

set_option maxRecDepth 10000 in
/-- The two partners on all their fields. -/
theorem compare_exact_partners : ∃ diffs,
    Differences plainBuiltins partnerEnv "res.partner" ["name", "api_key"] 1 2 diffs ∧
    Read.compare plainBuiltins partnerEnv "res.partner" (.int 2) (.int 1) .none = .ok (result
      (compareText plainBuiltins "res.partner" (.int 2) (.int 1) (swapped diffs))
      (compareStructured "res.partner" (.int 2) (.int 1) (swapped diffs))) := by
  have h : Read.compare plainBuiltins partnerEnv "res.partner" (.int 1) (.int 2) .none = .ok _ := rfl
  obtain ⟨a, b, toRead, names, diffs, ha, hb, ht, hn, hd, -, hswap⟩ := compare_exact sameText_comm h
  obtain rfl := Except.ok.inj ha
  obtain rfl := Except.ok.inj hb
  obtain rfl := Except.ok.inj ht
  obtain rfl := Except.ok.inj hn
  exact ⟨diffs, hd, hswap⟩

end AdvMcp.Read
