import AdvMcp.Lib.Table

/-!
# Bringing a keyed table in line

A demand speaks for the keys in its scope, and names those of them that the table should have.
`reconcile` deletes the rows in the scope whose key is not wanted and makes a row for every wanted key
that has none.  It rewrites no row.

Demands that agree where their scopes meet are met one after the other: none undoes what another has
done (`InLine.after_reconcile`), so the table after them is the same in one step or in many
(`mem_foldl_reconcile`), and meeting them again changes nothing (`foldl_reconcile_again`).
-/

namespace AdvMcp.Lib

/-- The keys that a table should have, of those in the scope. -/
structure Demand (κ : Type*) where
  scope : κ → Bool
  want : List κ
  inScope : ∀ k ∈ want, scope k = true

section Definitions

variable {α κ : Type*} [DecidableEq κ]

def reconcile (key : α → κ) (mk : κ → α) (rows : List α) (d : Demand κ) : List α :=
  (rows.filter fun r => !(d.scope (key r) && decide (key r ∉ d.want))) ++
    (d.want.filter fun k => decide (k ∉ rows.map key)).map mk

/-- The demand is met. -/
def InLine (key : α → κ) (rows : List α) (d : Demand κ) : Prop :=
  (∀ k ∈ d.want, k ∈ rows.map key) ∧ ∀ r ∈ rows, d.scope (key r) = true → key r ∈ d.want

/-- The demands agree where their scopes meet. -/
def Demand.Agree (d e : Demand κ) : Prop :=
  ∀ k, d.scope k = true → e.scope k = true → (k ∈ d.want ↔ k ∈ e.want)

end Definitions

section Reconcile

variable {α κ : Type*} [DecidableEq κ] {key : α → κ} {mk : κ → α} {rows : List α} {d e : Demand κ}

lemma mem_reconcile {r : α} : r ∈ reconcile key mk rows d ↔
    (r ∈ rows ∧ (d.scope (key r) = true → key r ∈ d.want)) ∨
      ∃ k ∈ d.want, k ∉ rows.map key ∧ mk k = r := by
  unfold reconcile
  rw [List.mem_append, List.mem_filter, List.mem_map]
  refine or_congr (and_congr_right fun _ => ?_) ?_
  · simp only [Bool.not_eq_true', Bool.and_eq_false_iff, decide_eq_false_iff_not, not_not]
    cases d.scope (key r) <;> simp
  · simp only [List.mem_filter, decide_eq_true_eq, and_assoc]

lemma mem_keys_reconcile (hmk : ∀ k, key (mk k) = k) {k : κ} : k ∈ (reconcile key mk rows d).map key ↔
    k ∈ d.want ∨ k ∈ rows.map key ∧ d.scope k = false := by
  rw [List.mem_map]
  constructor
  · rintro ⟨r, hr, rfl⟩
    rcases mem_reconcile.1 hr with ⟨hr, hs⟩ | ⟨k, hk, -, rfl⟩
    · cases hscope : d.scope (key r) with
      | true => exact Or.inl (hs hscope)
      | false => exact Or.inr ⟨List.mem_map_of_mem hr, rfl⟩
    · rw [hmk]
      exact Or.inl hk
  · rintro (hk | ⟨hk, hscope⟩)
    · by_cases hin : k ∈ rows.map key
      · obtain ⟨r, hr, rfl⟩ := List.mem_map.1 hin
        exact ⟨r, mem_reconcile.2 (Or.inl ⟨hr, fun _ => hk⟩), rfl⟩
      · exact ⟨mk k, mem_reconcile.2 (Or.inr ⟨k, hk, hin, rfl⟩), hmk k⟩
    · obtain ⟨r, hr, rfl⟩ := List.mem_map.1 hk
      refine ⟨r, mem_reconcile.2 (Or.inl ⟨hr, fun h => ?_⟩), rfl⟩
      rw [hscope] at h
      cases h

/-- No key comes twice. -/
lemma reconcile_nodup (hmk : ∀ k, key (mk k) = k) (hrows : (rows.map key).Nodup) (hd : d.want.Nodup) :
    ((reconcile key mk rows d).map key).Nodup := by
  have hmade : (((d.want.filter fun k => decide (k ∉ rows.map key)).map mk).map key) =
      d.want.filter fun k => decide (k ∉ rows.map key) := by
    rw [List.map_map]
    conv_rhs => rw [← List.map_id (d.want.filter fun k => decide (k ∉ rows.map key))]
    exact List.map_congr_left fun k _ => hmk k
  unfold reconcile
  rw [List.map_append, hmade]
  refine ((List.filter_sublist.map key).nodup hrows).append (hd.filter _) fun k hk hk' => ?_
  obtain ⟨r, hr, rfl⟩ := List.mem_map.1 hk
  have hnew : key r ∉ rows.map key := of_decide_eq_true (List.mem_filter.1 hk').2
  exact hnew (List.mem_map_of_mem (List.mem_of_mem_filter hr))

/-- Where the demand is met there is nothing to do. -/
lemma InLine.reconcile_eq (h : InLine key rows d) : reconcile key mk rows d = rows := by
  have hkeep : (rows.filter fun r => !(d.scope (key r) && decide (key r ∉ d.want))) = rows := by
    refine List.filter_eq_self.2 fun r hr => ?_
    cases hscope : d.scope (key r) with
    | true => simp [h.2 r hr hscope]
    | false => simp
  have hnone : (d.want.filter fun k => decide (k ∉ rows.map key)) = [] := by
    refine List.filter_eq_nil_iff.2 fun k hk hc => ?_
    exact of_decide_eq_true hc (h.1 k hk)
  unfold reconcile
  rw [hkeep, hnone, List.map_nil, List.append_nil]

lemma inLine_reconcile (hmk : ∀ k, key (mk k) = k) (rows : List α) (d : Demand κ) :
    InLine key (reconcile key mk rows d) d := by
  refine ⟨fun k hk => (mem_keys_reconcile hmk).2 (Or.inl hk), fun r hr hscope => ?_⟩
  rcases (mem_keys_reconcile hmk).1 (List.mem_map_of_mem hr) with hk | ⟨-, hs⟩
  · exact hk
  · rw [hscope] at hs
    cases hs

/-- Meeting another demand that agrees leaves this one met. -/
lemma InLine.after_reconcile (hmk : ∀ k, key (mk k) = k) (h : InLine key rows d) (ha : d.Agree e) :
    InLine key (reconcile key mk rows e) d := by
  constructor
  · intro k hk
    refine (mem_keys_reconcile hmk).2 ?_
    cases hscope : e.scope k with
    | true => exact Or.inl ((ha k (d.inScope k hk) hscope).1 hk)
    | false => exact Or.inr ⟨h.1 k hk, rfl⟩
  · intro r hr hscope
    rcases mem_reconcile.1 hr with ⟨hr, -⟩ | ⟨k, hk, -, rfl⟩
    · exact h.2 r hr hscope
    · rw [hmk] at hscope ⊢
      exact (ha k hscope (e.inScope k hk)).2 hk

/-- Rows that no demand speaks for stay as they are. -/
lemma reconcile_outside (hmk : ∀ k, key (mk k) = k) {q : κ → Bool}
    (hq : ∀ k, q k = true → d.scope k = false) :
    (reconcile key mk rows d).filter (fun r => q (key r)) = rows.filter fun r => q (key r) := by
  have hmade : ((d.want.filter fun k => decide (k ∉ rows.map key)).map mk).filter (fun r => q (key r)) = [] := by
    refine List.filter_eq_nil_iff.2 fun r hr hqr => ?_
    obtain ⟨k, hk, rfl⟩ := List.mem_map.1 hr
    rw [hmk] at hqr
    have hscope := d.inScope k (List.mem_of_mem_filter hk)
    rw [hq k hqr] at hscope
    cases hscope
  unfold reconcile
  rw [List.filter_append, hmade, List.append_nil, List.filter_filter]
  refine List.filter_congr fun r _ => ?_
  cases hqr : q (key r) with
  | true => simp [hq _ hqr]
  | false => simp

end Reconcile

/-! ### Many demands -/

section Many

variable {α κ : Type*} [DecidableEq κ] {key : α → κ} {mk : κ → α} {rows : List α}
  {ds : List (Demand κ)}

lemma foldl_reconcile_nodup (hmk : ∀ k, key (mk k) = k) (hrows : (rows.map key).Nodup)
    (hds : ∀ d ∈ ds, d.want.Nodup) : ((ds.foldl (reconcile key mk) rows).map key).Nodup := by
  induction ds generalizing rows with
  | nil => exact hrows
  | cons e ds ih =>
    exact ih (reconcile_nodup hmk hrows (hds e List.mem_cons_self)) fun d hd => hds d (List.mem_cons_of_mem _ hd)

/-- **The rows after many demands**: those that were there and that no demand refuses, and one for each key
that is wanted and had none. -/
theorem mem_foldl_reconcile (hmk : ∀ k, key (mk k) = k) (ha : ∀ d ∈ ds, ∀ e ∈ ds, d.Agree e) {r : α} :
    r ∈ ds.foldl (reconcile key mk) rows ↔
      (r ∈ rows ∧ ∀ d ∈ ds, d.scope (key r) = true → key r ∈ d.want) ∨
        ∃ d ∈ ds, ∃ k ∈ d.want, k ∉ rows.map key ∧ mk k = r := by
  induction ds generalizing rows with
  | nil => simp
  | cons e ds ih =>
    have hagree : ∀ d ∈ ds, d.Agree e := fun d hd => ha d (List.mem_cons_of_mem _ hd) e List.mem_cons_self
    have hrest : ∀ d ∈ ds, ∀ d' ∈ ds, d.Agree d' := fun d hd d' hd' =>
      ha d (List.mem_cons_of_mem _ hd) d' (List.mem_cons_of_mem _ hd')
    -- what `e` wants no later demand refuses
    have hkept : ∀ k ∈ e.want, ∀ d ∈ ds, d.scope k = true → k ∈ d.want := fun k hk d hd hscope =>
      (hagree d hd k hscope (e.inScope k hk)).2 hk
    rw [List.foldl_cons, ih hrest]
    constructor
    · rintro (⟨hr, hds⟩ | ⟨d, hd, k, hk, hnew, rfl⟩)
      · rcases mem_reconcile.1 hr with ⟨hr, he⟩ | ⟨k, hk, hnew, rfl⟩
        · exact Or.inl ⟨hr, List.forall_mem_cons.2 ⟨he, hds⟩⟩
        · exact Or.inr ⟨e, List.mem_cons_self, k, hk, hnew, rfl⟩
      · refine Or.inr ⟨d, List.mem_cons_of_mem _ hd, k, hk, fun hin => hnew ?_, rfl⟩
        refine (mem_keys_reconcile hmk).2 ?_
        cases hscope : e.scope k with
        | true => exact Or.inl ((hagree d hd k (d.inScope k hk) hscope).1 hk)
        | false => exact Or.inr ⟨hin, rfl⟩
    · rintro (⟨hr, hds⟩ | ⟨d, hd, k, hk, hnew, rfl⟩)
      · obtain ⟨he, hds⟩ := List.forall_mem_cons.1 hds
        exact Or.inl ⟨mem_reconcile.2 (Or.inl ⟨hr, he⟩), hds⟩
      · by_cases hke : k ∈ e.want
        · refine Or.inl ⟨mem_reconcile.2 (Or.inr ⟨k, hke, hnew, rfl⟩), ?_⟩
          rw [hmk]
          exact hkept k hke
        · rcases List.mem_cons.1 hd with rfl | hd
          · exact absurd hk hke
          · refine Or.inr ⟨d, hd, k, hk, fun hin => ?_, rfl⟩
            rcases (mem_keys_reconcile hmk).1 hin with h | ⟨h, -⟩
            · exact hke h
            · exact hnew h

lemma InLine.after_foldl (hmk : ∀ k, key (mk k) = k) {d : Demand κ} (h : InLine key rows d)
    (ha : ∀ e ∈ ds, d.Agree e) : InLine key (ds.foldl (reconcile key mk) rows) d := by
  induction ds generalizing rows with
  | nil => exact h
  | cons e ds ih =>
    exact ih (h.after_reconcile hmk (ha e List.mem_cons_self)) fun d' hd' => ha d' (List.mem_cons_of_mem _ hd')

/-- All demands are met at the end. -/
theorem inLine_foldl (hmk : ∀ k, key (mk k) = k) (ha : ∀ d ∈ ds, ∀ e ∈ ds, d.Agree e) {d : Demand κ}
    (hd : d ∈ ds) : InLine key (ds.foldl (reconcile key mk) rows) d := by
  induction ds generalizing rows with
  | nil => cases hd
  | cons e ds ih =>
    have hrest : ∀ d ∈ ds, ∀ d' ∈ ds, d.Agree d' := fun d hd d' hd' =>
      ha d (List.mem_cons_of_mem _ hd) d' (List.mem_cons_of_mem _ hd')
    rcases List.mem_cons.1 hd with rfl | hd
    · refine (inLine_reconcile hmk rows d).after_foldl hmk fun e he => ?_
      exact ha d List.mem_cons_self e (List.mem_cons_of_mem _ he)
    · exact ih hrest hd

lemma foldl_reconcile_eq (h : ∀ d ∈ ds, InLine key rows d) : ds.foldl (reconcile key mk) rows = rows := by
  induction ds with
  | nil => rfl
  | cons e ds ih =>
    obtain ⟨he, hds⟩ := List.forall_mem_cons.1 h
    rw [List.foldl_cons, he.reconcile_eq]
    exact ih hds

/-- **Meeting the demands again changes nothing.** -/
theorem foldl_reconcile_again (hmk : ∀ k, key (mk k) = k) (ha : ∀ d ∈ ds, ∀ e ∈ ds, d.Agree e) :
    ds.foldl (reconcile key mk) (ds.foldl (reconcile key mk) rows) = ds.foldl (reconcile key mk) rows :=
  foldl_reconcile_eq fun _ hd => inLine_foldl hmk ha hd

lemma foldl_reconcile_outside (hmk : ∀ k, key (mk k) = k) {q : κ → Bool}
    (hq : ∀ d ∈ ds, ∀ k, q k = true → d.scope k = false) :
    (ds.foldl (reconcile key mk) rows).filter (fun r => q (key r)) = rows.filter fun r => q (key r) := by
  induction ds generalizing rows with
  | nil => rfl
  | cons e ds ih =>
    obtain ⟨he, hds⟩ := List.forall_mem_cons.1 hq
    rw [List.foldl_cons, ih hds, reconcile_outside hmk he]

/-- A row with the key of a row that was there is that row. -/
theorem same_of_key (hmk : ∀ k, key (mk k) = k) (ha : ∀ d ∈ ds, ∀ e ∈ ds, d.Agree e)
    (hrows : (rows.map key).Nodup) {r r' : α} (hr : r ∈ rows)
    (hr' : r' ∈ ds.foldl (reconcile key mk) rows) (hk : key r' = key r) : r' = r := by
  rcases (mem_foldl_reconcile hmk ha).1 hr' with ⟨h, -⟩ | ⟨d, -, k, -, hnew, rfl⟩
  · exact List.inj_on_of_nodup_map hrows h hr hk
  · rw [hmk] at hk
    subst hk
    exact absurd (List.mem_map_of_mem hr) hnew

end Many

end AdvMcp.Lib
