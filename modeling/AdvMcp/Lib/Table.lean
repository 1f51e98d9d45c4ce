import Mathlib.Data.List.Nodup

/-!
# Tables: rows in a list

A table is the list of its rows.  What the invariants of a store say about a table is of two kinds:
every row has a property, or no two rows are related (`Apart`: a key is unique, at most one row of
a group is live, …).  Both are kept by deleting rows, by rewriting rows one by one, and by
appending a row that brings nothing wrong in; `find?` returns the one row a unique key has.
-/

namespace AdvMcp.Lib

variable {α β : Type*}

/-- No two distinct rows are related. -/
def Apart (R : α → α → Prop) (l : List α) : Prop := ∀ a ∈ l, ∀ b ∈ l, R a b → a = b

/-- Rewrite the rows that satisfy `p`. -/
def updateWhere (p : α → Bool) (f : α → α) (l : List α) : List α :=
  l.map fun r => if p r then f r else r

section Apart

variable {R : α → α → Prop} {l l' : List α}

lemma Apart.nil : Apart R [] := fun _ ha => absurd ha (List.not_mem_nil)

lemma Apart.of_nodup {κ : Type*} {key : α → κ} (h : (l.map key).Nodup) :
    Apart (fun a b => key a = key b) l := fun _ ha _ hb he => List.inj_on_of_nodup_map h ha hb he

/-- A row whose key no row of the table has can be appended. -/
lemma nodup_key_append {κ : Type*} {key : α → κ} (h : (l.map key).Nodup) {r : α}
    (hr : ∀ a ∈ l, key a ≠ key r) : ((l ++ [r]).map key).Nodup := by
  rw [List.map_append]
  refine h.append (List.nodup_singleton _) fun k hk hk' => ?_
  obtain ⟨a, ha, rfl⟩ := List.mem_map.1 hk
  exact hr a ha (List.mem_singleton.1 hk')

lemma Apart.mono (h : Apart R l) (hs : ∀ r ∈ l', r ∈ l) : Apart R l' :=
  fun a ha b hb hr => h a (hs a ha) b (hs b hb) hr

lemma Apart.filter (h : Apart R l) (p : α → Bool) : Apart R (l.filter p) :=
  h.mono fun _ hr => List.mem_of_mem_filter hr

/-- Rewriting rows keeps them apart when it relates no two rows that were not related. -/
lemma Apart.map (h : Apart R l) {g : α → α} (hg : ∀ a ∈ l, ∀ b ∈ l, R (g a) (g b) → R a b) :
    Apart R (l.map g) := by
  intro a' ha' b' hb' hr
  obtain ⟨a, ha, rfl⟩ := List.mem_map.1 ha'
  obtain ⟨b, hb, rfl⟩ := List.mem_map.1 hb'
  rw [h a ha b hb (hg a ha b hb hr)]

/-- A row that is related to no row of the table can be appended. -/
lemma Apart.append (h : Apart R l) {r : α} (h1 : ∀ a ∈ l, ¬ R a r) (h2 : ∀ a ∈ l, ¬ R r a) :
    Apart R (l ++ [r]) := by
  intro a ha b hb hr
  rcases List.mem_append.1 ha with ha | ha <;> rcases List.mem_append.1 hb with hb | hb
  · exact h a ha b hb hr
  · rw [List.mem_singleton.1 hb] at hr
    exact absurd hr (h1 a ha)
  · rw [List.mem_singleton.1 ha] at hr
    exact absurd hr (h2 b hb)
  · rw [List.mem_singleton.1 ha, List.mem_singleton.1 hb]

/-- A search finds the row of the table that it matches, when whatever else it matches is related
to that row. -/
lemma Apart.find?_eq_some (h : Apart R l) {p : α → Bool} {a : α} (ha : a ∈ l) (hp : p a = true)
    (hR : ∀ b ∈ l, p b = true → R b a) : l.find? p = some a := by
  cases hf : l.find? p with
  | none => exact absurd hp (by simpa using List.find?_eq_none.1 hf a ha)
  | some b =>
    have hb := List.mem_of_find?_eq_some hf
    rw [h b hb a ha (hR b hb (List.find?_some hf))]

/-- A search by a unique key finds the row that has it. -/
lemma find?_key {κ : Type*} [DecidableEq κ] {key : α → κ} (h : (l.map key).Nodup) {a : α} (ha : a ∈ l) :
    l.find? (fun b => decide (key b = key a)) = some a := by
  have hap : Apart (fun a b => key a = key b) l := .of_nodup h
  exact hap.find?_eq_some ha (by simp) fun b _ hb => of_decide_eq_true hb

/-- At most one row satisfies a test that relates any two rows that pass it. -/
lemma Apart.length_filter_le (h : Apart R l) (hn : l.Nodup) {p : α → Bool}
    (hR : ∀ a ∈ l, ∀ b ∈ l, p a = true → p b = true → R a b) : (l.filter p).length ≤ 1 := by
  have hnf : (l.filter p).Nodup := hn.filter p
  match hf : l.filter p with
  | [] => simp
  | [a] => simp
  | a :: b :: rest =>
    rw [hf] at hnf
    obtain ⟨ha, hpa⟩ := List.mem_filter.1 (show a ∈ l.filter p by rw [hf]; simp)
    obtain ⟨hb, hpb⟩ := List.mem_filter.1 (show b ∈ l.filter p by rw [hf]; simp)
    have hab : a = b := h a ha b hb (hR a ha b hb hpa hpb)
    exact absurd hnf (by simp [hab])

end Apart

section Update

variable {p : α → Bool} {f : α → α} {l : List α}

lemma mem_updateWhere {r : α} :
    r ∈ updateWhere p f l ↔ ∃ r₀ ∈ l, (if p r₀ then f r₀ else r₀) = r := by
  simp [updateWhere]

lemma updateWhere_of_none (h : ∀ r ∈ l, p r = false) : updateWhere p f l = l := by
  unfold updateWhere
  conv_rhs => rw [← List.map_id l]
  refine List.map_congr_left fun r hr => ?_
  simp [h r hr]

/-- Rows that are rewritten alike, some of them twice. -/
lemma updateWhere_or (q : α → Bool) (hf : ∀ r, f (f r) = f r) :
    updateWhere q f (updateWhere p f l) = updateWhere (fun r => p r || q r) f l := by
  unfold updateWhere
  rw [List.map_map]
  refine List.map_congr_left fun r _ => ?_
  by_cases hp : p r = true
  · simp [hp, hf]
  · simp [hp]

lemma updateWhere_congr {q : α → Bool} (h : ∀ r ∈ l, p r = q r) : updateWhere p f l = updateWhere q f l := by
  unfold updateWhere
  refine List.map_congr_left fun r hr => ?_
  rw [h r hr]

/-- A column that the rewriting leaves alone. -/
lemma map_updateWhere {κ : Type*} (key : α → κ) (hk : ∀ r, key (f r) = key r) :
    (updateWhere p f l).map key = l.map key := by
  unfold updateWhere
  rw [List.map_map]
  refine List.map_congr_left fun r _ => ?_
  by_cases h : p r <;> simp [h, hk]

end Update

section Delete

variable {κ : Type*} [DecidableEq κ] {key : α → κ} {l : List α} {p : α → Bool}

lemma filter_notMem_append (l : List α) (b c : List κ) :
    (l.filter fun r => key r ∉ b).filter (fun r => key r ∉ c) = l.filter fun r => key r ∉ b ++ c := by
  rw [List.filter_filter]
  refine List.filter_congr fun r _ => ?_
  rw [Bool.eq_iff_iff]
  simp only [Bool.and_eq_true, decide_eq_true_eq, List.mem_append, not_or]
  exact and_comm

/-- Deleting the first rows that a search returns leaves the others to be found. -/
lemma filter_filter_notMem (h : (l.map key).Nodup) {b c : List α} (hs : l.filter p = b ++ c) :
    (l.filter fun r => key r ∉ b.map key).filter p = c := by
  have hn : ((b ++ c).map key).Nodup := by
    rw [← hs]
    exact (List.filter_sublist.map key).nodup h
  rw [List.map_append, List.nodup_append'] at hn
  rw [List.filter_filter]
  have hcomm : l.filter (fun r => p r && decide (key r ∉ b.map key)) =
      (l.filter p).filter fun r => key r ∉ b.map key := by
    rw [List.filter_filter]
    exact List.filter_congr fun r _ => Bool.and_comm _ _
  rw [hcomm, hs, List.filter_append, List.filter_eq_nil_iff.2 fun r hr => ?_, List.filter_eq_self.2
    fun r hr => ?_, List.nil_append]
  · simpa using fun x hx he => hn.2.2 (List.mem_map_of_mem hx) (he ▸ List.mem_map_of_mem hr)
  · simpa using ⟨r, hr, rfl⟩

/-- Deleting by key the rows that satisfy `p` deletes no others. -/
lemma filter_notMem_eq (h : (l.map key).Nodup) {rows : List α}
    (hr : ∀ r, r ∈ rows ↔ r ∈ l ∧ p r = true) :
    (l.filter fun r => key r ∉ rows.map key) = l.filter fun r => !p r := by
  refine List.filter_congr fun r hrl => ?_
  have hiff : key r ∈ rows.map key ↔ p r = true := by
    constructor
    · intro hm
      obtain ⟨r', hr', he⟩ := List.mem_map.1 hm
      obtain ⟨hl', hp⟩ := (hr r').1 hr'
      rwa [← List.inj_on_of_nodup_map h hl' hrl he]
    · exact fun hp => List.mem_map_of_mem ((hr r).2 ⟨hrl, hp⟩)
  by_cases hp : p r = true <;> simp [hiff, hp]

end Delete

/-- A row found before some other rows are deleted is found after, if it is not one of them. -/
lemma find?_filter_of_find? {p q : α → Bool} {l : List α} {a : α} (h : l.find? p = some a)
    (hq : q a = true) : (l.filter q).find? p = some a := by
  induction l with
  | nil => simp at h
  | cons b l ih =>
    by_cases hb : p b = true
    · obtain rfl : b = a := by simpa [List.find?_cons, hb] using h
      simp [hq, hb]
    · have h' : l.find? p = some a := by simpa [List.find?_cons, hb] using h
      by_cases hqb : q b = true
      · rw [List.filter_cons_of_pos hqb, List.find?_cons_of_neg hb]
        exact ih h'
      · rw [List.filter_cons_of_neg hqb]
        exact ih h'

end AdvMcp.Lib
