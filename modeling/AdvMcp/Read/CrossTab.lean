import Mathlib.Algebra.Order.Ring.Rat
import Mathlib.Data.Prod.Lex
import Mathlib.Data.List.Perm.Subperm
import Mathlib.Data.String.Basic
import Mathlib.Order.WithBot
import AdvMcp.Lib.Sorting
import AdvMcp.Read.Aggregate
import AdvMcp.Read.Secrecy

/-!
# The cross-tab

What `_cross_tab` makes of the groups that the ORM returns, whatever their keys.

* `tupleLt` — Python's `<` on tuples of keys, which raises on keys of different kinds; `sortedTuples` sorts
  by it;
* `Tabulates` — a matrix with a row for each row key, a column for each column key, and each group in its
  cell;
* `Separable` — keys that Python can tell apart and compare.

`tabulates_iff` says that the answer is such a matrix if and only if the row keys and the column keys are
separable.
-/

namespace AdvMcp.Read

open AdvMcp.Py AdvMcp.Lib

/-! ### Keys and their order -/

/-- A number of Python, other than NaN. -/
abbrev Number := WithBot (WithTop ℚ)

def rational (q : ℚ) : Number := ((q : WithTop ℚ) : WithBot (WithTop ℚ))

def isScalar : Value → Bool
  | .bool _ | .int _ | .float _ | .str _ => true
  | _ => false

/-- A value that groups have for a field: a scalar, which `False` is too, or a pair. -/
def isKey : Value → Bool
  | .list [a, b] => isScalar a && isScalar b
  | v => isScalar v

section Keys

variable (fl : String → Number)

/-- The number that a value is; `fl` gives the floats by their `repr`. -/
def numberOf : Value → Option Number
  | .bool b => some (rational (if b then 1 else 0))
  | .int n => some (rational n)
  | .float t => some (fl t)
  | _ => none

/-- `v == w`, of two scalars -/
def scalarEq (v w : Value) : Bool :=
  match v, w with
  | .str s, .str t => s == t
  | v, w =>
    match numberOf fl v, numberOf fl w with
    | some x, some y => decide (x = y)
    | _, _ => false

/-- `v == w`, of two keys -/
def keyEq (v w : Value) : Bool :=
  match v, w with
  | .list xs, .list ys => lexEq (scalarEq fl) xs ys
  | v, w => scalarEq fl v w

/-- The `TypeError` of `v < w`. -/
def lessError (v w : Value) : PyExc :=
  let name := fun v : Value => if v.typeName = "list" then "tuple" else v.typeName
  .of .typeError ("'<' not supported between instances of '" ++ name v ++ "' and '" ++ name w ++ "'")

/-- `v < w`, of two scalars -/
def scalarLt (v w : Value) : Except PyExc Bool :=
  match v, w with
  | .str s, .str t => .ok (decide (s < t))
  | v, w =>
    match numberOf fl v, numberOf fl w with
    | some x, some y => .ok (decide (x < y))
    | _, _ => .error (lessError v w)

variable (py : Builtins)

/-- `v < w`, of two keys -/
def keyLt (v w : Value) : Except PyExc Bool :=
  match v, w with
  | .list xs, .list ys => lexLt py.eq (scalarLt fl) xs ys
  | v, w => scalarLt fl v w

/-- `a < b`, of two tuples of keys -/
def tupleLt (a b : List Value) : Except PyExc Bool := lexLt py.eq (keyLt fl py) a b

/-- `sorted(keys)` -/
def sortedTuples (keys : List (List Value)) : Except PyExc (List (List Value)) := sortBy (tupleLt fl py) keys

/-- Python's `==` on keys. -/
def EqDocs : Prop := ∀ v w, isKey v = true → isKey w = true → py.eq v w = keyEq fl v w

end Keys

/-! ### Two orders of the keys

Numbers and strings, and scalars and pairs, do not compare.  With `σ = 1` and with `σ = -1` they are ordered
one way and the other. -/

abbrev ScalarCode := Lex (ℤ × Lex (Number × String))

abbrev KeyCode := Lex (ℤ × List ScalarCode)

section Codes

variable (fl : String → Number) (σ : ℤ)

def scalarCode : Value → ScalarCode
  | .str s => toLex (σ, toLex (⊥, s))
  | v => toLex (0, toLex ((numberOf fl v).getD ⊥, ""))

def keyCode : Value → KeyCode
  | .list xs => toLex (σ, xs.map (scalarCode fl σ))
  | v => toLex (0, [scalarCode fl σ v])

end Codes

section Orders

variable {fl : String → Number} {py : Builtins} {σ : ℤ}

variable (fl) in
/-- A scalar is a string or a number. -/
lemma scalar_cases {v : Value} (h : isScalar v = true) :
    (∃ s, v = .str s) ∨ ∃ x, numberOf fl v = some x ∧ ∀ s, v ≠ .str s := by
  cases v with
  | str s => exact Or.inl ⟨s, rfl⟩
  | bool b => exact Or.inr ⟨_, rfl, fun s => Value.noConfusion⟩
  | int n => exact Or.inr ⟨_, rfl, fun s => Value.noConfusion⟩
  | float t => exact Or.inr ⟨_, rfl, fun s => Value.noConfusion⟩
  | _ => cases h

lemma scalarCode_number {v : Value} {x : Number} (hx : numberOf fl v = some x) :
    scalarCode fl σ v = toLex (0, toLex (x, "")) := by
  cases v with
  | str s => cases hx
  | _ => simp [scalarCode, hx]

lemma scalarEq_number {v w : Value} {x y : Number} (hx : numberOf fl v = some x) (hy : numberOf fl w = some y) :
    scalarEq fl v w = decide (x = y) := by
  unfold scalarEq
  split
  · cases hx
  · rw [hx, hy]

lemma scalarEq_mixed {v w : Value} (h : numberOf fl v = none ∨ numberOf fl w = none)
    (hs : ∀ s t, v = .str s → w ≠ .str t) : scalarEq fl v w = false := by
  unfold scalarEq
  split
  · exact absurd rfl (hs _ _ rfl)
  · split
    · rename_i hx hy
      rw [hx, hy] at h
      simp at h
    · rfl

lemma scalarLt_number {v w : Value} {x y : Number} (hx : numberOf fl v = some x) (hy : numberOf fl w = some y) :
    scalarLt fl v w = .ok (decide (x < y)) := by
  unfold scalarLt
  split
  · cases hx
  · rw [hx, hy]

lemma scalarLt_mixed {v w : Value} (h : numberOf fl v = none ∨ numberOf fl w = none)
    (hs : ∀ s t, v = .str s → w ≠ .str t) : scalarLt fl v w = .error (lessError v w) := by
  unfold scalarLt
  split
  · exact absurd rfl (hs _ _ rfl)
  · split
    · rename_i hx hy
      rw [hx, hy] at h
      simp at h
    · rfl

lemma scalarEq_iff (hσ : σ ≠ 0) (v w : Value) (hv : isScalar v = true) (hw : isScalar w = true) :
    scalarEq fl v w = true ↔ scalarCode fl σ v = scalarCode fl σ w := by
  rcases scalar_cases fl hv with ⟨s, rfl⟩ | ⟨x, hx, hvs⟩
  · rcases scalar_cases fl hw with ⟨t, rfl⟩ | ⟨y, hy, hws⟩
    · simp [scalarEq, scalarCode]
    · rw [scalarEq_mixed (Or.inl rfl) fun _ t _ => hws t, scalarCode_number hy]
      simp [scalarCode, hσ]
  · rcases scalar_cases fl hw with ⟨t, rfl⟩ | ⟨y, hy, hws⟩
    · rw [scalarEq_mixed (Or.inr rfl) fun s _ hs => absurd hs (hvs s), scalarCode_number hx]
      simp [scalarCode, Ne.symm hσ]
    · rw [scalarEq_number hx hy, scalarCode_number hx, scalarCode_number hy]
      simp

lemma scalarLt_ok (v w : Value) (c : Bool) (hv : isScalar v = true) (hw : isScalar w = true)
    (h : scalarLt fl v w = .ok c) : c = true ↔ scalarCode fl σ v < scalarCode fl σ w := by
  rcases scalar_cases fl hv with ⟨s, rfl⟩ | ⟨x, hx, hvs⟩
  · rcases scalar_cases fl hw with ⟨t, rfl⟩ | ⟨y, hy, hws⟩
    · obtain rfl := Except.ok.inj h
      simp [scalarCode, Prod.Lex.toLex_lt_toLex]
    · rw [scalarLt_mixed (Or.inl rfl) fun _ t _ => hws t] at h
      cases h
  · rcases scalar_cases fl hw with ⟨t, rfl⟩ | ⟨y, hy, hws⟩
    · rw [scalarLt_mixed (Or.inr rfl) fun s _ hs => absurd hs (hvs s)] at h
      cases h
    · rw [scalarLt_number hx hy] at h
      obtain rfl := Except.ok.inj h
      rw [scalarCode_number hx, scalarCode_number hy]
      simp [Prod.Lex.toLex_lt_toLex]

/-- Strings and numbers are ordered one way and the other. -/
lemma scalarLt_error (v w : Value) (e : PyExc) (hv : isScalar v = true) (hw : isScalar w = true)
    (h : scalarLt fl v w = .error e) : Opposed (scalarCode fl 1) (scalarCode fl (-1)) v w := by
  unfold Opposed
  rcases scalar_cases fl hv with ⟨s, rfl⟩ | ⟨x, hx, hvs⟩
  · rcases scalar_cases fl hw with ⟨t, rfl⟩ | ⟨y, hy, hws⟩
    · cases h
    · right
      rw [scalarCode_number hy, scalarCode_number hy]
      simp [scalarCode, Prod.Lex.toLex_lt_toLex]
  · rcases scalar_cases fl hw with ⟨t, rfl⟩ | ⟨y, hy, hws⟩
    · left
      rw [scalarCode_number hx, scalarCode_number hx]
      simp [scalarCode, Prod.Lex.toLex_lt_toLex]
    · rw [scalarLt_number hx hy] at h
      cases h

/-- **Scalars** compare as numbers or as strings. -/
theorem scalar_comparison :
    Comparison (fun v => isScalar v = true) (scalarEq fl) (scalarLt fl) (scalarCode fl 1) (scalarCode fl (-1)) where
  left := scalarEq_iff (by decide)
  right := scalarEq_iff (by decide)
  ok v w c hv hw h := ⟨scalarLt_ok v w c hv hw h, scalarLt_ok v w c hv hw h⟩
  error := scalarLt_error

/-- A key is a scalar, or a sequence of scalars. -/
lemma key_cases {v : Value} (h : isKey v = true) :
    isScalar v = true ∨ ∃ xs, v = .list xs ∧ ∀ x ∈ xs, isScalar x = true := by
  unfold isKey at h
  split at h
  · rename_i a b
    simp only [Bool.and_eq_true] at h
    refine Or.inr ⟨[a, b], rfl, fun x hx => ?_⟩
    rcases List.mem_pair.1 hx with rfl | rfl
    · exact h.1
    · exact h.2
  · exact Or.inl h

lemma isKey_of_isScalar {v : Value} (h : isScalar v = true) : isKey v = true := by
  cases v with
  | list xs => cases h
  | _ => exact h

lemma keyCode_scalar {v : Value} (h : isScalar v = true) : keyCode fl σ v = toLex (0, [scalarCode fl σ v]) := by
  cases v with
  | list xs => cases h
  | _ => rfl

lemma keyEq_scalar {v w : Value} (h : isScalar v = true ∨ isScalar w = true) : keyEq fl v w = scalarEq fl v w := by
  unfold keyEq
  split
  · simp [isScalar] at h
  · rfl

lemma keyLt_scalar {v w : Value} (h : isScalar v = true ∨ isScalar w = true) :
    keyLt fl py v w = scalarLt fl v w := by
  unfold keyLt
  split
  · simp [isScalar] at h
  · rfl

/-- On scalars and on sequences of them Python's `==` is as expected. -/
lemma scalar_comparison_py (h : EqDocs fl py) :
    Comparison (fun v => isScalar v = true) py.eq (scalarLt fl) (scalarCode fl 1) (scalarCode fl (-1)) := by
  refine scalar_comparison.congr fun v w hv hw => ?_
  rw [h v w (isKey_of_isScalar hv) (isKey_of_isScalar hw), keyEq_scalar (Or.inl hv)]

lemma keyEq_iff (hσ : σ ≠ 0) (v w : Value) (hv : isKey v = true) (hw : isKey w = true) :
    keyEq fl v w = true ↔ keyCode fl σ v = keyCode fl σ w := by
  rcases key_cases hv with hv | ⟨xs, rfl, hxs⟩
  · rw [keyEq_scalar (Or.inl hv), keyCode_scalar hv]
    rcases key_cases hw with hw | ⟨ys, rfl, hys⟩
    · rw [scalarEq_iff hσ v w hv hw, keyCode_scalar hw]
      simp
    · rw [scalarEq_mixed (Or.inr rfl) fun _ _ _ => Value.noConfusion]
      simp [keyCode, Ne.symm hσ]
  · rcases key_cases hw with hw | ⟨ys, rfl, hys⟩
    · rw [keyEq_scalar (Or.inr hw), keyCode_scalar hw, scalarEq_mixed (Or.inl rfl) fun _ _ => Value.noConfusion]
      simp [keyCode, hσ]
    · show lexEq (scalarEq fl) xs ys = true ↔ _
      rw [lexEq_iff (scalarEq_iff hσ) hxs hys]
      simp [keyCode]

lemma keyLt_ok (h : EqDocs fl py) (hσ : σ ≠ 0) (v w : Value) (c : Bool) (hv : isKey v = true) (hw : isKey w = true)
    (hc : keyLt fl py v w = .ok c) : c = true ↔ keyCode fl σ v < keyCode fl σ w := by
  rcases key_cases hv with hv | ⟨xs, rfl, hxs⟩
  · rw [keyLt_scalar (Or.inl hv)] at hc
    rw [keyCode_scalar hv]
    rcases key_cases hw with hw | ⟨ys, rfl, hys⟩
    · have hlt : c = true ↔ scalarCode fl σ v < scalarCode fl σ w := scalarLt_ok v w c hv hw hc
      rw [hlt, keyCode_scalar hw]
      simp [Prod.Lex.toLex_lt_toLex, List.cons_lt_cons_iff]
    · rw [scalarLt_mixed (Or.inr rfl) fun _ _ _ => Value.noConfusion] at hc
      cases hc
  · rcases key_cases hw with hw | ⟨ys, rfl, hys⟩
    · rw [keyLt_scalar (Or.inr hw), scalarLt_mixed (Or.inl rfl) fun _ _ => Value.noConfusion] at hc
      cases hc
    · have heq : ∀ x y, isScalar x = true → isScalar y = true →
          (py.eq x y = true ↔ scalarCode fl σ x = scalarCode fl σ y) := by
        intro x y hx hy
        rw [h x y (isKey_of_isScalar hx) (isKey_of_isScalar hy), keyEq_scalar (Or.inl hx)]
        exact scalarEq_iff hσ x y hx hy
      rw [lexLt_ok heq (fun x y c hx hy hc => scalarLt_ok x y c hx hy hc) hxs hys hc]
      simp [keyCode, Prod.Lex.toLex_lt_toLex]

lemma keyLt_error (h : EqDocs fl py) (v w : Value) (e : PyExc) (hv : isKey v = true) (hw : isKey w = true)
    (hc : keyLt fl py v w = .error e) : Opposed (keyCode fl 1) (keyCode fl (-1)) v w := by
  unfold Opposed
  rcases key_cases hv with hv | ⟨xs, rfl, hxs⟩
  · rw [keyCode_scalar hv, keyCode_scalar hv]
    rcases key_cases hw with hw | ⟨ys, rfl, hys⟩
    · rw [keyLt_scalar (Or.inl hv)] at hc
      have hop := scalarLt_error v w e hv hw hc
      rw [keyCode_scalar hw, keyCode_scalar hw]
      unfold Opposed at hop
      simpa [Prod.Lex.toLex_lt_toLex, List.cons_lt_cons_iff] using hop
    · left
      simp [keyCode, Prod.Lex.toLex_lt_toLex]
  · rcases key_cases hw with hw | ⟨ys, rfl, hys⟩
    · right
      rw [keyCode_scalar hw, keyCode_scalar hw]
      simp [keyCode, Prod.Lex.toLex_lt_toLex]
    · have hop := (scalar_comparison_py h).lex.error xs ys e hxs hys hc
      unfold Opposed at hop
      simpa [keyCode, Prod.Lex.toLex_lt_toLex] using hop

/-- **Keys** compare as scalars or as pairs. -/
theorem key_comparison (h : EqDocs fl py) :
    Comparison (fun v => isKey v = true) py.eq (keyLt fl py) (keyCode fl 1) (keyCode fl (-1)) where
  left v w hv hw := by
    rw [h v w hv hw]
    exact keyEq_iff (by decide) v w hv hw
  right v w hv hw := by
    rw [h v w hv hw]
    exact keyEq_iff (by decide) v w hv hw
  ok v w c hv hw hc := ⟨keyLt_ok h (by decide) v w c hv hw hc, keyLt_ok h (by decide) v w c hv hw hc⟩
  error := keyLt_error h

lemma sameTuple_eq : sameTuple py = lexEq py.eq := rfl

/-- **Tuples of keys** compare by their first keys that differ. -/
theorem tuple_comparison (h : EqDocs fl py) :
    Comparison (fun t => ∀ v ∈ t, isKey v = true) (sameTuple py) (tupleLt fl py) (List.map (keyCode fl 1))
      (List.map (keyCode fl (-1))) := (key_comparison h).lex

end Orders

/-! ### The sets of keys -/

section Sets

variable {fl : String → Number} {py : Builtins}

/-- Python tells the keys apart, and compares every two of them. -/
def Separable (fl : String → Number) (py : Builtins) (keys : List (List Value)) : Prop :=
  ∀ a ∈ keys, ∀ b ∈ keys, a ≠ b → sameTuple py a b = false ∧ ∃ c, tupleLt fl py a b = .ok c

/-- The keys, each once. -/
def Lists (keys vals : List (List Value)) : Prop := vals.Nodup ∧ ∀ v, v ∈ vals ↔ v ∈ keys

lemma sameTuple_refl (a : List Value) : sameTuple py a a = true := by
  rw [sameTuple_eq]
  induction a with
  | nil => rfl
  | cons v a ih =>
    unfold lexEq at ih ⊢
    simpa [py.eq_refl] using ih

lemma mem_of_distinct {a : List Value} {keys : List (List Value)} (h : a ∈ distinct py keys) : a ∈ keys := by
  induction keys with
  | nil => exact h
  | cons b keys ih =>
    rcases List.mem_cons.1 h with rfl | h
    · exact List.mem_cons_self
    · exact List.mem_cons_of_mem _ (ih (List.mem_of_mem_filter h))

lemma distinct_pairwise (keys : List (List Value)) :
    (distinct py keys).Pairwise fun a b => sameTuple py a b = false := by
  induction keys with
  | nil => exact List.Pairwise.nil
  | cons a keys ih =>
    refine List.pairwise_cons.2 ⟨fun b hb => ?_, ih.filter _⟩
    simpa using (List.mem_filter.1 hb).2

lemma distinct_nodup (keys : List (List Value)) : (distinct py keys).Nodup := by
  refine (distinct_pairwise keys).imp fun {a b} h => ?_
  rintro rfl
  rw [sameTuple_refl] at h
  cases h

/-- Keys that Python tells apart all stay. -/
lemma mem_distinct {keys : List (List Value)} (h : ∀ a ∈ keys, ∀ b ∈ keys, a ≠ b → sameTuple py a b = false)
    {a : List Value} (ha : a ∈ keys) : a ∈ distinct py keys := by
  induction keys with
  | nil => exact ha
  | cons b keys ih =>
    by_cases hab : a = b
    · rw [hab]
      exact List.mem_cons_self
    · have hmem : a ∈ keys := (List.mem_cons.1 ha).resolve_left hab
      refine List.mem_cons_of_mem _ (List.mem_filter.2 ⟨?_, ?_⟩)
      · exact ih (fun x hx y hy => h x (List.mem_cons_of_mem _ hx) y (List.mem_cons_of_mem _ hy)) hmem
      · simp [h b List.mem_cons_self a ha (Ne.symm hab)]

variable {keys : List (List Value)}

/-- Of separable keys the sorted set has each once. -/
lemma sorted_of_separable (he : EqDocs fl py) (hk : ∀ t ∈ keys, ∀ v ∈ t, isKey v = true)
    (h : Separable fl py keys) : ∃ vals, sortedTuples fl py (distinct py keys) = .ok vals ∧ Lists keys vals := by
  have hcmp : ∀ a ∈ distinct py keys, ∀ b ∈ distinct py keys, a ≠ b → ∃ c, tupleLt fl py a b = .ok c :=
    fun a ha b hb hne => (h a (mem_of_distinct ha) b (mem_of_distinct hb) hne).2
  obtain ⟨vals, hv⟩ := (sortBy_ok_iff (tuple_comparison he) (fun t ht => hk t (mem_of_distinct ht))
    (distinct_nodup keys)).2 hcmp
  have hperm := sortBy_perm hv
  refine ⟨vals, hv, hperm.nodup_iff.2 (distinct_nodup keys), fun v => hperm.mem_iff.trans ?_⟩
  exact ⟨mem_of_distinct, mem_distinct fun a ha b hb hne => (h a ha b hb hne).1⟩

/-- Keys that are all in the set and can be sorted are separable. -/
lemma separable_of_sorted (he : EqDocs fl py) (hk : ∀ t ∈ keys, ∀ v ∈ t, isKey v = true)
    {vals : List (List Value)} (hv : sortedTuples fl py (distinct py keys) = .ok vals)
    (hall : ∀ t ∈ keys, t ∈ distinct py keys) : Separable fl py keys := by
  have hcmp := (sortBy_ok_iff (tuple_comparison he) (fun t ht => hk t (mem_of_distinct ht))
    (distinct_nodup keys)).1 ⟨vals, hv⟩
  intro a ha b hb hne
  refine ⟨?_, hcmp a (hall a ha) b (hall b hb) hne⟩
  have hsymm : ∀ x ∈ distinct py keys, ∀ y ∈ distinct py keys, sameTuple py x y = false →
      sameTuple py y x = false := by
    intro x hx y hy hxy
    have hl := (tuple_comparison he).left x y (hk x (mem_of_distinct hx)) (hk y (mem_of_distinct hy))
    have hr := (tuple_comparison he).left y x (hk y (mem_of_distinct hy)) (hk x (mem_of_distinct hx))
    rw [Bool.eq_false_iff, ne_eq, hl] at hxy
    rw [Bool.eq_false_iff, ne_eq, hr]
    exact fun heq => hxy heq.symm
  have hpw : (distinct py keys).Pairwise fun x y => sameTuple py x y = false ∧ sameTuple py y x = false := by
    refine (List.Pairwise.and_mem.1 (distinct_pairwise keys)).imp fun {x y} h => ?_
    exact ⟨h.2.2, hsymm x h.1 y h.2.1 h.2.2⟩
  have hboth := List.Pairwise.forall_of_forall_of_flip (R := fun x y => x = y ∨ sameTuple py x y = false)
    (fun x _ => Or.inl rfl) (hpw.imp fun h => Or.inr h.1) (hpw.imp fun h => Or.inr h.2)
  exact (hboth (hall a ha) (hall b hb)).resolve_left hne

/-- A set as large as the keys has all of them. -/
lemma mem_distinct_of_length {vals : List (List Value)} (hl : Lists keys vals)
    (hlen : vals.length ≤ (distinct py keys).length) : ∀ t ∈ keys, t ∈ distinct py keys := by
  have hsub : distinct py keys ⊆ vals := fun t ht => (hl.2 t).2 (mem_of_distinct ht)
  have hperm := (List.subperm_of_subset (distinct_nodup keys) hsub).perm_of_length_le hlen
  exact fun t ht => hperm.mem_iff.2 ((hl.2 t).2 ht)

end Sets

/-! ### The matrix -/

section Matrix

variable (py : Builtins) (rows cols cells : List String) (raw : List Dict)

/-- What the ORM answers: groups with a key for each field, and no two groups with the same keys. -/
structure Groups : Prop where
  keyed : ∀ g ∈ raw, ∀ k ∈ rows ++ cols, ∃ v, g.lookup k = some v ∧ isKey v = true
  distinct : (raw.map (tupleOf (rows ++ cols))).Nodup

/-- The texts of different column keys are different, and none is the name of the row key. -/
structure ReprDocs : Prop where
  injective : ∀ g ∈ raw, ∀ g' ∈ raw, py.repr (.list (tupleOf cols g)) = py.repr (.list (tupleOf cols g')) →
    tupleOf cols g = tupleOf cols g'
  row : ∀ g ∈ raw, py.repr (.list (tupleOf cols g)) ≠ "_row"

/-- The cell of a row key and a column key: the aggregates of the group with these keys, or nothing. -/
structure IsCell (rv cv : List Value) (cell : Dict) : Prop where
  group : ∀ g ∈ raw, tupleOf rows g = rv → tupleOf cols g = cv →
    cell = dictOfItems (cells.map fun a => (a, g.get a))
  empty : (∀ g ∈ raw, ¬ (tupleOf rows g = rv ∧ tupleOf cols g = cv)) → cell = []

/-- The row of a row key: the key, and a cell for each column key. -/
structure IsRow (colVals : List (List Value)) (rv : List Value) (row : Dict) : Prop where
  names : row.map (·.1) = "_row" :: colVals.map fun cv => py.str (.list cv)
  nodup : (row.map (·.1)).Nodup
  key : row.get "_row" = .dict (dictOfItems (rows.zip rv))
  cell : ∀ cv ∈ colVals, ∃ cell, row.get (py.str (.list cv)) = .dict cell ∧ IsCell rows cols cells raw rv cv cell

/-- The answer is the matrix of the groups, and each group is at one place of it. -/
def Tabulates (model : String) (out : Except PyExc Value) : Prop :=
  ∃ text rowVals colVals matrix,
    out = .ok (result text (.dict [("matrix", .list (matrix.map .dict)),
      ("col_values", .list (colVals.map .list)), ("model", .str model)])) ∧
    Lists (raw.map (tupleOf rows)) rowVals ∧ Lists (raw.map (tupleOf cols)) colVals ∧
    List.Forall₂ (IsRow py rows cols cells raw colVals) rowVals matrix ∧
    ∀ g ∈ raw, ∃! place : List Value × List Value, place.1 ∈ rowVals ∧ place.2 ∈ colVals ∧
      tupleOf rows g = place.1 ∧ tupleOf cols g = place.2

end Matrix

section Table

variable {fl : String → Number} {py : Builtins} {rows cols cells : List String} {raw : List Dict}

lemma has_false {d : Dict} {key : String} (h : key ∉ d.map (·.1)) : d.has key = false := by
  unfold Dict.has
  rw [List.any_eq_false]
  intro p hp he
  exact h (List.mem_map.2 ⟨p, hp, beq_iff_eq.1 he⟩)

/-- New keys are appended. -/
lemma foldl_set_fresh {β : Type} {name : β → String} {val : β → Value} {d : Dict} {l : List β}
    (h : (d.map (·.1) ++ l.map name).Nodup) :
    l.foldl (fun d b => d.set (name b) (val b)) d = d ++ l.map fun b => (name b, val b) := by
  induction l generalizing d with
  | nil => rw [List.foldl_nil, List.map_nil, List.append_nil]
  | cons b l ih =>
    have hnew : name b ∉ d.map (·.1) := by
      intro hmem
      rw [List.map_cons] at h
      exact (List.nodup_append.1 h).2.2 _ hmem _ List.mem_cons_self rfl
    have hset : d.set (name b) (val b) = d ++ [(name b, val b)] := by
      unfold Dict.set
      rw [has_false hnew]
      rfl
    rw [List.foldl_cons, hset, ih]
    · rw [List.append_assoc, List.map_cons]
      rfl
    · rw [List.map_append, List.append_assoc]
      exact h

/-- The value of a key, in a dictionary with distinct keys. -/
lemma get_of_mem {d : Dict} (h : (d.map (·.1)).Nodup) {key : String} {v : Value} (hp : (key, v) ∈ d) :
    d.get key = v := by
  unfold Dict.get
  induction d with
  | nil => cases hp
  | cons p d ih =>
    obtain ⟨k, w⟩ := p
    obtain ⟨hk, hd⟩ := List.nodup_cons.1 h
    rw [List.lookup_cons]
    rcases List.mem_cons.1 hp with heq | hmem
    · obtain ⟨rfl, rfl⟩ := Prod.mk.inj heq
      simp
    · have hne : key ≠ k := by
        rintro rfl
        exact hk (List.mem_map.2 ⟨(key, v), hmem, rfl⟩)
      rw [beq_false_of_ne hne]
      exact ih hd hmem

/-- What a cell of the matrix holds. -/
def cellValue (py : Builtins) (rows cols cells : List String) (raw : List Dict) (rv cv : List Value) : Dict :=
  let cell := cellOf py rows cols raw rv cv
  if cell.isEmpty then [] else dictOfItems (cells.map fun a => (a, cell.get a))

/-- The columns have names of their own. -/
lemma names_nodup (hn : ReprDocs py cols raw) {colVals : List (List Value)} (hnodup : colVals.Nodup)
    (hcols : ∀ cv ∈ colVals, cv ∈ raw.map (tupleOf cols)) :
    (["_row"] ++ colVals.map fun cv => py.str (.list cv)).Nodup := by
  have hgroup : ∀ cv ∈ colVals, ∃ g ∈ raw, tupleOf cols g = cv := fun cv hcv => List.mem_map.1 (hcols cv hcv)
  refine List.nodup_cons.2 ⟨?_, List.Nodup.map_on ?_ hnodup⟩
  · intro hmem
    obtain ⟨cv, hcv, hname⟩ := List.mem_map.1 hmem
    obtain ⟨g, hg, rfl⟩ := hgroup cv hcv
    exact hn.row g hg hname
  · intro cv hcv cv' hcv' hname
    obtain ⟨g, hg, rfl⟩ := hgroup cv hcv
    obtain ⟨g', hg', rfl⟩ := hgroup cv' hcv'
    exact hn.injective g hg g' hg' hname

lemma matrixRow_eq (hn : ReprDocs py cols raw) {colVals : List (List Value)} (hnodup : colVals.Nodup)
    (hcols : ∀ cv ∈ colVals, cv ∈ raw.map (tupleOf cols)) (rv : List Value) :
    matrixRow py rows cols cells raw colVals rv = ("_row", .dict (dictOfItems (rows.zip rv))) ::
      colVals.map fun cv => (py.str (.list cv), .dict (cellValue py rows cols cells raw rv cv)) :=
  foldl_set_fresh (names_nodup hn hnodup hcols)

lemma tupleOf_append (g : Dict) : tupleOf (rows ++ cols) g = tupleOf rows g ++ tupleOf cols g :=
  List.map_append

/-- Two groups do not have the same keys. -/
lemma group_unique (hg : Groups rows cols raw) {g g' : Dict} (hmem : g ∈ raw) (hmem' : g' ∈ raw)
    (hr : tupleOf rows g = tupleOf rows g') (hc : tupleOf cols g = tupleOf cols g') : g = g' := by
  refine List.inj_on_of_nodup_map hg.distinct hmem hmem' ?_
  rw [tupleOf_append, tupleOf_append, hr, hc]

lemma tuple_isKey (hg : Groups rows cols raw) {g : Dict} (hmem : g ∈ raw) {ks : List String}
    (hks : ∀ k ∈ ks, k ∈ rows ++ cols) : ∀ v ∈ tupleOf ks g, isKey v = true := by
  intro v hv
  obtain ⟨k, hk, rfl⟩ := List.mem_map.1 hv
  obtain ⟨v, hlook, hkey⟩ := hg.keyed g hmem k (hks k hk)
  unfold Dict.get
  rw [hlook]
  exact hkey

lemma rowKeys_isKey (hg : Groups rows cols raw) : ∀ t ∈ raw.map (tupleOf rows), ∀ v ∈ t, isKey v = true := by
  intro t ht
  obtain ⟨g, hmem, rfl⟩ := List.mem_map.1 ht
  exact tuple_isKey hg hmem fun k hk => List.mem_append_left _ hk

lemma colKeys_isKey (hg : Groups rows cols raw) : ∀ t ∈ raw.map (tupleOf cols), ∀ v ∈ t, isKey v = true := by
  intro t ht
  obtain ⟨g, hmem, rfl⟩ := List.mem_map.1 ht
  exact tuple_isKey hg hmem fun k hk => List.mem_append_right _ hk

/-- A separable key is found again. -/
lemma sameTuple_iff {keys : List (List Value)} (h : Separable fl py keys) {a b : List Value} (ha : a ∈ keys)
    (hb : b ∈ keys) : sameTuple py a b = true ↔ a = b := by
  constructor
  · intro hs
    by_contra hne
    rw [(h a ha b hb hne).1] at hs
    cases hs
  · rintro rfl
    exact sameTuple_refl a

/-- The group of a cell is the one with its keys. -/
lemma cellOf_eq (hr : Separable fl py (raw.map (tupleOf rows))) (hc : Separable fl py (raw.map (tupleOf cols)))
    (hg : Groups rows cols raw) {g : Dict} (hmem : g ∈ raw) :
    cellOf py rows cols raw (tupleOf rows g) (tupleOf cols g) = g := by
  have hrow : ∀ g ∈ raw, tupleOf rows g ∈ raw.map (tupleOf rows) := fun g hg => List.mem_map.2 ⟨g, hg, rfl⟩
  have hcol : ∀ g ∈ raw, tupleOf cols g ∈ raw.map (tupleOf cols) := fun g hg => List.mem_map.2 ⟨g, hg, rfl⟩
  unfold cellOf
  cases hf : raw.reverse.find? fun g' =>
      sameTuple py (tupleOf rows g') (tupleOf rows g) && sameTuple py (tupleOf cols g') (tupleOf cols g) with
  | none =>
    have hno := List.find?_eq_none.1 hf g (List.mem_reverse.2 hmem)
    simp [sameTuple_refl] at hno
  | some g' =>
    have hmem' : g' ∈ raw := List.mem_reverse.1 (List.mem_of_find?_eq_some hf)
    have hsame := List.find?_some hf
    simp only [Bool.and_eq_true] at hsame
    have hr' := (sameTuple_iff hr (hrow g' hmem') (hrow g hmem)).1 hsame.1
    have hc' := (sameTuple_iff hc (hcol g' hmem') (hcol g hmem)).1 hsame.2
    exact group_unique hg hmem' hmem hr' hc'

/-- Keys without a group have no cell. -/
lemma cellOf_none (hr : Separable fl py (raw.map (tupleOf rows))) (hc : Separable fl py (raw.map (tupleOf cols)))
    {rv cv : List Value} (hrv : rv ∈ raw.map (tupleOf rows)) (hcv : cv ∈ raw.map (tupleOf cols))
    (hno : ∀ g ∈ raw, ¬ (tupleOf rows g = rv ∧ tupleOf cols g = cv)) : cellOf py rows cols raw rv cv = [] := by
  have hf : (raw.reverse.find? fun g =>
      sameTuple py (tupleOf rows g) rv && sameTuple py (tupleOf cols g) cv) = none := by
    rw [List.find?_eq_none]
    intro g hmem hsame
    have hmem' : g ∈ raw := List.mem_reverse.1 hmem
    simp only [Bool.and_eq_true] at hsame
    exact hno g hmem' ⟨(sameTuple_iff hr (List.mem_map.2 ⟨g, hmem', rfl⟩) hrv).1 hsame.1,
      (sameTuple_iff hc (List.mem_map.2 ⟨g, hmem', rfl⟩) hcv).1 hsame.2⟩
  unfold cellOf
  rw [hf]
  rfl

lemma cellValue_isCell (hr : Separable fl py (raw.map (tupleOf rows)))
    (hc : Separable fl py (raw.map (tupleOf cols))) (hg : Groups rows cols raw) (hne : rows ≠ [])
    {rv cv : List Value} (hrv : rv ∈ raw.map (tupleOf rows)) (hcv : cv ∈ raw.map (tupleOf cols)) :
    IsCell rows cols cells raw rv cv (cellValue py rows cols cells raw rv cv) where
  group := by
    rintro g hmem rfl rfl
    obtain ⟨k, hk⟩ := List.exists_mem_of_ne_nil rows hne
    obtain ⟨v, hv, -⟩ := hg.keyed g hmem k (List.mem_append_left _ hk)
    have hnonempty : ¬ g.isEmpty = true := by
      intro he
      rw [List.isEmpty_iff.1 he] at hv
      cases hv
    unfold cellValue
    simp only [cellOf_eq hr hc hg hmem]
    rw [if_neg hnonempty]
  empty := by
    intro hno
    unfold cellValue
    simp only [cellOf_none hr hc hrv hcv hno]
    rfl

lemma matrixRow_isRow (hr : Separable fl py (raw.map (tupleOf rows)))
    (hc : Separable fl py (raw.map (tupleOf cols))) (hg : Groups rows cols raw) (hne : rows ≠ [])
    (hn : ReprDocs py cols raw) {colVals : List (List Value)} (hl : Lists (raw.map (tupleOf cols)) colVals)
    {rv : List Value} (hrv : rv ∈ raw.map (tupleOf rows)) :
    IsRow py rows cols cells raw colVals rv (matrixRow py rows cols cells raw colVals rv) := by
  have hcols : ∀ cv ∈ colVals, cv ∈ raw.map (tupleOf cols) := fun cv hcv => (hl.2 cv).1 hcv
  rw [matrixRow_eq hn hl.1 hcols]
  have hnames : ((("_row", Value.dict (dictOfItems (rows.zip rv))) :: colVals.map fun cv =>
      (py.str (.list cv), Value.dict (cellValue py rows cols cells raw rv cv))).map (·.1)) =
        "_row" :: colVals.map fun cv => py.str (.list cv) := by
    rw [List.map_cons, List.map_map]
    rfl
  have hnd := names_nodup hn hl.1 hcols
  refine ⟨hnames, hnames ▸ hnd, get_of_mem (hnames ▸ hnd) List.mem_cons_self, fun cv hcv =>
    ⟨cellValue py rows cols cells raw rv cv, ?_, ?_⟩⟩
  · exact get_of_mem (hnames ▸ hnd) (List.mem_cons_of_mem _ (List.mem_map.2 ⟨cv, hcv, rfl⟩))
  · exact cellValue_isCell hr hc hg hne hrv ((hl.2 cv).1 hcv)

variable {readGroup : String → List Value → Value → List Value → ℤ → Option ℤ → Except PyExc (List Dict)}
  {model : String} {filterExpr : List Value}

variable (rows cols cells) in
/-- The text of the answer. -/
def crossTabText (model : String) (rowVals colVals : List (List Value)) : String :=
  join "\n" [rule 60, "Cross-tab: " ++ model, "Rows: " ++ join ", " rows, "Columns: " ++ join ", " cols,
    "Cells: " ++ join ", " cells,
    toString rowVals.length ++ " rows × " ++ toString colVals.length ++ " columns"]

variable (fl py) in
/-- `_cross_tab`, on the groups that it reads. -/
lemma crossTab_eq
    (h : readGroup model filterExpr (.list (rows.map .str ++ cols.map .str)) (cells.map .str) 0 none = .ok raw) :
    crossTab py ⟨readGroup, sortedTuples fl py⟩ model (.list (rows.map .str)) (cols.map .str) (cells.map .str)
      filterExpr = do
        let colVals ← sortedTuples fl py (distinct py (raw.map (tupleOf cols)))
        let rowVals ← sortedTuples fl py (distinct py (raw.map (tupleOf rows)))
        return result (crossTabText rows cols cells model rowVals colVals) (.dict [
          ("matrix", .list ((rowVals.map (matrixRow py rows cols cells raw colVals)).map .dict)),
          ("col_values", .list (colVals.map .list)), ("model", .str model)]) := by
  unfold crossTab crossTabText
  simp only [h, ok_bind, strings_str, List.length_map]

/-- **The cross-tab.**  For all groups, `_cross_tab` answers with their matrix if and only if the row keys and
the column keys are separable. -/
theorem tabulates_iff (fl : String → Number) (py : Builtins)
    (readGroup : String → List Value → Value → List Value → ℤ → Option ℤ → Except PyExc (List Dict))
    (model : String) (rows cols cells : List String) (filterExpr : List Value) (raw : List Dict)
    (he : EqDocs fl py) (hn : ReprDocs py cols raw) (hg : Groups rows cols raw) (hne : rows ≠ [])
    (hraw : readGroup model filterExpr (.list (rows.map .str ++ cols.map .str)) (cells.map .str) 0 none =
      .ok raw) :
    Tabulates py rows cols cells raw model (crossTab py ⟨readGroup, sortedTuples fl py⟩ model
        (.list (rows.map .str)) (cols.map .str) (cells.map .str) filterExpr) ↔
      Separable fl py (raw.map (tupleOf rows)) ∧ Separable fl py (raw.map (tupleOf cols)) := by
  rw [crossTab_eq fl py hraw]
  constructor
  · rintro ⟨text', rowVals, colVals, matrix, hout, hlr, hlc, hrows, -⟩
    obtain ⟨colVals', hcv, hout⟩ := except_bind_ok.1 hout
    obtain ⟨rowVals', hrv, hout⟩ := except_bind_ok.1 hout
    have hdict := Value.dict.inj (result_inj (except_pure_ok.1 hout)).2
    obtain ⟨hm, hrest⟩ := List.cons.inj hdict
    obtain ⟨hc, -⟩ := List.cons.inj hrest
    have hmat := congrArg List.length (Value.list.inj (Prod.mk.inj hm).2)
    have hcols := congrArg List.length (Value.list.inj (Prod.mk.inj hc).2)
    rw [List.length_map, List.length_map, List.length_map] at hmat
    rw [List.length_map, List.length_map] at hcols
    have hrlen := hrows.length_eq
    have hperm := (sortBy_perm hrv).length_eq
    have hperm' := (sortBy_perm hcv).length_eq
    refine ⟨separable_of_sorted he (rowKeys_isKey hg) hrv (mem_distinct_of_length hlr (by omega)),
      separable_of_sorted he (colKeys_isKey hg) hcv (mem_distinct_of_length hlc (by omega))⟩
  · rintro ⟨hr, hc⟩
    obtain ⟨colVals, hcv, hlc⟩ := sorted_of_separable he (colKeys_isKey hg) hc
    obtain ⟨rowVals, hrv, hlr⟩ := sorted_of_separable he (rowKeys_isKey hg) hr
    refine ⟨crossTabText rows cols cells model rowVals colVals, rowVals, colVals,
      rowVals.map (matrixRow py rows cols cells raw colVals), ?_, hlr, hlc, ?_, ?_⟩
    · rw [hcv, ok_bind, hrv, ok_bind]
      rfl
    · rw [List.forall₂_map_right_iff]
      exact List.forall₂_same.2 fun rv hmem => matrixRow_isRow hr hc hg hne hn hlc ((hlr.2 rv).1 hmem)
    · intro g hmem
      refine ⟨(tupleOf rows g, tupleOf cols g), ⟨(hlr.2 _).2 (List.mem_map.2 ⟨g, hmem, rfl⟩),
        (hlc.2 _).2 (List.mem_map.2 ⟨g, hmem, rfl⟩), rfl, rfl⟩, ?_⟩
      rintro ⟨rv, cv⟩ ⟨-, -, hrv', hcv'⟩
      exact Prod.ext hrv'.symm hcv'.symm

end Table

/-! ### The leads of a sales team -/

/-- `repr` of a plain scalar. -/
def scalarRepr : Value → String
  | .bool b => if b then "True" else "False"
  | .int n => toString n
  | .str s => "'" ++ s ++ "'"
  | .float t => t
  | _ => "..."

/-- `repr` of a tuple of plain keys. -/
def tupleRepr (keys : List Value) : String :=
  let texts := keys.map fun v =>
    match v with
    | .list xs => "(" ++ join ", " (xs.map scalarRepr) ++ ")"
    | v => scalarRepr v
  match texts with
  | [text] => "(" ++ text ++ ",)"
  | texts => "(" ++ join ", " texts ++ ")"

/-- Equality of keys; `sameText` of anything else. -/
def plainEq (v w : Value) : Bool := if isKey v && isKey w then keyEq (fun _ => ⊥) v w else sameText v w

lemma scalarEq_str (fl : String → Number) (s : String) (v : Value) : scalarEq fl (.str s) v = true ↔ v = .str s := by
  by_cases hv : ∃ t, v = .str t
  · obtain ⟨t, rfl⟩ := hv
    have hst : s = t ↔ t = s := eq_comm
    simpa [scalarEq] using hst
  · rw [scalarEq_mixed (Or.inl rfl) fun _ t _ ht => hv ⟨t, ht⟩]
    simp only [Bool.false_eq_true, false_iff]
    exact fun hs => hv ⟨s, hs⟩

lemma plainEq_refl (v : Value) : plainEq v v = true := by
  unfold plainEq
  split_ifs with h
  · have hk : isKey v = true := by simpa using h
    have hiff : keyEq (fun _ => ⊥) v v = true ↔ keyCode (fun _ => ⊥) 1 v = keyCode (fun _ => ⊥) 1 v :=
      keyEq_iff (by decide) v v hk hk
    exact hiff.2 rfl
  · exact plainBuiltins.eq_refl v

lemma plainEq_str (s : String) (v : Value) : plainEq (.str s) v = true ↔ v = .str s := by
  unfold plainEq
  split_ifs
  · rw [keyEq_scalar (Or.inl rfl)]
    exact scalarEq_str _ s v
  · exact plainBuiltins.eq_str s v

/-- Built-in functions that do for plain keys. -/
def keyBuiltins : Builtins :=
  { plainBuiltins with
    eq := plainEq
    eq_refl := plainEq_refl
    eq_str := plainEq_str
    repr := fun v => tupleRepr v.items }

lemma keyBuiltins_eq : EqDocs (fun _ => ⊥) keyBuiltins := by
  intro v w hv hw
  show plainEq v w = _
  unfold plainEq
  rw [hv, hw]
  rfl

/-- New and won leads of one salesperson. -/
def leads : List Dict :=
  [[("stage_id", .list [.int 1, .str "New"]), ("user_id", .list [.int 2, .str "Marc"]), ("__count", .int 3)],
    [("stage_id", .list [.int 4, .str "Won"]), ("user_id", .list [.int 2, .str "Marc"]), ("__count", .int 1)]]

lemma leads_groups : Groups ["stage_id"] ["user_id"] leads where
  keyed := by
    intro g hg k hk
    simp only [leads, List.mem_cons, List.not_mem_nil, or_false, List.cons_append, List.nil_append] at hg hk
    rcases hg with rfl | rfl <;> rcases hk with rfl | rfl <;> exact ⟨_, rfl, rfl⟩
  distinct := by
    show [[Value.list [.int 1, .str "New"], .list [.int 2, .str "Marc"]],
      [.list [.int 4, .str "Won"], .list [.int 2, .str "Marc"]]].Nodup
    simp

/-- The leads in a matrix. -/
theorem tabulates_iff_leads : Tabulates keyBuiltins ["stage_id"] ["user_id"] ["__count"] leads "crm.lead"
    (crossTab keyBuiltins ⟨fun _ _ _ _ _ _ => .ok leads, sortedTuples (fun _ => ⊥) keyBuiltins⟩ "crm.lead"
      (.list [.str "stage_id"]) [.str "user_id"] [.str "__count"] []) := by
  refine (tabulates_iff (fun _ => ⊥) keyBuiltins (fun _ _ _ _ _ _ => .ok leads) "crm.lead" ["stage_id"]
    ["user_id"] ["__count"] [] leads keyBuiltins_eq ⟨?_, ?_⟩ leads_groups (by simp) rfl).2 ⟨?_, ?_⟩
  · intro g hg g' hg' _
    simp only [leads, List.mem_cons, List.not_mem_nil, or_false] at hg hg'
    rcases hg with rfl | rfl <;> rcases hg' with rfl | rfl <;> rfl
  · intro g hg
    simp only [leads, List.mem_cons, List.not_mem_nil, or_false] at hg
    rcases hg with rfl | rfl <;> decide
  · intro a ha b hb hne
    simp only [leads, List.map_cons, List.map_nil, List.mem_cons, List.not_mem_nil, or_false] at ha hb
    rcases ha with rfl | rfl <;> rcases hb with rfl | rfl
    · exact absurd rfl hne
    · exact ⟨by decide, _, rfl⟩
    · exact ⟨by decide, _, rfl⟩
    · exact absurd rfl hne
  · intro a ha b hb hne
    simp only [leads, List.map_cons, List.map_nil, List.mem_cons, List.not_mem_nil, or_false] at ha hb
    rcases ha with rfl | rfl <;> rcases hb with rfl | rfl <;> exact absurd rfl hne

/-- Leads without a stage beside new ones. -/
def unstaged : List Dict :=
  [[("stage_id", .bool false), ("user_id", .list [.int 2, .str "Marc"]), ("__count", .int 5)],
    [("stage_id", .list [.int 1, .str "New"]), ("user_id", .list [.int 2, .str "Marc"]), ("__count", .int 3)]]

/-- A sequence of 0 beside none. -/
def unnumbered : List Dict :=
  [[("sequence", .bool false), ("user_id", .list [.int 2, .str "Marc"]), ("__count", .int 5)],
    [("sequence", .int 0), ("user_id", .list [.int 2, .str "Marc"]), ("__count", .int 3)]]

/-- Leads without a stage cannot be sorted; of 0 and none only one is in the matrix. -/
theorem leads_lost :
    crossTab keyBuiltins ⟨fun _ _ _ _ _ _ => .ok unstaged, sortedTuples (fun _ => ⊥) keyBuiltins⟩ "crm.lead"
        (.list [.str "stage_id"]) [.str "user_id"] [.str "__count"] [] =
      .error (.of .typeError "'<' not supported between instances of 'tuple' and 'bool'") ∧
    ¬ Tabulates keyBuiltins ["stage_id"] ["user_id"] ["__count"] unstaged "crm.lead"
      (crossTab keyBuiltins ⟨fun _ _ _ _ _ _ => .ok unstaged, sortedTuples (fun _ => ⊥) keyBuiltins⟩ "crm.lead"
        (.list [.str "stage_id"]) [.str "user_id"] [.str "__count"] []) ∧
    ∃ text, crossTab keyBuiltins ⟨fun _ _ _ _ _ _ => .ok unnumbered, sortedTuples (fun _ => ⊥) keyBuiltins⟩
        "crm.lead" (.list [.str "sequence"]) [.str "user_id"] [.str "__count"] [] =
      .ok (result text (.dict [
        ("matrix", .list [.dict [("_row", .dict [("sequence", .bool false)]),
          ("((2, 'Marc'),)", .dict [("__count", .int 3)])]]),
        ("col_values", .list [.list [.list [.int 2, .str "Marc"]]]), ("model", .str "crm.lead")])) := by
  refine ⟨rfl, ?_, _, rfl⟩
  rintro ⟨text, rowVals, colVals, matrix, hout, -⟩
  cases hout

end AdvMcp.Read
