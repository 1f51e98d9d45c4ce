import AdvMcp.Lib.Closure
import AdvMcp.OAuth.Rows

/-!
# The algebra of scope strings

Four functions read a scope string: `normalize_scope`, `expand_scopes`, `grants_write` and
`read_only_scope`.  They agree because all of them read it through its words: normalising replaces
the words by their aliases, and expanding is the closure of that set of words under what a scope
brings with it (`expandScopes_eq_closureOf`).  The closure gives the laws of the expansion, and the
two tests are tests on the closure.

* `split_append_seps`, `join_words_append` — strings put one after the other, as lists of words;
* `Brings`, `expandScopes_eq_closureOf` — the expansion as a closure;
* `grantsWrite_iff`, `readOnlyScope_iff` — the tests on it.
-/

namespace AdvMcp.OAuth

open AdvMcp.Lib AdvMcp.Py

/-! ### Scope strings as lists of words -/

/-- Two scope strings put one after the other: a space between them, none next to an empty one. -/
def concatScopes (a b : String) : String := join " " ([a, b].filter (· ≠ ""))

lemma concatScopes_empty_left (b : String) : concatScopes "" b = b := by
  by_cases hb : b = "" <;> simp [concatScopes, join, hb]

lemma concatScopes_empty_right (a : String) : concatScopes a "" = a := by
  by_cases ha : a = "" <;> simp [concatScopes, join, ha]

/-- White space splits the words of the two sides. -/
lemma split_append_seps (a b : String) {sep : String} (hs : ∀ c ∈ sep.toList, isSpace c = true)
    (h0 : sep ≠ "") : split (a ++ sep ++ b) = split a ++ split b := by
  unfold split
  rw [String.toList_append, String.toList_append, words_append_seps _ _ hs, List.map_append]
  intro he
  exact h0 (by rw [← String.ofList_toList (s := sep), he])

lemma join_ne_empty {ws : List String} (hw : ∀ w ∈ ws, IsWord w) (h0 : ws ≠ []) :
    join " " ws ≠ "" := by
  intro he
  have hs : split (join " " ws) = ws := split_join rfl (by decide) hw
  rw [he, split_empty] at hs
  exact h0 hs.symm

/-- Joining the words of two strings is putting the joined strings one after the other. -/
lemma join_words_append {ws vs : List String} (hw : ∀ w ∈ ws, IsWord w) (hv : ∀ v ∈ vs, IsWord v) :
    join " " (ws ++ vs) = concatScopes (join " " ws) (join " " vs) := by
  have hnil : join " " [] = "" := by simp [join]
  by_cases hw0 : ws = []
  · subst hw0
    rw [hnil, concatScopes_empty_left, List.nil_append]
  · by_cases hv0 : vs = []
    · subst hv0
      rw [hnil, concatScopes_empty_right, List.append_nil]
    · have hwne := join_ne_empty hw hw0
      have hvne := join_ne_empty hv hv0
      simp only [join, concatScopes] at hwne hvne ⊢
      rw [String.intercalate_append_of_ne_nil hw0 hv0]
      simp [hwne, hvne, String.intercalate_cons_cons]

/-! ### Normal forms -/

lemma normalizeScope_eq (s : String) : normalizeScope s = join " " ((split s).map aliasOf) := by
  unfold normalizeScope
  split_ifs with h
  · subst h
    simp [split_empty, join]
  · rfl

lemma aliases_isWord (s : String) : ∀ w ∈ (split s).map aliasOf, IsWord w := by
  intro w hw
  obtain ⟨v, hv, rfl⟩ := List.mem_map.1 hw
  exact isWord_aliasOf (isWord_of_mem_split hv)

/-- No canonical name is an alias. -/
lemma aliasOf_canonical : ∀ t ∈ advScopes, aliasOf t = t := by decide

lemma aliasOf_aliasOf (s : String) : aliasOf (aliasOf s) = aliasOf s := by
  rcases aliasOf_cases s with h | h
  · exact aliasOf_canonical _ h
  · rw [h, h]

theorem normalizeScope_idem (s : String) : normalizeScope (normalizeScope s) = normalizeScope s := by
  rw [normalizeScope_eq (normalizeScope s), show split (normalizeScope s) = scopeSet s from rfl,
    scopeSet_eq, List.map_map, normalizeScope_eq]
  congr 1
  exact List.map_congr_left fun w _ => aliasOf_aliasOf w

/-- Normalising commutes with putting strings one after the other. -/
theorem normalizeScope_append (a b : String) {sep : String}
    (hs : ∀ c ∈ sep.toList, isSpace c = true) (h0 : sep ≠ "") :
    normalizeScope (a ++ sep ++ b) = concatScopes (normalizeScope a) (normalizeScope b) := by
  rw [normalizeScope_eq, split_append_seps a b hs h0, List.map_append,
    join_words_append (aliases_isWord a) (aliases_isWord b), ← normalizeScope_eq, ← normalizeScope_eq]

theorem normalizeScope_concat (a b : String) :
    normalizeScope (concatScopes a b) = concatScopes (normalizeScope a) (normalizeScope b) := by
  have hempty : normalizeScope "" = "" := rfl
  by_cases ha : a = ""
  · subst ha
    rw [hempty, concatScopes_empty_left, concatScopes_empty_left]
  · by_cases hb : b = ""
    · subst hb
      rw [hempty, concatScopes_empty_right, concatScopes_empty_right]
    · have hab : concatScopes a b = a ++ " " ++ b := by
        simp [concatScopes, join, ha, hb, String.intercalate_cons_cons]
      rw [hab]
      exact normalizeScope_append a b (by decide) (by decide)

/-! ### The expansion is a closure -/

/-- What a scope brings with it: the two unions of `expand_scopes`. -/
inductive Brings : String → String → Prop
  | read : Brings "adv" "adv:read"
  | write : Brings "adv" "adv:write"
  | readOfWrite : Brings "adv:write" "adv:read"

/-- `adv:read` brings nothing. -/
lemma not_brings_of_read (y : String) : ¬ Brings "adv:read" y := by
  intro h
  generalize hx : "adv:read" = x at h
  cases h with
  | read => exact absurd hx (by decide)
  | write => exact absurd hx (by decide)
  | readOfWrite => exact absurd hx (by decide)

lemma closedUnder_singleton_read : ClosedUnder Brings {"adv:read"} := by
  rintro x y h rfl
  exact absurd h (not_brings_of_read y)

lemma mem_expandScopes {s w : String} : w ∈ expandScopes s ↔
    w ∈ scopeSet s ∨ (w = "adv:read" ∧ ("adv" ∈ scopeSet s ∨ "adv:write" ∈ scopeSet s)) ∨
      (w = "adv:write" ∧ "adv" ∈ scopeSet s) := by
  unfold expandScopes
  simp only
  by_cases h : "adv" ∈ scopeSet s
  · rw [if_pos h, if_pos (by simp)]
    simp [h, or_comm]
  · rw [if_neg h]
    by_cases hw : "adv:write" ∈ scopeSet s
    · rw [if_pos hw]
      simp [h, hw]
    · rw [if_neg hw]
      simp [h, hw]

lemma adv_mem_expandScopes {s : String} : "adv" ∈ expandScopes s ↔ "adv" ∈ scopeSet s := by
  simp [mem_expandScopes]

lemma write_mem_expandScopes {s : String} :
    "adv:write" ∈ expandScopes s ↔ "adv" ∈ scopeSet s ∨ "adv:write" ∈ scopeSet s := by
  simp [mem_expandScopes, or_comm]

lemma read_mem_expandScopes {s : String} : "adv:read" ∈ expandScopes s ↔
    "adv:read" ∈ scopeSet s ∨ "adv" ∈ scopeSet s ∨ "adv:write" ∈ scopeSet s := by
  simp [mem_expandScopes]

/-- **Expanding is closing**: `expand_scopes` computes the closure of the words under `Brings`. -/
theorem expandScopes_eq_closureOf (s : String) :
    {w | w ∈ expandScopes s} = closureOf Brings {w | w ∈ scopeSet s} := by
  refine (closureOf_eq ?_ ?_ ?_).symm
  · intro w hw
    rw [Set.mem_ofPred_eq] at hw ⊢
    exact mem_expandScopes.2 (Or.inl hw)
  · intro x y hxy hx
    rw [Set.mem_ofPred_eq] at hx ⊢
    cases hxy with
    | read => exact read_mem_expandScopes.2 (Or.inr (Or.inl (adv_mem_expandScopes.1 hx)))
    | write => exact write_mem_expandScopes.2 (Or.inl (adv_mem_expandScopes.1 hx))
    | readOfWrite => exact read_mem_expandScopes.2 (Or.inr (write_mem_expandScopes.1 hx))
  · intro u hu hfu w hw
    rw [Set.mem_ofPred_eq] at hw
    rcases mem_expandScopes.1 hw with hw | ⟨rfl, h | h⟩ | ⟨rfl, h⟩
    · exact hu hw
    · exact hfu .read (hu h)
    · exact hfu .readOfWrite (hu h)
    · exact hfu .write (hu h)

lemma mem_expandScopes_iff_closureOf {s w : String} :
    w ∈ expandScopes s ↔ w ∈ closureOf Brings {v | v ∈ scopeSet s} := by
  rw [← expandScopes_eq_closureOf]
  exact Iff.rfl

/-- Every word of an expansion is a word, and its own alias. -/
lemma canonical_of_mem_expandScopes {s w : String} (h : w ∈ expandScopes s) : IsWord w ∧ aliasOf w = w := by
  have hadv : ∀ t ∈ advScopes, IsWord t ∧ aliasOf t = t := fun t ht =>
    ⟨advScopes_isWord t ht, aliasOf_canonical t ht⟩
  rcases mem_expandScopes.1 h with hw | ⟨rfl, -⟩ | ⟨rfl, -⟩
  · rw [scopeSet_eq] at hw
    refine ⟨aliases_isWord s w hw, ?_⟩
    obtain ⟨v, -, rfl⟩ := List.mem_map.1 hw
    exact aliasOf_aliasOf v
  · exact hadv _ (by decide)
  · exact hadv _ (by decide)

/-- The words of an expansion, joined in any order, are the scopes of the joined string. -/
lemma scopeSet_join {s : String} {l : List String} (hl : ∀ w ∈ l, w ∈ expandScopes s) :
    scopeSet (join " " l) = l := by
  have hsplit : split (join " " l) = l :=
    split_join rfl (by decide) fun w hw => (canonical_of_mem_expandScopes (hl w hw)).1
  rw [scopeSet_eq, hsplit]
  conv_rhs => rw [← List.map_id l]
  exact List.map_congr_left fun w hw => (canonical_of_mem_expandScopes (hl w hw)).2

/-- Expanding the joined expansion gives the same set. -/
theorem expandScopes_join {s : String} {l : List String} (hl : ∀ w, w ∈ l ↔ w ∈ expandScopes s)
    (w : String) :
    w ∈ expandScopes (join " " l) ↔ w ∈ expandScopes s := by
  have hset : {v | v ∈ scopeSet (join " " l)} = closureOf Brings {v | v ∈ scopeSet s} := by
    rw [scopeSet_join fun v hv => (hl v).1 hv, ← expandScopes_eq_closureOf]
    exact Set.ext hl
  rw [mem_expandScopes_iff_closureOf, hset, ClosureOperator.idempotent, ← mem_expandScopes_iff_closureOf]

/-- The expansion is monotone. -/
theorem expandScopes_subset {a b : String} (h : ∀ w ∈ scopeSet a, w ∈ expandScopes b) :
    ∀ w ∈ expandScopes a, w ∈ expandScopes b := by
  intro w hw
  rw [mem_expandScopes_iff_closureOf] at hw ⊢
  refine closureOf_subset (fun v hv => ?_) (closedUnder_closureOf _ _) hw
  exact mem_expandScopes_iff_closureOf.1 (h v hv)

/-! ### The two tests -/

/-- The write test asks the closure for `adv:write`. -/
theorem grantsWrite_iff (s : String) : grantsWrite s = true ↔ "adv:write" ∈ expandScopes s := by
  rw [write_mem_expandScopes]
  simp [grantsWrite, advWriteScopes]

/-- The read-only test asks whether the closure is `adv:read` alone: what is there besides would stay
there, and what brings `adv:read` is not `adv:read`. -/
theorem readOnlyScope_iff (s : String) :
    readOnlyScope s = true ↔ ∀ w, w ∈ expandScopes s ↔ w = "adv:read" := by
  have hro : readOnlyScope s = true ↔
      "adv:read" ∈ scopeSet s ∧ ∀ w ∈ scopeSet s, w = "adv:read" := by
    simp [readOnlyScope]
  rw [hro]
  constructor
  · rintro ⟨hread, hall⟩ w
    constructor
    · intro hw
      exact closureOf_subset hall closedUnder_singleton_read (mem_expandScopes_iff_closureOf.1 hw)
    · rintro rfl
      exact mem_expandScopes.2 (Or.inl hread)
  · intro hex
    have hall : ∀ w ∈ scopeSet s, w = "adv:read" := fun w hw => (hex w).1 (mem_expandScopes.2 (Or.inl hw))
    refine ⟨?_, hall⟩
    by_contra hread
    obtain ⟨x, hx, hxr⟩ := exists_rule (mem_expandScopes_iff_closureOf.1 ((hex _).2 rfl)) hread
    have hxr' : x = "adv:read" := (hex x).1 (mem_expandScopes_iff_closureOf.2 hx)
    subst hxr'
    exact not_brings_of_read _ hxr

/-- **The laws of scope strings**: normalising is idempotent and goes through the concatenation of
scope strings, with whatever white space between them; the expansion is a closure operator; and the
two tests are tests on the expansion. -/
theorem scope_string_laws :
    (∀ s, normalizeScope (normalizeScope s) = normalizeScope s) ∧
    (∀ a b, normalizeScope (concatScopes a b) = concatScopes (normalizeScope a) (normalizeScope b)) ∧
    (∀ a sep b, (∀ c ∈ sep.toList, isSpace c = true) → sep ≠ "" →
      normalizeScope (a ++ sep ++ b) = concatScopes (normalizeScope a) (normalizeScope b)) ∧
    (∀ s, ∀ w ∈ scopeSet s, w ∈ expandScopes s) ∧
    (∀ a b, (∀ w ∈ scopeSet a, w ∈ scopeSet b) → ∀ w ∈ expandScopes a, w ∈ expandScopes b) ∧
    (∀ s l, (∀ w, w ∈ l ↔ w ∈ expandScopes s) →
      ∀ w, w ∈ expandScopes (join " " l) ↔ w ∈ expandScopes s) ∧
    (∀ s, grantsWrite s = true ↔ "adv:write" ∈ expandScopes s) ∧
    (∀ s, readOnlyScope s = true ↔ ∀ w, w ∈ expandScopes s ↔ w = "adv:read") := by
  have hsub : ∀ s, ∀ w ∈ scopeSet s, w ∈ expandScopes s := fun s w hw =>
    mem_expandScopes.2 (Or.inl hw)
  refine ⟨normalizeScope_idem, normalizeScope_concat, ?_, hsub, ?_, ?_, grantsWrite_iff, readOnlyScope_iff⟩
  · exact fun a _ b hs h0 => normalizeScope_append a b hs h0
  · exact fun a b h => expandScopes_subset fun w hw => hsub b w (h w hw)
  · exact fun _ _ hl => expandScopes_join hl

/-- Concatenated as plain strings the last word of the one and the first of the other are one word,
and an empty string has no space of its own. -/
theorem plain_concatenation_merges_words :
    normalizeScope ("am" ++ "cp") ≠ normalizeScope "am" ++ normalizeScope "cp" ∧
    normalizeScope ("" ++ " " ++ "adv") ≠ normalizeScope "" ++ " " ++ normalizeScope "adv" := by
  decide

end AdvMcp.OAuth
