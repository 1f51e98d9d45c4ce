import Mathlib.Data.List.Basic

/-!
# Prefix notation with an implicit conjunction

A word is a sequence of formulas in prefix notation, joined by an "and" that is not written.

* `spellAll` — the word of a sequence of formulas; `WellFormed` — a word that is one;
* `parse` — the scan from right to left, over a stack of formulas: it inverts `spellAll`
  (`parse_iff`), so a word is of at most one sequence;
* `missing` — the operands that the operators of a word lack; a word is well formed exactly when
  there are none (`wellFormed_iff`), and an operand appended fills one (`missing_append_leaves`).
-/

namespace AdvMcp.Lib.Prefix

inductive Token (α : Type*) where
  | leaf (a : α)
  | not
  | and
  | or

inductive Formula (α : Type*) where
  | leaf (a : α)
  | not (e : Formula α)
  | and (e₁ e₂ : Formula α)
  | or (e₁ e₂ : Formula α)

variable {α ρ : Type*}

def Token.arity : Token α → ℕ
  | .leaf _ => 0
  | .not => 1
  | .and => 2
  | .or => 2

/-- What a formula says of a row, when its leaves say `holds`. -/
def Formula.Holds (holds : α → ρ → Prop) (r : ρ) : Formula α → Prop
  | .leaf a => holds a r
  | .not e => ¬ e.Holds holds r
  | .and e₁ e₂ => e₁.Holds holds r ∧ e₂.Holds holds r
  | .or e₁ e₂ => e₁.Holds holds r ∨ e₂.Holds holds r

def Formula.spell : Formula α → List (Token α)
  | .leaf a => [.leaf a]
  | .not e => .not :: e.spell
  | .and e₁ e₂ => .and :: (e₁.spell ++ e₂.spell)
  | .or e₁ e₂ => .or :: (e₁.spell ++ e₂.spell)

def spellAll (es : List (Formula α)) : List (Token α) := es.flatMap Formula.spell

/-- The word is a sequence of formulas. -/
def WellFormed (w : List (Token α)) : Prop := ∃ es, spellAll es = w

/-! ### The scan -/

/-- A token met by the scan takes its operands off the stack. -/
def push : Token α → List (Formula α) → Option (List (Formula α))
  | .leaf a, es => some (.leaf a :: es)
  | .not, e :: es => some (.not e :: es)
  | .and, e₁ :: e₂ :: es => some (.and e₁ e₂ :: es)
  | .or, e₁ :: e₂ :: es => some (.or e₁ e₂ :: es)
  | _, _ => none

/-- The scan from right to left. -/
def parse : List (Token α) → Option (List (Formula α))
  | [] => some []
  | t :: w => (parse w).bind (push t)

/-- A token that finds its operands makes one formula of them. -/
lemma push_some {t : Token α} {es es' : List (Formula α)} (h : push t es = some es') :
    ∃ e fs, es' = e :: fs ∧ e.spell ++ spellAll fs = t :: spellAll es ∧
      fs.length + t.arity = es.length := by
  cases t with
  | leaf a =>
    obtain rfl := Option.some.inj h
    exact ⟨_, es, rfl, rfl, rfl⟩
  | not =>
    match es, h with
    | e :: es, h =>
      obtain rfl := Option.some.inj h
      exact ⟨_, es, rfl, rfl, rfl⟩
  | and =>
    match es, h with
    | e₁ :: e₂ :: es, h =>
      obtain rfl := Option.some.inj h
      refine ⟨_, es, rfl, ?_, rfl⟩
      simp [Formula.spell, spellAll]
  | or =>
    match es, h with
    | e₁ :: e₂ :: es, h =>
      obtain rfl := Option.some.inj h
      refine ⟨_, es, rfl, ?_, rfl⟩
      simp [Formula.spell, spellAll]

/-- A token finds its operands when there are enough of them. -/
lemma push_isSome {t : Token α} {es : List (Formula α)} (h : t.arity ≤ es.length) :
    ∃ es', push t es = some es' := by
  cases t with
  | leaf a => exact ⟨_, rfl⟩
  | not =>
    match es, h with
    | e :: es, _ => exact ⟨_, rfl⟩
  | and =>
    match es, h with
    | e₁ :: e₂ :: es, _ => exact ⟨_, rfl⟩
    | [_], h => simp [Token.arity] at h
  | or =>
    match es, h with
    | e₁ :: e₂ :: es, _ => exact ⟨_, rfl⟩
    | [_], h => simp [Token.arity] at h

/-- The scan puts a formula on the stack for its spelling. -/
lemma parse_spell (e : Formula α) : ∀ (w : List (Token α)),
    parse (e.spell ++ w) = (parse w).map (e :: ·) := by
  induction e with
  | leaf a =>
    intro w
    show (parse w).bind (push (.leaf a)) = _
    cases parse w <;> rfl
  | not e ih =>
    intro w
    show (parse (e.spell ++ w)).bind (push .not) = _
    rw [ih]
    cases parse w <;> rfl
  | and e₁ e₂ ih₁ ih₂ =>
    intro w
    show (parse (e₁.spell ++ e₂.spell ++ w)).bind (push .and) = _
    rw [List.append_assoc, ih₁, ih₂]
    cases parse w <;> rfl
  | or e₁ e₂ ih₁ ih₂ =>
    intro w
    show (parse (e₁.spell ++ e₂.spell ++ w)).bind (push .or) = _
    rw [List.append_assoc, ih₁, ih₂]
    cases parse w <;> rfl

/-- **The scan inverts the spelling.** -/
theorem parse_iff {w : List (Token α)} {es : List (Formula α)} :
    parse w = some es ↔ spellAll es = w := by
  constructor
  · induction w generalizing es with
    | nil =>
      intro h
      obtain rfl := Option.some.inj h
      rfl
    | cons t w ih =>
      intro h
      obtain ⟨fs, hfs, hp⟩ := Option.bind_eq_some_iff.1 h
      obtain ⟨e, fs', rfl, hs, -⟩ := push_some hp
      rw [← ih hfs, ← hs]
      rfl
  · rintro rfl
    induction es with
    | nil => rfl
    | cons e es ih =>
      show parse (e.spell ++ spellAll es) = _
      rw [parse_spell, ih]
      rfl

/-- A word is of at most one sequence of formulas. -/
theorem spellAll_injective {es es' : List (Formula α)} (h : spellAll es = spellAll es') : es = es' := by
  have h₁ := parse_iff.2 h
  have h₂ := parse_iff.2 (rfl : spellAll es' = spellAll es')
  rw [h₂] at h₁
  exact (Option.some.inj h₁).symm

/-! ### Missing operands -/

/-- A token met from the left, when `n` operands are awaited: it fills one, and awaits its own. -/
def await (n : ℕ) (t : Token α) : ℕ := n - 1 + t.arity

/-- The operands that the operators of the word lack. -/
def missing (w : List (Token α)) : ℕ := w.foldl await 0

/-- A word supplies all the operands that are awaited in front of it when the scan finds as many
formulas in it. -/
lemma foldl_await_eq_zero (w : List (Token α)) : ∀ n : ℕ,
    w.foldl await n = 0 ↔ ∃ es, parse w = some es ∧ n ≤ es.length := by
  induction w with
  | nil =>
    intro n
    constructor
    · intro h
      exact ⟨[], rfl, Nat.le_of_eq h⟩
    · rintro ⟨es, hes, hn⟩
      obtain rfl := Option.some.inj hes
      exact Nat.le_zero.1 hn
  | cons t w ih =>
    intro n
    rw [List.foldl_cons, ih]
    unfold await
    constructor
    · rintro ⟨es, hes, hn⟩
      have harity : t.arity ≤ es.length := by omega
      obtain ⟨es', hp⟩ := push_isSome harity
      obtain ⟨e, fs, rfl, -, hlen⟩ := push_some hp
      refine ⟨e :: fs, by rw [parse, hes]; exact hp, ?_⟩
      rw [List.length_cons]
      omega
    · rintro ⟨es', hes', hn⟩
      obtain ⟨es, hes, hp⟩ := Option.bind_eq_some_iff.1 hes'
      obtain ⟨e, fs, rfl, -, hlen⟩ := push_some hp
      rw [List.length_cons] at hn
      exact ⟨es, hes, by omega⟩

/-- **A word is well formed** exactly when no operand is missing. -/
theorem wellFormed_iff {w : List (Token α)} : WellFormed w ↔ missing w = 0 := by
  unfold missing
  rw [foldl_await_eq_zero]
  constructor
  · rintro ⟨es, hes⟩
    exact ⟨es, parse_iff.2 hes, Nat.zero_le _⟩
  · rintro ⟨es, hes, -⟩
    exact ⟨es, parse_iff.1 hes⟩

instance (w : List (Token α)) : Decidable (WellFormed w) := decidable_of_iff _ wellFormed_iff.symm

/-- Only the arities count. -/
lemma missing_congr {w w' : List (Token α)} (h : w.map Token.arity = w'.map Token.arity) :
    missing w = missing w' := by
  have harity : ∀ v : List (Token α), missing v = (v.map Token.arity).foldl (fun n k => n - 1 + k) 0 := by
    intro v
    rw [List.foldl_map]
    rfl
  rw [harity, harity, h]

lemma foldl_await_leaves (as : List α) : ∀ n : ℕ,
    (as.map Token.leaf).foldl await n = n - as.length := by
  induction as with
  | nil => intro n; rfl
  | cons a as ih =>
    intro n
    have hawait : await n (Token.leaf a) = n - 1 := rfl
    rw [List.map_cons, List.foldl_cons, ih, List.length_cons, hawait]
    omega

/-- **An operand appended fills a missing one.** -/
theorem missing_append_leaves (w : List (Token α)) (as : List α) :
    missing (w ++ as.map .leaf) = missing w - as.length := by
  unfold missing
  rw [List.foldl_append, foldl_await_leaves]

lemma spellAll_append (es fs : List (Formula α)) : spellAll (es ++ fs) = spellAll es ++ spellAll fs :=
  List.flatMap_append

lemma spellAll_leaves (as : List α) : spellAll (as.map Formula.leaf) = as.map Token.leaf := by
  induction as with
  | nil => rfl
  | cons a as ih =>
    show Formula.spell (.leaf a) ++ spellAll (as.map Formula.leaf) = _
    rw [ih]
    rfl

end AdvMcp.Lib.Prefix
