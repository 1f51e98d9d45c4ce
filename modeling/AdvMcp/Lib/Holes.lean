import Mathlib.Data.List.Basic

/-!
# Holes in a text

A text over any alphabet has holes in it: `T b t` says that `t` spells the hole `b`.

* `Cut T l ps` — `ps` is `l` cut at its holes, from the left: a hole wherever one begins, and an element
  where none does;
* `Finder T` — a function that finds the hole at the head of a list;
* `pieces` — the cut that a finder makes, in one pass; `cut_iff` — there is no other;
* `Clear T l r` — no hole begins in `l`, when `r` follows; `cut_clear` — such a part stays text;
* `fillWith` — the text with one word in all its holes; `eq_of_fillWith` — what it says of the pieces.
-/

namespace AdvMcp.Lib

variable {α β : Type*}

inductive Piece (α β : Type*) where
  | text (a : α)
  | hole (b : β)

inductive Cut (T : β → List α → Prop) : List α → List (Piece α β) → Prop
  | nil : Cut T [] []
  | text {a : α} {l : List α} {ps : List (Piece α β)} :
    (∀ b t r, T b t → a :: l ≠ t ++ r) → Cut T l ps → Cut T (a :: l) (.text a :: ps)
  | hole {b : β} {t l : List α} {ps : List (Piece α β)} :
    T b t → Cut T l ps → Cut T (t ++ l) (.hole b :: ps)

/-- Finds the hole that begins a list, and the length of its spelling. -/
structure Finder (T : β → List α → Prop) where
  find : List α → Option (β × ℕ)
  find_iff : ∀ l b n, find l = some (b, n) ↔ ∃ t r, l = t ++ r ∧ T b t ∧ t.length = n
  spelled : ∀ b t, T b t → t ≠ []

/-- The cut of a list of which the first `k` elements belong to the last hole. -/
def pieces (find : List α → Option (β × ℕ)) : ℕ → List α → List (Piece α β)
  | _, [] => []
  | k + 1, _ :: l => pieces find k l
  | 0, a :: l =>
    match find (a :: l) with
    | some (b, n) => .hole b :: pieces find (n - 1) l
    | none => .text a :: pieces find 0 l

lemma pieces_drop (find : List α → Option (β × ℕ)) (k : ℕ) (l : List α) :
    pieces find k l = pieces find 0 (l.drop k) := by
  induction l generalizing k with
  | nil => cases k <;> rfl
  | cons a l ih =>
    cases k with
    | zero => rfl
    | succ k => exact ih k

section Finder

variable {T : β → List α → Prop} (F : Finder T)
include F

/-- A hole at the head. -/
lemma pieces_hole {b : β} {t : List α} (h : T b t) (l : List α) :
    pieces F.find 0 (t ++ l) = .hole b :: pieces F.find 0 l := by
  obtain ⟨a, t', rfl⟩ := List.exists_cons_of_ne_nil (F.spelled b t h)
  have hf : F.find (a :: (t' ++ l)) = some (b, t'.length + 1) :=
    (F.find_iff _ _ _).2 ⟨a :: t', l, rfl, h, rfl⟩
  have hd : (t' ++ l).drop (t'.length + 1 - 1) = l := by simp
  rw [List.cons_append, pieces.eq_def]
  simp only [hf]
  rw [pieces_drop, hd]

/-- No hole at the head. -/
lemma pieces_text {a : α} {l : List α} (h : ∀ b t r, T b t → a :: l ≠ t ++ r) :
    pieces F.find 0 (a :: l) = .text a :: pieces F.find 0 l := by
  have hf : F.find (a :: l) = none := by
    cases he : F.find (a :: l) with
    | none => rfl
    | some p =>
      obtain ⟨t, r, hl, ht, -⟩ := (F.find_iff _ p.1 p.2).1 he
      exact absurd hl (h p.1 t r ht)
  rw [pieces.eq_def]
  simp only [hf]

/-- **The cut that a finder makes is the only one.** -/
theorem cut_iff {l : List α} {ps : List (Piece α β)} : Cut T l ps ↔ ps = pieces F.find 0 l := by
  constructor
  · intro h
    induction h with
    | nil => rfl
    | text hn _ ih => rw [pieces_text F hn, ih]
    | hole ht _ ih => rw [pieces_hole F ht, ih]
  · rintro rfl
    induction hk : l.length using Nat.strongRecOn generalizing l with
    | ind k ih =>
      cases l with
      | nil => exact .nil
      | cons a l =>
        by_cases h : ∃ b t r, T b t ∧ a :: l = t ++ r
        · obtain ⟨b, t, r, ht, he⟩ := h
          rw [he, pieces_hole F ht]
          have hpos : 0 < t.length := List.length_pos_iff.2 (F.spelled b t ht)
          have hlen := congrArg List.length he
          rw [List.length_append] at hlen
          exact .hole ht (ih r.length (by omega) rfl)
        · have hn : ∀ b t r, T b t → a :: l ≠ t ++ r := fun b t r ht he => h ⟨b, t, r, ht, he⟩
          rw [pieces_text F hn]
          have hlen : l.length < k := by rw [← hk]; exact Nat.lt_succ_self _
          exact .text hn (ih l.length hlen rfl)

end Finder

/-! ### Text without holes -/

/-- No hole begins in `l`, when `r` follows. -/
def Clear (T : β → List α → Prop) (l r : List α) : Prop :=
  ∀ u, u ≠ [] → u <:+ l → ∀ b t v, T b t → u ++ r ≠ t ++ v

section Clear

variable {T : β → List α → Prop} {l r : List α} {ps : List (Piece α β)}

lemma clear_cons {a : α} : Clear T (a :: l) r ↔ (∀ b t v, T b t → a :: (l ++ r) ≠ t ++ v) ∧ Clear T l r := by
  constructor
  · intro h
    exact ⟨h (a :: l) (List.cons_ne_nil _ _) (List.suffix_refl _),
      fun u hu hs => h u hu (hs.trans (List.suffix_cons a l))⟩
  · rintro ⟨ha, hl⟩ u hu hs
    rcases List.suffix_cons_iff.1 hs with rfl | hs
    · exact ha
    · exact hl u hu hs

/-- **A part in which no hole begins** stays text in the cut. -/
theorem cut_clear : Cut T (l ++ r) (l.map .text ++ ps) ↔ Clear T l r ∧ Cut T r ps := by
  induction l with
  | nil =>
    have hnil : Clear T [] r := by
      intro u hu hs
      exact absurd (List.suffix_nil.1 hs) hu
    simp [hnil]
  | cons a l ih =>
    rw [clear_cons, List.cons_append, List.map_cons, List.cons_append]
    constructor
    · intro h
      have htext : (∀ b t v, T b t → a :: (l ++ r) ≠ t ++ v) ∧ Cut T (l ++ r) (l.map .text ++ ps) := by
        generalize he : a :: (l ++ r) = m at h
        cases h with
        | text hn hc =>
          obtain ⟨-, rfl⟩ := List.cons.inj he
          rw [← he] at hn
          exact ⟨hn, hc⟩
      obtain ⟨hclear, hc⟩ := ih.1 htext.2
      exact ⟨⟨htext.1, hclear⟩, hc⟩
    · rintro ⟨⟨ha, hl⟩, hc⟩
      exact .text ha (ih.2 ⟨hl, hc⟩)

/-- A cut without holes is the text itself. -/
lemma eq_of_cut_texts {us : List α} (h : Cut T l (us.map .text)) : l = us := by
  induction us generalizing l with
  | nil =>
    cases h with
    | nil => rfl
  | cons a us ih =>
    cases h with
    | text hn hc => rw [ih hc]

/-- The text with one word in all the holes. -/
def fillWith (w : List α) : List (Piece α β) → List α
  | [] => []
  | .text a :: ps => a :: fillWith w ps
  | .hole _ :: ps => w ++ fillWith w ps

/-- Where no word shows, there is no hole. -/
lemma eq_of_fillWith_const {x y : α} (hxy : x ≠ y) (h : ∀ w, fillWith w ps = l) : ps = l.map .text := by
  induction ps generalizing l with
  | nil =>
    rw [← h []]
    rfl
  | cons p ps ih =>
    cases p with
    | text a =>
      cases l with
      | nil => exact absurd (h []) (List.cons_ne_nil _ _)
      | cons b l =>
        have hcons : ∀ w, a = b ∧ fillWith w ps = l := fun w => List.cons.inj (h w)
        rw [ih fun w => (hcons w).2, (hcons []).1]
        rfl
    | hole b =>
      have hx := h [x]
      rw [← h [y]] at hx
      exact absurd (List.cons.inj hx).1 hxy

/-- **Where the word shows once**, there is one hole. -/
theorem eq_of_fillWith {x y : α} (hxy : x ≠ y) (h : ∀ w, fillWith w ps = l ++ (w ++ r)) :
    ∃ b, ps = l.map .text ++ .hole b :: r.map .text := by
  induction ps generalizing l with
  | nil =>
    have hx := congrArg List.length (h [x])
    simp [fillWith] at hx
  | cons p ps ih =>
    cases p with
    | text a =>
      cases l with
      | nil =>
        have hx := (List.cons.inj (h [x])).1
        have hy := (List.cons.inj (h [y])).1
        exact absurd (hx.symm.trans hy) hxy
      | cons b l =>
        have hcons : ∀ w, a = b ∧ fillWith w ps = l ++ (w ++ r) := fun w => List.cons.inj (h w)
        obtain ⟨b', hps⟩ := ih fun w => (hcons w).2
        rw [hps, (hcons []).1]
        exact ⟨b', rfl⟩
    | hole b =>
      cases l with
      | nil =>
        have hr : ∀ w, fillWith w ps = r := fun w => List.append_cancel_left (h w)
        rw [eq_of_fillWith_const hxy hr]
        exact ⟨b, rfl⟩
      | cons c l =>
        have hx := (List.cons.inj (h [x])).1
        have hy := (List.cons.inj (h [y])).1
        exact absurd (hx.trans hy.symm) hxy

end Clear

end AdvMcp.Lib
