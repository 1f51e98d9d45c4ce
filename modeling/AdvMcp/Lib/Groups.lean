import Mathlib.Data.List.Forall2
import AdvMcp.Lib.Regex

/-!
# What a group captures

`re.match` of an expression with one group that is read back, `r(g)e`.

* `group` — the text of the group in the match that backtracking finds first;
* `first_letters` — an expression that begins with single characters;
* `Longest` — a run of characters that is the longest one behind which something is found; `first_star` and
  `first_plus` say that a repetition of characters ends with that run.
-/

namespace AdvMcp.Lib.Regex

/-- What the group captures in the first match of `r(g)e` at the start of a text. -/
def group (r g e : Regex) (t : List Char) : Option (List Char) :=
  ((run r (none, t)).flatMap fun m => (run g m).flatMap fun m' =>
    (run e m').map fun _ => m.2.take (m.2.length - m'.2.length)).head?

variable {β : Type} {p : Char → Bool} {f : Place → List β} {prev : Option Char} {t : List Char} {b : β}

/-! ### Single characters -/

lemma seqs_cons (r : Regex) {rs : List Regex} (h : rs ≠ []) : seqs (r :: rs) = seq r (seqs rs) := by
  cases rs with
  | nil => exact absurd rfl h
  | cons s rs => rfl

lemma run_set_cons (c : Char) : run (set p) (prev, c :: t) = if p c then [(some c, t)] else [] := rfl

lemma run_seq_set_cons (r : Regex) (c : Char) :
    run (seq (set p) r) (prev, c :: t) = if p c then run r (some c, t) else [] := by
  show (run (set p) (prev, c :: t)).flatMap (run r) = _
  rw [run_set_cons]
  split_ifs
  · exact List.flatMap_singleton _ _
  · rfl

/-- What follows is found behind the characters of the classes. -/
lemma first_letters (ps : List (Char → Bool)) (r : Regex) :
    ((run (seqs (ps.map set ++ [r])) (prev, t)).flatMap f).head? = some b ↔
      ∃ w v, t = w ++ v ∧ List.Forall₂ (fun p c => p c = true) ps w ∧
        ((run r (w.getLast?.or prev, v)).flatMap f).head? = some b := by
  induction ps generalizing prev t with
  | nil =>
    constructor
    · exact fun h => ⟨[], t, rfl, .nil, h⟩
    · rintro ⟨w, v, rfl, hw, h⟩
      cases hw
      exact h
  | cons p ps ih =>
    rw [List.map_cons, List.cons_append, seqs_cons _ (by simp)]
    cases t with
    | nil =>
      constructor
      · intro h
        cases h
      · rintro ⟨w, v, hw, hall, -⟩
        cases hall with
        | cons _ _ => cases hw
    | cons c t =>
      rw [run_seq_set_cons]
      constructor
      · intro h
        split_ifs at h with hc
        · obtain ⟨w, v, rfl, hall, h⟩ := ih.1 h
          refine ⟨c :: w, v, rfl, .cons hc hall, ?_⟩
          rw [last_cons]
          exact h
        · cases h
      · rintro ⟨w, v, hw, hall, h⟩
        cases hall with
        | @cons _ d _ w hd hall =>
          obtain ⟨rfl, rfl⟩ := List.cons.inj hw
          rw [if_pos hd]
          rw [last_cons] at h
          exact ih.2 ⟨w, v, rfl, hall, h⟩

/-! ### Repetitions of characters -/

lemma run_star_set_nil : run (star (set p)) (prev, []) = [(prev, [])] := rfl

/-- One character more, if that is possible, and then none. -/
lemma run_star_set_cons (c : Char) : run (star (set p)) (prev, c :: t) =
    (if p c then run (star (set p)) (some c, t) else []) ++ [(prev, c :: t)] := by
  show starRun (run (set p)) (t.length + 1) (prev, c :: t) = _
  unfold starRun
  rw [run_set_cons]
  split_ifs
  · rw [List.filter_cons_of_pos (by simp), List.filter_nil, List.flatMap_singleton]
    rfl
  · rfl

/-- The places behind the runs of the class. -/
lemma flatMap_star_eq_nil : (run (star (set p)) (prev, t)).flatMap f = [] ↔
    ∀ u v, t = u ++ v → (∀ c ∈ u, p c = true) → f (u.getLast?.or prev, v) = [] := by
  induction t generalizing prev with
  | nil =>
    rw [run_star_set_nil, List.flatMap_singleton]
    constructor
    · intro h u v he _
      obtain ⟨rfl, rfl⟩ := List.append_eq_nil_iff.1 he.symm
      exact h
    · exact fun h => h [] [] rfl (by simp)
  | cons c t ih =>
    rw [run_star_set_cons, List.flatMap_append, List.append_eq_nil_iff, List.flatMap_singleton]
    constructor
    · rintro ⟨hrun, hhere⟩ u v he hu
      cases u with
      | nil =>
        obtain rfl : c :: t = v := he
        exact hhere
      | cons d u =>
        obtain ⟨rfl, rfl⟩ := List.cons.inj he
        rw [if_pos (hu c List.mem_cons_self)] at hrun
        rw [last_cons]
        exact ih.1 hrun u v rfl fun d hd => hu d (List.mem_cons_of_mem _ hd)
    · intro h
      refine ⟨?_, h [] (c :: t) rfl (by simp)⟩
      split_ifs with hc
      · refine ih.2 fun u v he hu => ?_
        rw [← last_cons]
        refine h (c :: u) v (by rw [he, List.cons_append]) fun d hd => ?_
        rcases List.mem_cons.1 hd with rfl | hd
        · exact hc
        · exact hu d hd
      · rfl

/-- Behind the run something is found, and behind no longer one. -/
structure Longest (p : Char → Bool) (f : Place → List β) (prev : Option Char) (u v : List Char) (b : β) :
    Prop where
  all : ∀ c ∈ u, p c = true
  found : (f (u.getLast?.or prev, v)).head? = some b
  longest : ∀ w v', v = w ++ v' → w ≠ [] → (∀ c ∈ w, p c = true) → f ((u ++ w).getLast?.or prev, v') = []

lemma Longest.cons {c : Char} {u v : List Char} (hc : p c = true) :
    Longest p f prev (c :: u) v b ↔ Longest p f (some c) u v b := by
  constructor
  · rintro ⟨hall, hfound, hlongest⟩
    refine ⟨fun d hd => hall d (List.mem_cons_of_mem _ hd), ?_, fun w v' he hne hw => ?_⟩
    · rw [← last_cons]
      exact hfound
    · rw [← last_cons]
      exact hlongest w v' he hne hw
  · rintro ⟨hall, hfound, hlongest⟩
    refine ⟨fun d hd => ?_, ?_, fun w v' he hne hw => ?_⟩
    · rcases List.mem_cons.1 hd with rfl | hd
      · exact hc
      · exact hall d hd
    · rw [last_cons]
      exact hfound
    · rw [List.cons_append, last_cons]
      exact hlongest w v' he hne hw

/-- **A repetition of characters** ends with the longest run behind which the rest finds something. -/
theorem first_star : ((run (star (set p)) (prev, t)).flatMap f).head? = some b ↔
    ∃ u v, t = u ++ v ∧ Longest p f prev u v b := by
  induction t generalizing prev with
  | nil =>
    rw [run_star_set_nil, List.flatMap_singleton]
    constructor
    · refine fun h => ⟨[], [], rfl, by simp, h, fun w v' he hne _ => ?_⟩
      exact absurd (List.append_eq_nil_iff.1 he.symm).1 hne
    · rintro ⟨u, v, he, h⟩
      obtain ⟨rfl, rfl⟩ := List.append_eq_nil_iff.1 he.symm
      exact h.found
  | cons c t ih =>
    rw [run_star_set_cons, List.flatMap_append, List.head?_append, List.flatMap_singleton, Option.or_eq_some_iff]
    constructor
    · rintro (h | ⟨hrun, h⟩)
      · split_ifs at h with hc
        · obtain ⟨u, v, rfl, hl⟩ := ih.1 h
          exact ⟨c :: u, v, rfl, (Longest.cons hc).2 hl⟩
        · cases h
      · refine ⟨[], c :: t, rfl, by simp, h, fun w v' he hne hw => ?_⟩
        cases w with
        | nil => exact absurd rfl hne
        | cons d w =>
          obtain ⟨rfl, rfl⟩ := List.cons.inj he
          rw [if_pos (hw c List.mem_cons_self), List.head?_eq_none_iff] at hrun
          rw [List.nil_append, last_cons]
          exact flatMap_star_eq_nil.1 hrun w v' rfl fun d hd => hw d (List.mem_cons_of_mem _ hd)
    · rintro ⟨u, v, he, hl⟩
      cases u with
      | nil =>
        obtain rfl : c :: t = v := he
        refine Or.inr ⟨?_, hl.found⟩
        split_ifs with hc
        · rw [List.head?_eq_none_iff]
          refine flatMap_star_eq_nil.2 fun u v' hu hall => ?_
          rw [← last_cons]
          refine hl.longest (c :: u) v' (by rw [hu, List.cons_append]) (by simp) fun d hd => ?_
          rcases List.mem_cons.1 hd with rfl | hd
          · exact hc
          · exact hall d hd
        · rfl
      | cons d u =>
        obtain ⟨rfl, rfl⟩ := List.cons.inj he
        have hc := hl.all c List.mem_cons_self
        rw [if_pos hc]
        exact Or.inl (ih.2 ⟨u, v, rfl, (Longest.cons hc).1 hl⟩)

/-- The same, for at least one character. -/
theorem first_plus : ((run (plus (set p)) (prev, t)).flatMap f).head? = some b ↔
    ∃ u v, t = u ++ v ∧ u ≠ [] ∧ Longest p f prev u v b := by
  unfold plus
  cases t with
  | nil =>
    constructor
    · intro h
      cases h
    · rintro ⟨u, v, he, hne, -⟩
      exact absurd (List.append_eq_nil_iff.1 he.symm).1 hne
  | cons c t =>
    rw [run_seq_set_cons]
    constructor
    · intro h
      split_ifs at h with hc
      · obtain ⟨u, v, rfl, hl⟩ := first_star.1 h
        exact ⟨c :: u, v, rfl, by simp, (Longest.cons hc).2 hl⟩
      · cases h
    · rintro ⟨u, v, he, hne, hl⟩
      cases u with
      | nil => exact absurd rfl hne
      | cons d u =>
        obtain ⟨rfl, rfl⟩ := List.cons.inj he
        have hc := hl.all c List.mem_cons_self
        rw [if_pos hc]
        exact first_star.2 ⟨u, v, rfl, (Longest.cons hc).1 hl⟩

end AdvMcp.Lib.Regex
