import Mathlib.Data.List.TakeWhile
import AdvMcp.Lib.Regex

/-!
# Texts that are substituted

What a substitution by a regular expression leaves of a text.

* `Pass`, `runPasses` — substitutions that make texts shorter, one after the other; a text that keeps its
  length has no match;
* `Mark` — characters that are followed by their places: what a pass removes does not come back;
* `Stood` — the matches of a text stood in an earlier one; what is left of a pattern did not;
* `Scan` — a substitution step by step;
* `atLeast` — runs of characters, which are gone behind their substitution.
-/

namespace AdvMcp.Lib

open Regex

/-! ### Several substitutions -/

/-- A substitution that makes texts shorter. -/
structure Pass where
  pattern : Regex
  rep : List Char
  shrinks : rep.length < pattern.minLen

/-- The substitutions, one after the other. -/
def runPasses {α : Type} (ch : α → Char) (new : Char → α) (ps : List Pass) (t : List α) : List α :=
  ps.foldl (fun t p => sub ch p.pattern (p.rep.map new) t) t

lemma runPasses_append {α : Type} (ch : α → Char) (new : Char → α) (ps qs : List Pass) (t : List α) :
    runPasses ch new (ps ++ qs) t = runPasses ch new qs (runPasses ch new ps t) := List.foldl_append

section Plain

variable {ps : List Pass} {p : Pass} {t : List Char}

lemma Pass.minLen_pos (p : Pass) : 0 < p.pattern.minLen := Nat.zero_lt_of_lt p.shrinks

lemma runPasses_cons (p : Pass) (ps : List Pass) (t : List Char) :
    runPasses id id (p :: ps) t = runPasses id id ps (sub id p.pattern p.rep t) := by
  show runPasses id id ps (sub id p.pattern (p.rep.map id) t) = _
  rw [List.map_id]

lemma length_runPasses (ps : List Pass) (t : List Char) : (runPasses id id ps t).length ≤ t.length := by
  induction ps generalizing t with
  | nil => exact Nat.le_refl _
  | cons p ps ih =>
    rw [runPasses_cons]
    exact Nat.le_trans (ih _) (length_sub p.shrinks t)

/-- Texts of the same length have no matches. -/
lemma not_hasMatch_of_length (h : t.length ≤ (runPasses id id ps t).length) :
    ∀ p ∈ ps, ¬ HasMatch p.pattern none t := by
  induction ps with
  | nil => simp
  | cons p ps ih =>
    have hp : ¬ HasMatch p.pattern none t := by
      intro hm
      have hlt := length_subFrom_lt p.shrinks hm
      have hle := length_runPasses ps (sub id p.pattern p.rep t)
      rw [runPasses_cons] at h
      unfold sub at h hle
      omega
    have hself : sub id p.pattern p.rep t = t := (sub_eq_self_iff p.shrinks).2 hp
    rw [runPasses_cons, hself] at h
    intro q hq
    rcases List.mem_cons.1 hq with rfl | hq
    · exact hp
    · exact ih h q hq

lemma runPasses_of_not_hasMatch (h : ∀ p ∈ ps, ¬ HasMatch p.pattern none t) : runPasses id id ps t = t := by
  induction ps with
  | nil => rfl
  | cons p ps ih =>
    have hself : sub id p.pattern p.rep t = t := (sub_eq_self_iff p.shrinks).2 (h p List.mem_cons_self)
    rw [runPasses_cons, hself]
    exact ih fun q hq => h q (List.mem_cons_of_mem _ hq)

end Plain

/-! ### Following the characters -/

/-- A character, with its place in the text that is followed; a new one has none. -/
abbrev Mark := Char × Option ℕ

def mark (t : List Char) : List Mark := t.zipIdx.map fun p => (p.1, some p.2)

def unmarked (c : Char) : Mark := (c, none)

section Marks

variable {ps : List Pass} {p : Pass}

lemma map_mark (t : List Char) : (mark t).map Prod.fst = t := by
  unfold mark
  rw [List.map_map]
  exact List.zipIdx_map_fst 0 t

lemma mark_nodup (t : List Char) : (mark t).Nodup := by
  unfold mark
  refine List.Nodup.map_on ?_ (List.Nodup.of_map Prod.snd ?_)
  · rintro ⟨c, i⟩ - ⟨d, j⟩ - h
    simpa using h
  · rw [List.zipIdx_map_snd]
    exact List.nodup_range' 1 (by decide)

lemma isSome_of_mem_mark {t : List Char} {a : Mark} (h : a ∈ mark t) : a.2.isSome = true := by
  obtain ⟨q, -, rfl⟩ := List.mem_map.1 h
  rfl

/-- The followed text is the text. -/
theorem map_runPasses (ps : List Pass) (t : List Mark) :
    (runPasses Prod.fst unmarked ps t).map Prod.fst = runPasses id id ps (t.map Prod.fst) := by
  induction ps generalizing t with
  | nil => rfl
  | cons p ps ih =>
    have hrep : (p.rep.map unmarked).map Prod.fst = p.rep.map id := by rw [List.map_map]; rfl
    show (runPasses Prod.fst unmarked ps (sub Prod.fst p.pattern (p.rep.map unmarked) t)).map Prod.fst = _
    rw [ih]
    unfold sub
    rw [map_subFrom, hrep]
    rfl

/-- Only characters of the text are marked. -/
lemma mem_runPasses {t : List Mark} {a : Mark} (ha : a.2.isSome = true)
    (h : a ∈ runPasses Prod.fst unmarked ps t) : a ∈ t := by
  induction ps generalizing t with
  | nil => exact h
  | cons p ps ih =>
    rcases mem_subFrom (ih h) with hrep | hmem
    · obtain ⟨c, -, rfl⟩ := List.mem_map.1 hrep
      cases ha
    · exact hmem

/-- **What is removed does not come back**: the first character of a match of the first pattern is in no later
text. -/
theorem runPasses_removes {u v w : List Mark} {a : Mark} (hnd : (u ++ a :: w ++ v).Nodup) (ha : a.2.isSome = true)
    (hm : Matches p.pattern (u.map Prod.fst).getLast? ((a :: w).map Prod.fst) (v.map Prod.fst).head?) :
    a ∉ runPasses Prod.fst unmarked (p :: ps) (u ++ a :: w ++ v) := by
  intro h
  have hin : a ∈ sub Prod.fst p.pattern (p.rep.map unmarked) (u ++ a :: w ++ v) := mem_runPasses ha h
  refine subFrom_removes p.minLen_pos hnd ?_ ?_ hin
  · intro hrep
    obtain ⟨c, -, rfl⟩ := List.mem_map.1 hrep
    cases ha
  · rw [Option.or_none]
    exact hm

/-- A match that stood in the text is not left behind its substitution. -/
lemma not_left {t : List Char} {u v w : List Mark} (ht : mark t = u ++ w ++ v)
    (hm : Matches p.pattern (u.map Prod.fst).getLast? (w.map Prod.fst) (v.map Prod.fst).head?) :
    ∃ a ∈ w, a ∉ runPasses Prod.fst unmarked (p :: ps) (mark t) := by
  cases w with
  | nil =>
    have hlen := hm.minLen_le
    have hpos := p.minLen_pos
    rw [List.map_nil, List.length_nil] at hlen
    omega
  | cons a w =>
    have hmem : a ∈ mark t := by
      rw [ht]
      exact List.mem_append_left _ (List.mem_append_right _ List.mem_cons_self)
    have hnd := mark_nodup t
    refine ⟨a, List.mem_cons_self, ?_⟩
    rw [ht] at hnd ⊢
    exact runPasses_removes hnd (isSome_of_mem_mark hmem) hm

/-- Every match in the later text stood in the earlier one: the same characters, in a row, and a match. -/
def Stood (r : Regex) (earlier later : List Mark) : Prop :=
  ∀ x w y, later = x ++ w ++ y →
    Matches r (x.map Prod.fst).getLast? (w.map Prod.fst) (y.map Prod.fst).head? →
    ∃ x' y', earlier = x' ++ w ++ y' ∧
      Matches r (x'.map Prod.fst).getLast? (w.map Prod.fst) (y'.map Prod.fst).head?

section Stood

variable {r : Regex} {s t u : List Mark}

lemma Stood.trans (h : Stood r s t) (h' : Stood r t u) : Stood r s u := by
  intro x w y hu hm
  obtain ⟨x', y', ht, hm'⟩ := h' x w y hu hm
  exact h x' w y' ht hm'

/-- A text with a match is cut into marked parts. -/
lemma hasMatch_marks : HasMatch r none (t.map Prod.fst) ↔ ∃ x w y, t = x ++ w ++ y ∧
    Matches r (x.map Prod.fst).getLast? (w.map Prod.fst) (y.map Prod.fst).head? := by
  constructor
  · rintro ⟨x, w, y, ht, hm⟩
    obtain ⟨XW, Y, rfl, hXW, rfl⟩ := List.map_eq_append_iff.1 ht
    obtain ⟨X, W, rfl, rfl, rfl⟩ := List.map_eq_append_iff.1 hXW
    rw [Option.or_none] at hm
    exact ⟨X, W, Y, rfl, hm⟩
  · rintro ⟨x, w, y, rfl, hm⟩
    refine ⟨x.map Prod.fst, w.map Prod.fst, y.map Prod.fst, by rw [List.map_append, List.map_append], ?_⟩
    rw [Option.or_none]
    exact hm

lemma stood_of_not_hasMatch (h : ¬ HasMatch r none (t.map Prod.fst)) : Stood r s t :=
  fun x w y ht hm => absurd (hasMatch_marks.2 ⟨x, w, y, ht, hm⟩) h

lemma Stood.hasMatch (h : Stood r s t) (hm : HasMatch r none (t.map Prod.fst)) :
    HasMatch r none (s.map Prod.fst) := by
  obtain ⟨x, w, y, ht, hm⟩ := hasMatch_marks.1 hm
  obtain ⟨x', y', hs, hm'⟩ := h x w y ht hm
  exact hasMatch_marks.2 ⟨x', w, y', hs, hm'⟩

/-- **Nothing is left** of a pattern, when all that is left of it stood in the text. -/
theorem Stood.not_hasMatch {l : List Char} (h : Stood p.pattern (mark l) t)
    (hleft : ∀ a ∈ t, a ∈ runPasses Prod.fst unmarked (p :: ps) (mark l)) :
    ¬ HasMatch p.pattern none (t.map Prod.fst) := by
  intro hm
  obtain ⟨x, w, y, ht, hm⟩ := hasMatch_marks.1 hm
  obtain ⟨x', y', hl, hm'⟩ := h x w y ht hm
  have hgone : ∃ a ∈ w, a ∉ runPasses Prod.fst unmarked (p :: ps) (mark l) := not_left hl hm'
  obtain ⟨a, ha, hno⟩ := hgone
  refine hno (hleft a ?_)
  rw [ht]
  exact List.mem_append_left _ (List.mem_append_right _ ha)

end Stood

end Marks

/-! ### Step by step -/

section Steps

/-- A substitution, behind the character `prev`: characters are kept where nothing matches, and matches are
cut. -/
inductive Scan (r : Regex) (rep : List Char) : Option Char → List Char → List Char → Prop where
  | nil {prev} : Scan r rep prev [] []
  | keep {prev c t out} (h : ¬ ∃ n, r.first (prev, c :: t) = some n) (hs : Scan r rep (some c) t out) :
      Scan r rep prev (c :: t) (c :: out)
  | cut {prev w t out} (hw : w ≠ []) (h : r.first (prev, w ++ t) = some w.length)
      (hm : Matches r prev w t.head?) (hs : Scan r rep (w.getLast?.or prev) t out) :
      Scan r rep prev (w ++ t) (rep ++ out)

variable {r : Regex} {rep : List Char}

/-- The rest of a match is skipped. -/
lemma subFrom_skip (prev : Option Char) (w t : List Char) :
    subFrom id r rep w.length prev (w ++ t) = subFrom id r rep 0 (w.getLast?.or prev) t := by
  induction w generalizing prev with
  | nil => rfl
  | cons c w ih =>
    rw [last_cons]
    exact ih (some c)

lemma scan_subFrom (hr : 0 < r.minLen) (prev : Option Char) (t : List Char) :
    Scan r rep prev t (subFrom id r rep 0 prev t) := by
  induction hl : t.length using Nat.strongRecOn generalizing prev t with
  | ind k ih =>
    cases t with
    | nil => exact Scan.nil
    | cons c t =>
      rw [List.length_cons] at hl
      rcases first_cases hr prev ((c :: t).map id) with ⟨n, hn, -, -⟩ | hno
      · rw [subFrom_some hn]
        rw [List.map_id] at hn
        obtain ⟨w, rest, ht, hw, hm⟩ := first_some hn
        cases w with
        | nil => simp at hw
        | cons d w =>
          obtain ⟨rfl, ht'⟩ := List.cons.inj ht
          obtain rfl : t = w ++ rest := ht'
          obtain rfl : n = w.length := by simpa using hw.symm
          rw [show subFrom id r rep w.length (some (id c)) (w ++ rest) = _ from subFrom_skip (some c) w rest,
            ← last_cons c w prev]
          refine Scan.cut (List.cons_ne_nil c w) hn hm (ih rest.length ?_ _ _ rfl)
          rw [← hl, List.length_append]
          omega
      · rw [subFrom_none hno]
        rw [List.map_id] at hno
        exact Scan.keep hno (ih t.length (by omega) _ _ rfl)

/-- `re.sub` is a scan. -/
theorem scan_sub (hr : 0 < r.minLen) (t : List Char) : Scan r rep none t (sub id r rep t) := scan_subFrom hr none t

end Steps

/-! ### Runs of characters -/

section Runs

variable {p : Char → Bool} {k : ℕ}

lemma minLen_atLeast : (atLeast p k).minLen = k := by
  induction k with
  | zero => rfl
  | succ k ih =>
    show 1 + (atLeast p k).minLen = k + 1
    omega

lemma within_atLeast {P : Char → Prop} (h : ∀ c, p c = true → P c) : (atLeast p k).Within P := by
  induction k with
  | zero => exact h
  | succ k ih => exact ⟨h, ih⟩

lemma respects_atLeast {e : Option Char → Option Char → Prop} : (atLeast p k).Respects e := by
  induction k with
  | zero => trivial
  | succ k ih => exact ⟨trivial, ih⟩

/-- A repetition takes all that it can. -/
lemma starRun_head (prev : Option Char) (t : List Char) :
    (starRun (run (set p)) t.length (prev, t)).head? =
      some ((t.takeWhile p).getLast?.or prev, t.dropWhile p) := by
  induction t generalizing prev with
  | nil => rfl
  | cons c t ih =>
    by_cases hc : p c = true
    · have hrun : run (set p) (prev, c :: t) = [(some c, t)] := by
        rw [run, if_pos hc]
      have hlen : t.length < (c :: t).length := by simp
      rw [List.length_cons, starRun, hrun, List.takeWhile_cons_of_pos hc, List.dropWhile_cons_of_pos hc, last_cons]
      simp only [List.filter_cons, hlen, decide_true, if_true, List.filter_nil, List.flatMap_cons,
        List.flatMap_nil, List.append_nil, List.head?_append, ih (some c)]
      rfl
    · have hrun : run (set p) (prev, c :: t) = [] := by
        rw [run, if_neg hc]
      rw [List.length_cons, starRun, hrun, List.takeWhile_cons_of_neg hc, List.dropWhile_cons_of_neg hc]
      rfl

lemma run_atLeast_head (prev : Option Char) (t : List Char) :
    (run (atLeast p k) (prev, t)).head? =
      if k ≤ (t.takeWhile p).length then some ((t.takeWhile p).getLast?.or prev, t.dropWhile p) else none := by
  induction k generalizing prev t with
  | zero =>
    rw [if_pos (Nat.zero_le _)]
    exact starRun_head prev t
  | succ k ih =>
    cases t with
    | nil => rfl
    | cons c t =>
      by_cases hc : p c = true
      · have hrun : run (set p) (prev, c :: t) = [(some c, t)] := by
          rw [run, if_pos hc]
        rw [atLeast, run, hrun, List.flatMap_cons, List.flatMap_nil, List.append_nil, ih,
          List.takeWhile_cons_of_pos hc, List.dropWhile_cons_of_pos hc, List.length_cons, last_cons]
        simp only [Nat.add_le_add_iff_right]
      · have hrun : run (set p) (prev, c :: t) = [] := by
          rw [run, if_neg hc]
        rw [atLeast, run, hrun, List.takeWhile_cons_of_neg hc]
        rfl

/-- **A run is found as a whole**, when it is long enough. -/
lemma first_atLeast (prev : Option Char) (t : List Char) :
    (atLeast p k).first (prev, t) =
      if k ≤ (t.takeWhile p).length then some (t.takeWhile p).length else none := by
  have hlen : t.length - (t.dropWhile p).length = (t.takeWhile p).length := by
    have h := congrArg List.length (List.takeWhile_append_dropWhile (p := p) (l := t))
    rw [List.length_append] at h
    omega
  unfold first
  rw [run_atLeast_head]
  split_ifs
  · simp only [Option.map_some, hlen]
  · rfl

/-- No `k` characters of the kind in a row. -/
def NoRun (p : Char → Bool) (k : ℕ) : List Char → Prop
  | [] => True
  | c :: t => ((c :: t).takeWhile p).length < k ∧ NoRun p k t

lemma NoRun.of_append {x t : List Char} (h : NoRun p k (x ++ t)) : NoRun p k t := by
  induction x with
  | nil => exact h
  | cons c x ih => exact ih h.2

lemma NoRun.takeWhile_lt (hk : 0 < k) {t : List Char} (h : NoRun p k t) : (t.takeWhile p).length < k := by
  cases t with
  | nil => exact hk
  | cons c t => exact h.1

lemma takeWhile_append_le (p : Char → Bool) (x t : List Char) :
    (x.takeWhile p).length ≤ ((x ++ t).takeWhile p).length := by
  induction x with
  | nil => exact Nat.zero_le _
  | cons c x ih =>
    by_cases hc : p c = true
    · rw [List.cons_append, List.takeWhile_cons_of_pos hc, List.takeWhile_cons_of_pos hc, List.length_cons,
        List.length_cons]
      omega
    · rw [List.takeWhile_cons_of_neg hc]
      exact Nat.zero_le _

/-- Without a run there is no match. -/
lemma NoRun.not_hasMatch (hk : 0 < k) {prev : Option Char} {t : List Char} (h : NoRun p k t) :
    ¬ HasMatch (atLeast p k) prev t := by
  rintro ⟨x, w, y, rfl, hm⟩
  have hlen := hm.minLen_le
  have hall := hm.within (within_atLeast fun _ hc => hc)
  rw [minLen_atLeast] at hlen
  have htake : (w.takeWhile p).length = w.length := by
    rw [List.takeWhile_eq_self_iff.2 hall]
  rw [List.append_assoc] at h
  have hlt := h.of_append.takeWhile_lt hk
  have hle := takeWhile_append_le p w y
  omega

lemma noRun_append {x t : List Char} (hx : ∀ c ∈ x, p c = true) (ht : t.takeWhile p = []) (hlen : x.length < k)
    (h : NoRun p k t) : NoRun p k (x ++ t) := by
  induction x with
  | nil => exact h
  | cons c x ih =>
    have htake : ((c :: x) ++ t).takeWhile p = c :: x := by
      rw [List.takeWhile_append_of_pos hx, ht, List.append_nil]
    rw [List.length_cons] at hlen
    refine ⟨?_, ih (fun d hd => hx d (List.mem_cons_of_mem _ hd)) (by omega)⟩
    show (((c :: x) ++ t).takeWhile p).length < k
    rw [htake]
    exact hlen

/-- **Runs are gone** when they are cut down to less. -/
lemma scan_noRun {rep : List Char} (hrep : rep.length < k) {prev : Option Char} {t out : List Char}
    (hs : Scan (atLeast p k) rep prev t out) (hp : ∀ c ∈ rep, p c = true) :
    NoRun p k out ∧ ((t.takeWhile p).length < k → (out.takeWhile p).length = (t.takeWhile p).length) := by
  induction hs with
  | nil => exact ⟨trivial, fun _ => rfl⟩
  | @keep prev c t out h hs ih =>
    obtain ⟨hno, hlen⟩ := ih
    have hlt : ((c :: t).takeWhile p).length < k := by
      by_contra hk
      rw [Nat.not_lt] at hk
      exact h ⟨_, by rw [first_atLeast, if_pos hk]⟩
    have heq : ((c :: out).takeWhile p).length = ((c :: t).takeWhile p).length := by
      by_cases hc : p c = true
      · rw [List.takeWhile_cons_of_pos hc, List.length_cons] at hlt
        rw [List.takeWhile_cons_of_pos hc, List.takeWhile_cons_of_pos hc, List.length_cons, List.length_cons,
          hlen (by omega)]
      · rw [List.takeWhile_cons_of_neg hc, List.takeWhile_cons_of_neg hc]
    exact ⟨⟨heq ▸ hlt, hno⟩, fun _ => heq⟩
  | @cut prev w t out hw h hm hs ih =>
    obtain ⟨hno, hlen⟩ := ih
    have hall := hm.within (within_atLeast fun _ hc => hc)
    have htake : (w ++ t).takeWhile p = w ++ t.takeWhile p := List.takeWhile_append_of_pos hall
    rw [first_atLeast, htake, List.length_append] at h
    split_ifs at h with hk
    have ht : (t.takeWhile p).length = 0 := by
      have hsum := Option.some.inj h
      omega
    have hout : out.takeWhile p = [] := List.length_eq_zero_iff.1 ((hlen (by omega)).trans ht)
    refine ⟨noRun_append hp hout hrep hno, fun hlt => ?_⟩
    rw [htake, List.length_append] at hlt
    omega

/-- Behind the substitution there is no run to substitute. -/
theorem sub_atLeast {rep : List Char} (hrep : rep.length < k) (hp : ∀ c ∈ rep, p c = true) (t : List Char) :
    ¬ HasMatch (atLeast p k) none (sub id (atLeast p k) rep t) := by
  have hpos : 0 < (atLeast p k).minLen := by
    rw [minLen_atLeast]
    omega
  exact (scan_noRun hrep (scan_sub hpos t) hp).1.not_hasMatch (by omega)

end Runs

/-! ### Matches elsewhere -/

section Elsewhere

variable {e : Option Char → Option Char → Prop} {P : Char → Prop} {q r : Regex} {rep : List Char}

/-- Characters that are not cut are kept in a row. -/
lemma scan_prefix (he : ∀ a, e a a) (hP : ∀ a b, P a → P b → e (some a) (some b)) (hq : q.Within P)
    (hne : rep ≠ []) (hrep : ∀ c ∈ rep, P c) {prev : Option Char} {t w y : List Char}
    (hs : Scan q rep prev t (w ++ y)) (hw : ∀ c ∈ w, ¬ P c) : ∃ y', t = w ++ y' ∧ e y.head? y'.head? := by
  induction w generalizing prev t with
  | nil =>
    refine ⟨t, rfl, ?_⟩
    rw [List.nil_append] at hs
    cases hs with
    | nil => exact he _
    | keep => exact he _
    | @cut _ w t out hw h hm hs =>
      obtain ⟨a, rep, rfl⟩ := List.exists_cons_of_ne_nil hne
      obtain ⟨b, w, rfl⟩ := List.exists_cons_of_ne_nil hw
      exact hP a b (hrep a List.mem_cons_self) (hm.within hq b List.mem_cons_self)
  | cons c w ih =>
    generalize hout : c :: w ++ y = out at hs
    cases hs with
    | nil => cases hout
    | @keep _ d t out h hs =>
      obtain ⟨rfl, rfl⟩ := List.cons.inj hout
      obtain ⟨y', rfl, hy⟩ := ih hs fun d hd => hw d (List.mem_cons_of_mem _ hd)
      exact ⟨y', rfl, hy⟩
    | @cut _ w' t out hw' h hm hs =>
      obtain ⟨a, rep, rfl⟩ := List.exists_cons_of_ne_nil hne
      obtain ⟨rfl, -⟩ := List.cons.inj hout
      exact absurd (hrep _ List.mem_cons_self) (hw _ List.mem_cons_self)

/-- What begins with no character of `rep` begins behind it. -/
lemma append_of_not_mem {out x w : List Char} {c : Char} (h : rep ++ out = x ++ c :: w) (hc : c ∉ rep) :
    ∃ x', x = rep ++ x' := by
  rcases List.append_eq_append_iff.1 h with ⟨x', hx', -⟩ | ⟨z, hz, hz'⟩
  · exact ⟨x', hx'⟩
  · cases z with
    | nil => exact ⟨[], by rw [hz]; simp⟩
    | cons d z =>
      obtain ⟨rfl, -⟩ := List.cons.inj hz'
      refine absurd ?_ hc
      rw [hz]
      exact List.mem_append_right _ List.mem_cons_self

/-- **No new matches**: cutting characters that no match of `r` has, and that its assertions cannot tell
apart, makes no match of `r`. -/
lemma hasMatch_of_scan (he : ∀ a, e a a) (hP : ∀ a b, P a → P b → e (some a) (some b)) (hq : q.Within P)
    (hne : rep ≠ []) (hrep : ∀ c ∈ rep, P c) (hr : r.Within fun c => ¬ P c) (hpos : 0 < r.minLen)
    (hre : r.Respects e) {prev prev' : Option Char} {t out : List Char} (hs : Scan q rep prev t out)
    (hprev : e prev' prev) (h : HasMatch r prev' out) : HasMatch r prev t := by
  -- a match is not empty, so it begins with a character that is kept
  have hstart : ∀ {prev' out}, HasMatch r prev' out → ∃ x w y, out = x ++ w ++ y ∧ w ≠ [] ∧
      (∀ c ∈ w, ¬ P c) ∧ Matches r (x.getLast?.or prev') w y.head? := by
    rintro prev' out ⟨x, w, y, hout, hm⟩
    refine ⟨x, w, y, hout, ?_, hm.within hr, hm⟩
    rintro rfl
    have hlen := hm.minLen_le
    rw [List.length_nil] at hlen
    omega
  induction hs generalizing prev' with
  | nil =>
    obtain ⟨x, w, y, hout, hne', -, -⟩ := hstart h
    exact absurd (List.append_eq_nil_iff.1 (List.append_eq_nil_iff.1 hout.symm).1).2 hne'
  | @keep prev c t out hno hs ih =>
    obtain ⟨x, w, y, hout, hne', hall, hm⟩ := hstart h
    cases x with
    | nil =>
      have hs' : Scan q rep prev (c :: t) (w ++ y) := by
        rw [show w ++ y = c :: out from hout.symm]
        exact Scan.keep hno hs
      obtain ⟨y', ht, hy⟩ := scan_prefix he hP hq hne hrep hs' hall
      exact ⟨[], w, y', ht, hm.respects he hre hprev hy⟩
    | cons d x =>
      obtain ⟨rfl, rfl⟩ := List.cons.inj hout
      refine hasMatch_cons.2 (Or.inr (ih (he _) ⟨x, w, y, rfl, ?_⟩))
      rw [← last_cons c x prev']
      exact hm
  | @cut prev w₀ t out hw₀ hf hm₀ hs ih =>
    obtain ⟨x, w, y, hout, hne', hall, hm⟩ := hstart h
    obtain ⟨c, w, rfl⟩ := List.exists_cons_of_ne_nil hne'
    -- the match begins behind the replacement
    have hx : ∃ x', x = rep ++ x' := by
      rw [List.append_assoc] at hout
      exact append_of_not_mem hout fun hc => hall c List.mem_cons_self (hrep c hc)
    obtain ⟨x', rfl⟩ := hx
    have hout' : out = x' ++ c :: w ++ y := by
      rw [List.append_assoc, List.append_assoc] at hout
      rw [List.append_assoc]
      exact List.append_cancel_left hout
    have hlast : e (rep.getLast?.or prev') (w₀.getLast?.or prev) := by
      rw [List.getLast?_eq_some_getLast hne, List.getLast?_eq_some_getLast hw₀]
      exact hP _ _ (hrep _ (List.getLast_mem hne)) (hm₀.within hq _ (List.getLast_mem hw₀))
    obtain ⟨x₁, w₁, y₁, ht, hm₁⟩ := ih hlast ⟨x', c :: w, y, hout', by
      rw [← Option.or_assoc, ← List.getLast?_append]
      exact hm⟩
    refine ⟨w₀ ++ x₁, w₁, y₁, by rw [ht]; simp only [List.append_assoc], ?_⟩
    rw [List.getLast?_append, Option.or_assoc]
    exact hm₁

/-- A match in the middle of a text is one of the text. -/
lemma hasMatch_of_middle (he : ∀ a, e a a) (hre : r.Respects e) {a m b : List Char} (ha : e none a.getLast?)
    (hb : e none b.head?) (h : HasMatch r none m) : HasMatch r none (a ++ m ++ b) := by
  obtain ⟨x, w, y, rfl, hm⟩ := h
  refine ⟨a ++ x, w, y ++ b, by simp only [List.append_assoc], ?_⟩
  refine hm.respects he hre ?_ ?_
  · rw [List.getLast?_append, Option.or_none, Option.or_none]
    cases hx : x.getLast? with
    | none => exact ha
    | some c => exact he _
  · rw [List.head?_append]
    cases y with
    | nil => exact hb
    | cons c y => exact he _

end Elsewhere

end AdvMcp.Lib
