import Mathlib.Data.List.Nodup
import Mathlib.Data.Nat.Notation
import Mathlib.Tactic.Cases

/-!
# Regular expressions with backtracking

The part of Python's `re` without groups that are read back and without lazy repetitions.

* `run` — the ways to match at a place of a text, in the order in which backtracking finds them;
* `Matches` — the texts that an expression matches between two neighbours; `mem_run` says that `run` finds
  just these;
* `sub` — `re.sub`: scan from the left and replace what is found.  Its texts are lists of anything that has a
  character, so that characters can be followed through it.

An expression that matches at a place is not always the one that stands there after a substitution:
`subFrom_removes` says that the first character of every match goes, and that is all that `sub` promises.
-/

namespace AdvMcp.Lib

inductive Regex where
  | eps
  | chr (c : Char)
  | set (p : Char → Bool)
  /-- an assertion about the characters on the two sides -/
  | look (q : Option Char → Option Char → Bool)
  | seq (r s : Regex)
  | alt (r s : Regex)
  | star (r : Regex)

namespace Regex

/-- `r+` -/
def plus (r : Regex) : Regex := seq r (star r)

/-- `r?` -/
def opt (r : Regex) : Regex := alt r eps

/-- A text, character by character. -/
def lit (s : String) : Regex := s.toList.foldr (fun c r => seq (chr c) r) eps

/-- One after the other. -/
def seqs : List Regex → Regex
  | [] => eps
  | [r] => r
  | r :: rs => seq r (seqs rs)

/-- `[p]{k,}` -/
def atLeast (p : Char → Bool) : ℕ → Regex
  | 0 => star (set p)
  | k + 1 => seq (set p) (atLeast p k)

/-! ### Matching -/

/-- A place in a text: the character in front of it, and the rest. -/
abbrev Place := Option Char × List Char

/-- Repetitions of `f` that make progress, the longest first. -/
def starRun (f : Place → List Place) : ℕ → Place → List Place
  | 0, s => [s]
  | n + 1, s => ((f s).filter fun s' => s'.2.length < s.2.length).flatMap (starRun f n) ++ [s]

/-- The places behind the matches at a place. -/
def run : Regex → Place → List Place
  | eps, s => [s]
  | chr c, (_, d :: t) => if d = c then [(some d, t)] else []
  | chr _, (_, []) => []
  | set p, (_, d :: t) => if p d then [(some d, t)] else []
  | set _, (_, []) => []
  | look q, s => if q s.1 s.2.head? then [s] else []
  | seq r₁ r₂, s => (run r₁ s).flatMap (run r₂)
  | alt r₁ r₂, s => run r₁ s ++ run r₂ s
  | star r, s => starRun (run r) s.2.length s

/-- The text between the neighbours `prev` and `next` is a match. -/
inductive Matches : Regex → Option Char → List Char → Option Char → Prop where
  | eps {prev next} : Matches eps prev [] next
  | chr {c prev next} : Matches (chr c) prev [c] next
  | set {p c prev next} (h : p c = true) : Matches (set p) prev [c] next
  | look {q prev next} (h : q prev next = true) : Matches (look q) prev [] next
  | seq {r s u v prev next} (hu : Matches r prev u (v.head?.or next))
      (hv : Matches s (u.getLast?.or prev) v next) : Matches (seq r s) prev (u ++ v) next
  | left {r s w prev next} (h : Matches r prev w next) : Matches (alt r s) prev w next
  | right {r s w prev next} (h : Matches s prev w next) : Matches (alt r s) prev w next
  | nil {r prev next} : Matches (star r) prev [] next
  | cons {r u v prev next} (h : u ≠ []) (hu : Matches r prev u (v.head?.or next))
      (hv : Matches (star r) (u.getLast?.or prev) v next) : Matches (star r) prev (u ++ v) next

lemma matches_seq {r s : Regex} {prev next : Option Char} {w : List Char} : Matches (seq r s) prev w next ↔
    ∃ u v, w = u ++ v ∧ Matches r prev u (v.head?.or next) ∧ Matches s (u.getLast?.or prev) v next := by
  constructor
  · intro h
    cases h with
    | @seq _ _ u v _ _ hu hv => exact ⟨u, v, rfl, hu, hv⟩
  · rintro ⟨u, v, rfl, hu, hv⟩
    exact Matches.seq hu hv

lemma matches_look {q : Option Char → Option Char → Bool} {prev next : Option Char} {w : List Char} :
    Matches (look q) prev w next ↔ w = [] ∧ q prev next = true := by
  constructor
  · intro h
    cases h with
    | look hq => exact ⟨rfl, hq⟩
  · rintro ⟨rfl, hq⟩
    exact Matches.look hq

lemma matches_chr {c : Char} {prev next : Option Char} {w : List Char} :
    Matches (chr c) prev w next ↔ ∃ d, w = [d] ∧ d = c := by
  constructor
  · intro h
    cases h with
    | chr => exact ⟨c, rfl, rfl⟩
  · rintro ⟨d, rfl, rfl⟩
    exact Matches.chr

lemma matches_set {p : Char → Bool} {prev next : Option Char} {w : List Char} :
    Matches (set p) prev w next ↔ ∃ d, w = [d] ∧ p d = true := by
  constructor
  · intro h
    cases h with
    | set hp => exact ⟨_, rfl, hp⟩
  · rintro ⟨d, rfl, hp⟩
    exact Matches.set hp

/-- A text is a match of itself, whatever stands beside it. -/
lemma matches_lit (s : String) (prev next : Option Char) : Matches (lit s) prev s.toList next := by
  unfold lit
  induction s.toList generalizing prev with
  | nil => exact Matches.eps
  | cons c t ih => exact matches_seq.2 ⟨[c], t, rfl, Matches.chr, ih _⟩

/-- `s'` lies behind a match at `s`. -/
def Behind (r : Regex) (s s' : Place) : Prop :=
  ∃ w, s.2 = w ++ s'.2 ∧ s'.1 = w.getLast?.or s.1 ∧ Matches r s.1 w s'.2.head?

/-- What matches one character -/
lemma behind_char {r : Regex} {q : Char → Prop}
    (hr : ∀ prev w next, Matches r prev w next ↔ ∃ d, w = [d] ∧ q d) {prev : Option Char} {t : List Char}
    {s' : Place} : Behind r (prev, t) s' ↔ ∃ d t', t = d :: t' ∧ q d ∧ s' = (some d, t') := by
  constructor
  · rintro ⟨w, hw, hl, hm⟩
    obtain ⟨d, rfl, hd⟩ := (hr _ _ _).1 hm
    exact ⟨d, s'.2, hw, hd, Prod.ext hl rfl⟩
  · rintro ⟨d, t', rfl, hd, rfl⟩
    exact ⟨[d], rfl, rfl, (hr _ _ _).2 ⟨d, rfl, hd⟩⟩

lemma behind_seq {r₁ r₂ : Regex} {s s' : Place} :
    Behind (seq r₁ r₂) s s' ↔ ∃ m, Behind r₁ s m ∧ Behind r₂ m s' := by
  constructor
  · rintro ⟨w, hw, hl, hm⟩
    obtain ⟨u, v, rfl, hu, hv⟩ := matches_seq.1 hm
    refine ⟨(u.getLast?.or s.1, v ++ s'.2), ⟨u, ?_, rfl, ?_⟩, ⟨v, rfl, ?_, hv⟩⟩
    · rw [hw, List.append_assoc]
    · rw [List.head?_append]
      exact hu
    · rw [hl, List.getLast?_append, Option.or_assoc]
  · rintro ⟨m, ⟨u, hu, hul, hum⟩, ⟨v, hv, hvl, hvm⟩⟩
    refine ⟨u ++ v, by rw [hu, hv, List.append_assoc], ?_, ?_⟩
    · rw [hvl, hul, List.getLast?_append, Option.or_assoc]
    · refine Matches.seq ?_ (hul ▸ hvm)
      rw [hv, List.head?_append] at hum
      exact hum

lemma mem_starRun {r : Regex} (ih : ∀ s s', s' ∈ run r s ↔ Behind r s s') {n : ℕ} {s s' : Place}
    (hn : s.2.length ≤ n) : s' ∈ starRun (run r) n s ↔ Behind (star r) s s' := by
  induction n generalizing s with
  | zero =>
    have hnil : s.2 = [] := List.length_eq_zero_iff.1 (by omega)
    unfold starRun
    rw [List.mem_singleton]
    constructor
    · rintro rfl
      exact ⟨[], rfl, rfl, Matches.nil⟩
    · rintro ⟨w, hw, hl, -⟩
      rw [hnil] at hw
      obtain ⟨rfl, hs'⟩ := List.append_eq_nil_iff.1 hw.symm
      exact Prod.ext hl (hs'.trans hnil.symm)
  | succ n ihn =>
    unfold starRun
    simp only [List.mem_append, List.mem_flatMap, List.mem_filter, decide_eq_true_eq, List.mem_singleton]
    constructor
    · rintro (⟨m, ⟨hm, hlen⟩, hs'⟩ | rfl)
      · obtain ⟨v, hv, hvl, hvm⟩ := (ihn (by omega)).1 hs'
        obtain ⟨u, hu, hul, hum⟩ := (ih s m).1 hm
        have hne : u ≠ [] := by
          rintro rfl
          rw [List.nil_append] at hu
          rw [hu] at hlen
          omega
        refine ⟨u ++ v, by rw [hu, hv, List.append_assoc], ?_, ?_⟩
        · rw [hvl, hul, List.getLast?_append, Option.or_assoc]
        · refine Matches.cons hne ?_ (hul ▸ hvm)
          rw [hv, List.head?_append] at hum
          exact hum
      · exact ⟨[], rfl, rfl, Matches.nil⟩
    · rintro ⟨w, hw, hl, hm⟩
      cases hm with
      | nil => exact Or.inr (Prod.ext hl hw.symm)
      | @cons _ u v _ _ hne hu hv =>
        have hpos : 0 < u.length := List.length_pos_iff.2 hne
        have hlen : s.2.length = u.length + (v ++ s'.2).length := by
          rw [hw, List.append_assoc, List.length_append]
        refine Or.inl ⟨(u.getLast?.or s.1, v ++ s'.2), ⟨(ih _ _).2 ⟨u, ?_, rfl, ?_⟩, ?_⟩,
          (ihn ?_).2 ⟨v, rfl, ?_, hv⟩⟩
        · rw [hw, List.append_assoc]
        · rw [List.head?_append]
          exact hu
        · show (v ++ s'.2).length < s.2.length
          omega
        · show (v ++ s'.2).length ≤ n
          omega
        · rw [hl, List.getLast?_append, Option.or_assoc]

/-- **Backtracking finds the matches**, and nothing else. -/
theorem mem_run {r : Regex} {s s' : Place} : s' ∈ run r s ↔ Behind r s s' := by
  induction r generalizing s s' with
  | eps =>
    unfold run
    rw [List.mem_singleton]
    constructor
    · rintro rfl
      exact ⟨[], rfl, rfl, Matches.eps⟩
    · rintro ⟨w, hw, hl, hm⟩
      cases hm
      exact Prod.ext hl hw.symm
  | chr c =>
    obtain ⟨prev, t⟩ := s
    rw [behind_char fun _ _ _ => matches_chr]
    cases t with
    | nil => simp [run]
    | cons d t =>
      unfold run
      by_cases hd : d = c
      · rw [if_pos hd, List.mem_singleton]
        simp [hd]
      · rw [if_neg hd]
        simp [hd]
  | set p =>
    obtain ⟨prev, t⟩ := s
    rw [behind_char fun _ _ _ => matches_set]
    cases t with
    | nil => simp [run]
    | cons d t =>
      unfold run
      by_cases hd : p d = true
      · rw [if_pos hd, List.mem_singleton]
        simp [hd]
      · rw [if_neg hd]
        simp [hd]
  | look q =>
    unfold run
    constructor
    · intro h
      split_ifs at h with hq
      · obtain rfl := List.mem_singleton.1 h
        exact ⟨[], rfl, rfl, Matches.look hq⟩
      · cases h
    · rintro ⟨w, hw, hl, hm⟩
      obtain ⟨rfl, hq⟩ := matches_look.1 hm
      obtain rfl : s' = s := Prod.ext hl hw.symm
      rw [if_pos hq]
      exact List.mem_singleton_self _
  | seq r₁ r₂ ih₁ ih₂ =>
    rw [behind_seq]
    unfold run
    simp only [List.mem_flatMap, ih₁, ih₂]
  | alt r₁ r₂ ih₁ ih₂ =>
    unfold run
    rw [List.mem_append, ih₁, ih₂]
    constructor
    · rintro (⟨w, hw, hl, hm⟩ | ⟨w, hw, hl, hm⟩)
      · exact ⟨w, hw, hl, Matches.left hm⟩
      · exact ⟨w, hw, hl, Matches.right hm⟩
    · rintro ⟨w, hw, hl, hm⟩
      cases hm with
      | left hm => exact Or.inl ⟨w, hw, hl, hm⟩
      | right hm => exact Or.inr ⟨w, hw, hl, hm⟩
  | star r ih => exact mem_starRun (fun s s' => ih) (Nat.le_refl _)

/-! ### What matches have in common -/

/-- The length of the shortest match, or less. -/
def minLen : Regex → ℕ
  | eps | look _ | star _ => 0
  | chr _ | set _ => 1
  | seq r s => minLen r + minLen s
  | alt r s => min (minLen r) (minLen s)

lemma Matches.minLen_le {r : Regex} {prev next : Option Char} {w : List Char} (h : Matches r prev w next) :
    r.minLen ≤ w.length := by
  induction h with
  | seq _ _ ihu ihv =>
    rw [List.length_append]
    exact Nat.add_le_add ihu ihv
  | chr => exact Nat.le_refl _
  | set _ => exact Nat.le_refl _
  | left _ ih => exact Nat.le_trans (Nat.min_le_left _ _) ih
  | right _ ih => exact Nat.le_trans (Nat.min_le_right _ _) ih
  | _ => exact Nat.zero_le _

/-- Every match has the character `c`. -/
def needs (c : Char) : Regex → Bool
  | chr d => d == c
  | seq r s => needs c r || needs c s
  | alt r s => needs c r && needs c s
  | eps | set _ | look _ | star _ => false

lemma Matches.mem_of_needs {r : Regex} {prev next : Option Char} {w : List Char} (h : Matches r prev w next)
    {c : Char} (hc : r.needs c = true) : c ∈ w := by
  induction h with
  | chr =>
    rw [beq_iff_eq.1 hc]
    exact List.mem_singleton_self _
  | seq _ _ ihu ihv =>
    rcases Bool.or_eq_true_iff.1 hc with hc | hc
    · exact List.mem_append_left _ (ihu hc)
    · exact List.mem_append_right _ (ihv hc)
  | left _ ih => exact ih (Bool.and_eq_true_iff.1 hc).1
  | right _ ih => exact ih (Bool.and_eq_true_iff.1 hc).2
  | _ => cases hc

/-- Every character of a match satisfies `P`. -/
def Within (P : Char → Prop) : Regex → Prop
  | eps | look _ => True
  | chr c => P c
  | set p => ∀ c, p c = true → P c
  | seq r s | alt r s => Within P r ∧ Within P s
  | star r => Within P r

lemma Matches.within {P : Char → Prop} {r : Regex} {prev next : Option Char} {w : List Char}
    (h : Matches r prev w next) (hP : r.Within P) : ∀ c ∈ w, P c := by
  induction h with
  | chr =>
    intro c hc
    rw [List.mem_singleton.1 hc]
    exact hP
  | set hp =>
    intro c hc
    rw [List.mem_singleton.1 hc]
    exact hP _ hp
  | seq _ _ ihu ihv =>
    intro c hc
    rcases List.mem_append.1 hc with hc | hc
    · exact ihu hP.1 c hc
    · exact ihv hP.2 c hc
  | cons _ _ _ ihu ihv =>
    intro c hc
    rcases List.mem_append.1 hc with hc | hc
    · exact ihu hP c hc
    · exact ihv hP c hc
  | left _ ih => exact ih hP.1
  | right _ ih => exact ih hP.2
  | _ => simp

/-- What assertions cannot tell apart. -/
def Respects (e : Option Char → Option Char → Prop) : Regex → Prop
  | eps | chr _ | set _ => True
  | look q => ∀ a a' b b', e a a' → e b b' → q a b = q a' b'
  | seq r s | alt r s => Respects e r ∧ Respects e s
  | star r => Respects e r

/-- A match stays one between other neighbours of the same kind. -/
lemma Matches.respects {e : Option Char → Option Char → Prop} (he : ∀ a, e a a) {r : Regex}
    {prev next prev' next' : Option Char} {w : List Char} (h : Matches r prev w next) (hr : r.Respects e)
    (hp : e prev prev') (hn : e next next') : Matches r prev' w next' := by
  have hhead : ∀ (v : List Char) {a a' : Option Char}, e a a' → e (v.head?.or a) (v.head?.or a') := by
    intro v a a' ha
    cases v with
    | nil => exact ha
    | cons c v => exact he _
  have hlast : ∀ (u : List Char) {a a' : Option Char}, e a a' → e (u.getLast?.or a) (u.getLast?.or a') := by
    intro u a a' ha
    cases hu : u.getLast? with
    | none => exact ha
    | some c => exact he _
  induction h generalizing prev' next' with
  | eps => exact Matches.eps
  | chr => exact Matches.chr
  | set h => exact Matches.set h
  | look h => exact Matches.look ((hr _ _ _ _ hp hn).symm.trans h)
  | @seq _ _ u v _ _ _ _ ihu ihv => exact Matches.seq (ihu hr.1 hp (hhead v hn)) (ihv hr.2 (hlast u hp) hn)
  | left _ ih => exact Matches.left (ih hr.1 hp hn)
  | right _ ih => exact Matches.right (ih hr.2 hp hn)
  | nil => exact Matches.nil
  | @cons _ u v _ _ hne _ _ ihu ihv =>
    exact Matches.cons hne (ihu hr hp (hhead v hn)) (ihv hr (hlast u hp) hn)

/-! ### Searching -/

/-- The length of the match that backtracking finds first at a place. -/
def first (r : Regex) (s : Place) : Option ℕ := (run r s).head?.map fun s' => s.2.length - s'.2.length

variable {r : Regex} {prev : Option Char} {t : List Char}

lemma first_some {n : ℕ} (h : r.first (prev, t) = some n) :
    ∃ w rest, t = w ++ rest ∧ w.length = n ∧ Matches r prev w rest.head? := by
  unfold first at h
  obtain ⟨s', hs', hn⟩ := Option.map_eq_some_iff.1 h
  obtain ⟨w, hw, -, hm⟩ := mem_run.1 (List.mem_of_mem_head? hs')
  have hlen := congrArg List.length hw
  rw [List.length_append] at hlen
  refine ⟨w, s'.2, hw, ?_, hm⟩
  simp only at hn hlen
  omega

lemma first_isSome {w rest : List Char} (ht : t = w ++ rest) (hm : Matches r prev w rest.head?) :
    ∃ n, r.first (prev, t) = some n := by
  have hmem : (w.getLast?.or prev, rest) ∈ run r (prev, t) := mem_run.2 ⟨w, ht, rfl, hm⟩
  unfold first
  obtain ⟨s', l, hl⟩ := List.exists_cons_of_ne_nil (List.ne_nil_of_mem hmem)
  rw [hl]
  exact ⟨_, rfl⟩

/-- Behind `prev` the text has a match. -/
def HasMatch (r : Regex) (prev : Option Char) (t : List Char) : Prop :=
  ∃ x w y, t = x ++ w ++ y ∧ Matches r (x.getLast?.or prev) w y.head?

lemma last_cons {α : Type} (c : α) (x : List α) (prev : Option α) :
    (c :: x).getLast?.or prev = x.getLast?.or (some c) := by
  rw [List.getLast?_cons]
  cases x.getLast? <;> rfl

lemma hasMatch_cons {c : Char} :
    HasMatch r prev (c :: t) ↔ (∃ n, r.first (prev, c :: t) = some n) ∨ HasMatch r (some c) t := by
  constructor
  · rintro ⟨x, w, y, ht, hm⟩
    cases x with
    | nil => exact Or.inl (first_isSome ht hm)
    | cons d x =>
      obtain ⟨rfl, rfl⟩ := List.cons.inj ht
      refine Or.inr ⟨x, w, y, rfl, ?_⟩
      rw [← last_cons c x prev]
      exact hm
  · rintro (⟨n, hn⟩ | ⟨x, w, y, rfl, hm⟩)
    · obtain ⟨w, y, hw, -, hm⟩ := first_some hn
      exact ⟨[], w, y, hw, hm⟩
    · refine ⟨c :: x, w, y, rfl, ?_⟩
      rw [last_cons]
      exact hm

/-! ### Substituting -/

section Sub

variable {α : Type} (ch : α → Char) (r : Regex) (rep : List α)

/-- `re.sub`, behind the character `prev`; `k` characters belong to the match that was found last.  The
expressions here match no empty text. -/
def subFrom : ℕ → Option Char → List α → List α
  | _, _, [] => []
  | k + 1, _, a :: t => subFrom k (some (ch a)) t
  | 0, prev, a :: t =>
    match r.first (prev, (a :: t).map ch) with
    | some (n + 1) => rep ++ subFrom n (some (ch a)) t
    | _ => a :: subFrom 0 (some (ch a)) t

/-- `re.sub` -/
def sub (t : List α) : List α := subFrom ch r rep 0 none t

end Sub

section Scan

variable {α : Type} {ch : α → Char} {r : Regex} {rep : List α}

lemma subFrom_some {prev : Option Char} {a : α} {t : List α} {n : ℕ}
    (h : r.first (prev, (a :: t).map ch) = some (n + 1)) :
    subFrom ch r rep 0 prev (a :: t) = rep ++ subFrom ch r rep n (some (ch a)) t := by
  rw [subFrom, h]

lemma subFrom_none {prev : Option Char} {a : α} {t : List α}
    (h : ¬ ∃ n, r.first (prev, (a :: t).map ch) = some n) :
    subFrom ch r rep 0 prev (a :: t) = a :: subFrom ch r rep 0 (some (ch a)) t := by
  rw [subFrom]
  split
  · rename_i n hn
    exact absurd ⟨_, hn⟩ h
  · rfl

/-- What is found is not empty. -/
lemma first_cases (hr : 0 < r.minLen) (prev : Option Char) (t : List Char) :
    (∃ n, r.first (prev, t) = some (n + 1) ∧ r.minLen ≤ n + 1 ∧ n + 1 ≤ t.length) ∨
      ¬ ∃ n, r.first (prev, t) = some n := by
  by_cases h : ∃ n, r.first (prev, t) = some n
  · obtain ⟨n, hn⟩ := h
    obtain ⟨w, rest, ht, hw, hm⟩ := first_some hn
    have hmin := hm.minLen_le
    have hlen := congrArg List.length ht
    rw [List.length_append] at hlen
    have hpos : 0 < n := hw ▸ Nat.lt_of_lt_of_le hr hmin
    refine Or.inl ⟨n - 1, ?_, ?_, ?_⟩
    · rw [hn, Nat.sub_add_cancel hpos]
    · omega
    · omega
  · exact Or.inr h

lemma mem_subFrom {k : ℕ} {prev : Option Char} {t : List α} {b : α} (h : b ∈ subFrom ch r rep k prev t) :
    b ∈ rep ∨ b ∈ t := by
  induction t generalizing k prev with
  | nil => cases k <;> exact Or.inr h
  | cons a t ih =>
    cases k with
    | succ k => exact (ih h).imp_right (List.mem_cons_of_mem _)
    | zero =>
      rw [subFrom] at h
      split at h
      · rcases List.mem_append.1 h with h | h
        · exact Or.inl h
        · exact (ih h).imp_right (List.mem_cons_of_mem _)
      · rcases List.mem_cons.1 h with rfl | h
        · exact Or.inr List.mem_cons_self
        · exact (ih h).imp_right (List.mem_cons_of_mem _)

/-- **What a substitution removes**: the first character of every match. -/
theorem subFrom_removes (hr : 0 < r.minLen) {k : ℕ} {prev : Option Char} {x w y : List α} {a : α}
    (hnd : (x ++ a :: w ++ y).Nodup) (hrep : a ∉ rep)
    (hm : Matches r ((x.map ch).getLast?.or prev) ((a :: w).map ch) (y.map ch).head?) :
    a ∉ subFrom ch r rep k prev (x ++ a :: w ++ y) := by
  induction x generalizing k prev with
  | nil =>
    have hout : ∀ k prev, a ∉ subFrom ch r rep k prev (w ++ y) := by
      intro k prev h
      rcases mem_subFrom h with h | h
      · exact hrep h
      · exact (List.nodup_cons.1 hnd).1 h
    cases k with
    | succ k => exact hout k _
    | zero =>
      rcases first_cases hr prev ((a :: (w ++ y)).map ch) with ⟨n, hn, -, -⟩ | hno
      · show a ∉ subFrom ch r rep 0 prev (a :: (w ++ y))
        rw [subFrom_some hn, List.mem_append]
        rintro (h | h)
        · exact hrep h
        · exact hout _ _ h
      · refine absurd (first_isSome ?_ hm) hno
        rw [← List.map_append]
        rfl
  | cons b x ih =>
    obtain ⟨hb, hnd'⟩ := List.nodup_cons.1 (show (b :: (x ++ a :: w ++ y)).Nodup from hnd)
    have hm' : Matches r ((x.map ch).getLast?.or (some (ch b))) ((a :: w).map ch) (y.map ch).head? := by
      rw [← last_cons (ch b) (x.map ch) prev]
      exact hm
    cases k with
    | succ k => exact ih hnd' hm'
    | zero =>
      show a ∉ subFrom ch r rep 0 prev (b :: (x ++ a :: w ++ y))
      rcases first_cases hr prev ((b :: (x ++ a :: w ++ y)).map ch) with ⟨n, hn, -, -⟩ | hno
      · rw [subFrom_some hn, List.mem_append]
        rintro (h | h)
        · exact hrep h
        · exact ih hnd' hm' h
      · rw [subFrom_none hno, List.mem_cons]
        rintro (rfl | h)
        · exact hb (List.mem_append_left _ (List.mem_append_right _ List.mem_cons_self))
        · exact ih hnd' hm' h

/-- Texts are substituted character by character. -/
theorem map_subFrom (k : ℕ) (prev : Option Char) (t : List α) :
    (subFrom ch r rep k prev t).map ch = subFrom id r (rep.map ch) k prev (t.map ch) := by
  induction t generalizing k prev with
  | nil => cases k <;> rfl
  | cons a t ih =>
    cases k with
    | succ k => exact ih k _
    | zero =>
      rw [List.map_cons, subFrom, subFrom, List.map_id, List.map_cons]
      split
      · rw [List.map_append, ih]
        rfl
      · rw [List.map_cons, ih]
        rfl

end Scan

section Lengths

variable {r : Regex} {rep : List Char}

/-- What is found is longer than its replacement. -/
lemma length_subFrom_found (hr : rep.length < r.minLen) {prev : Option Char} {c : Char} {t : List Char} {n : ℕ}
    (hn : r.first (prev, (c :: t).map id) = some (n + 1)) (hmin : r.minLen ≤ n + 1)
    (hlen : n + 1 ≤ ((c :: t).map id).length) (hrest : (subFrom id r rep n (some c) t).length ≤ t.length - n) :
    (subFrom id r rep 0 prev (c :: t)).length ≤ t.length := by
  rw [List.map_id, List.length_cons] at hlen
  rw [subFrom_some hn, List.length_append]
  simp only [id]
  omega

lemma length_subFrom (hr : rep.length < r.minLen) (k : ℕ) (prev : Option Char) (t : List Char) :
    (subFrom id r rep k prev t).length ≤ t.length - k := by
  induction t generalizing k prev with
  | nil => cases k <;> simp [subFrom]
  | cons c t ih =>
    cases k with
    | succ k =>
      have hrest := ih k (some c)
      rw [List.length_cons, Nat.add_sub_add_right]
      exact hrest
    | zero =>
      have hpos : 0 < r.minLen := by omega
      rcases first_cases hpos prev ((c :: t).map id) with ⟨n, hn, hmin, hlen⟩ | hno
      · have hfound := length_subFrom_found hr hn hmin hlen (ih n (some c))
        rw [List.length_cons]
        omega
      · have hrest := ih 0 (some c)
        rw [subFrom_none hno, List.length_cons, List.length_cons]
        simp only [id] at hrest ⊢
        omega

/-- A text without a match stays. -/
lemma subFrom_of_not_hasMatch {prev : Option Char} {t : List Char}
    (h : ¬ HasMatch r prev t) : subFrom id r rep 0 prev t = t := by
  induction t generalizing prev with
  | nil => rfl
  | cons c t ih =>
    rw [hasMatch_cons, not_or] at h
    rw [subFrom_none (by rw [List.map_id]; exact h.1)]
    exact congrArg (c :: ·) (ih h.2)

/-- A match makes the text shorter. -/
lemma length_subFrom_lt (hr : rep.length < r.minLen) {prev : Option Char} {t : List Char}
    (h : HasMatch r prev t) : (subFrom id r rep 0 prev t).length < t.length := by
  induction t generalizing prev with
  | nil =>
    obtain ⟨x, w, y, ht, hm⟩ := h
    have hw : w = [] := (List.append_eq_nil_iff.1 (List.append_eq_nil_iff.1 ht.symm).1).2
    have hmin := hm.minLen_le
    rw [hw, List.length_nil] at hmin
    omega
  | cons c t ih =>
    have hpos : 0 < r.minLen := by omega
    rcases first_cases hpos prev ((c :: t).map id) with ⟨n, hn, hmin, hlen⟩ | hno
    · have hfound := length_subFrom_found hr hn hmin hlen (length_subFrom hr n (some c) t)
      rw [List.length_cons]
      omega
    · rw [List.map_id] at hno
      have hlt := ih ((hasMatch_cons.1 h).resolve_left hno)
      rw [subFrom_none (by rw [List.map_id]; exact hno), List.length_cons, List.length_cons]
      simp only [id] at hlt ⊢
      omega

/-- **A text stays exactly when it has no match.** -/
theorem sub_eq_self_iff (hr : rep.length < r.minLen) {t : List Char} :
    sub id r rep t = t ↔ ¬ HasMatch r none t := by
  constructor
  · intro h hm
    have hlt := length_subFrom_lt hr hm
    unfold sub at h
    rw [h] at hlt
    omega
  · exact subFrom_of_not_hasMatch

lemma length_sub (hr : rep.length < r.minLen) (t : List Char) : (sub id r rep t).length ≤ t.length :=
  length_subFrom hr 0 none t

end Lengths

end Regex

end AdvMcp.Lib
