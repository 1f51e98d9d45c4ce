import AdvMcp.Server.Scrub

/-!
# What is left of the texts that are taken out

Each of `_SCRUB_PATTERNS` is removed once, in order.

* `not_hasMatch_collapse` — behind the collapsed white space there is none to collapse;
* `followed`, `Spliced` — the characters of a message are followed back to the text in which a pattern was
  removed: a match that is left did not stand there;
* `Undisturbed`, `Unspliced` — no substitution behind the removal puts a match together: then none is left;
* `not_hasMatch_psycopg` — a cut begins at a word boundary, so that no module name is put together;
* `messageOf_eq_self_iff` — when a message is sanitized to itself.

`sanitize_once` says all of this of `sanitize_message`.
-/

namespace AdvMcp.Server

open AdvMcp.Py AdvMcp.Lib Regex

/-! ### White space -/

section Collapse

variable {r : Regex} {e : Option Char → Option Char → Prop} {t : List Char}

/-- What is done behind the patterns -/
def collapse (t : List Char) : List Char := stripChars (runPasses id id [blanks, emptyLines] t)

lemma scrubbed_eq (T : CharTable) (text : List Char) :
    scrubbed T text = collapse (runPasses id id (scrubPatterns T) (reduceTraceback T text)) := by
  unfold scrubbed collapse passes
  rw [runPasses_append]

lemma hasMatch_of_strip (he : ∀ a, e a a) (hspace : ∀ c, isSpace c = true → e none (some c)) (hre : r.Respects e)
    (h : HasMatch r none (stripChars t)) : HasMatch r none t := by
  obtain ⟨a, b, ht, ha, hb⟩ := stripChars_middle t
  rw [ht]
  refine hasMatch_of_middle he hre ?_ ?_ h
  · cases hl : a.getLast? with
    | none => exact he _
    | some c => exact hspace c (ha c (List.mem_of_getLast? hl))
  · cases b with
    | nil => exact he _
    | cons c b => exact hspace c (hb c List.mem_cons_self)

lemma isSpace_of_isBlank {c : Char} (h : isBlank c = true) : isSpace c = true := by
  rcases Bool.or_eq_true_iff.1 h with h | h
  · rw [beq_iff_eq.1 h]
    rfl
  · rw [beq_iff_eq.1 h]
    rfl

lemma isSpace_of_newline {c : Char} (h : (c == '\n') = true) : isSpace c = true := by
  rw [beq_iff_eq.1 h]
  rfl

/-- Collapsing white space makes no match of an expression that has none, and whose assertions take it for
nothing. -/
lemma hasMatch_of_collapse (he : ∀ a, e a a) (hspace : ∀ c, isSpace c = true → e none (some c))
    (hspaces : ∀ a b, isSpace a = true → isSpace b = true → e (some a) (some b))
    (hr : r.Within fun c => ¬ isSpace c = true) (hpos : 0 < r.minLen) (hre : r.Respects e)
    (h : HasMatch r none (collapse t)) : HasMatch r none t := by
  have hlines : HasMatch r none (sub id emptyLines.pattern ['\n', '\n'] (sub id blanks.pattern [' '] t)) :=
    hasMatch_of_strip he hspace hre h
  have hblanks : HasMatch r none (sub id blanks.pattern [' '] t) :=
    hasMatch_of_scan he hspaces (within_atLeast fun _ => isSpace_of_newline) (List.cons_ne_nil _ _)
      (by decide) hr hpos hre (scan_sub emptyLines.minLen_pos _) (he none) hlines
  exact hasMatch_of_scan he hspaces (within_atLeast fun _ => isSpace_of_isBlank) (List.cons_ne_nil _ _)
    (by decide) hr hpos hre (scan_sub blanks.minLen_pos _) (he none) hblanks

/-- There is nothing left to collapse. -/
theorem not_hasMatch_collapse (t : List Char) :
    ∀ p ∈ [blanks, emptyLines], ¬ HasMatch p.pattern none (collapse t) := by
  -- assertions play no part in runs of characters
  have hstrip : ∀ {p k}, HasMatch (atLeast p k) none (collapse t) →
      HasMatch (atLeast p k) none (sub id emptyLines.pattern ['\n', '\n'] (sub id blanks.pattern [' '] t)) := by
    intro p k h
    have he : (atLeast p k).Respects fun _ _ => True := respects_atLeast
    exact hasMatch_of_strip (fun _ => trivial) (fun _ _ => trivial) he h
  intro p hp h
  rcases List.mem_pair.1 hp with rfl | rfl
  · have hre : blanks.pattern.Respects fun _ _ => True := respects_atLeast
    have hwithin : blanks.pattern.Within fun c => ¬ (c == '\n') = true := by
      refine within_atLeast fun c hc hn => ?_
      rw [beq_iff_eq.1 hn] at hc
      exact absurd hc (by decide)
    have hblanks : HasMatch blanks.pattern none (sub id blanks.pattern [' '] t) :=
      hasMatch_of_scan (fun _ => trivial) (fun _ _ _ _ => trivial) (within_atLeast fun _ hc => hc)
        (List.cons_ne_nil _ _) (by decide) hwithin blanks.minLen_pos hre (scan_sub emptyLines.minLen_pos _)
        trivial (hstrip h)
    exact sub_atLeast (by decide) (by decide) t hblanks
  · exact sub_atLeast (by decide) (by decide) _ (hstrip h)

end Collapse

/-! ### Module names -/

section Words

variable {T : CharTable}

lemma word_of_isAlphanum {c : Char} (h : c.isAlphanum = true) : T.word c = true := by
  have hn := isAlphanum_toNat h
  rw [T.ascii c (by omega), h]
  rfl

lemma toNat_toLower (c : Char) :
    c.toLower.toNat = if 65 ≤ c.toNat ∧ c.toNat ≤ 90 then c.toNat + 32 else c.toNat := by
  have hiff : (c.val ≥ 'A'.val ∧ c.val ≤ 'Z'.val) ↔ 65 ≤ c.toNat ∧ c.toNat ≤ 90 := by
    rw [ge_iff_le, UInt32.le_iff_toNat_le, UInt32.le_iff_toNat_le]
    rfl
  unfold Char.toLower
  by_cases h : 65 ≤ c.toNat ∧ c.toNat ≤ 90
  · rw [dif_pos (hiff.2 h), if_pos h]
    show (c.val + 32).toNat = c.val.toNat + 32
    have hle : c.val.toNat ≤ 90 := h.2
    rw [UInt32.toNat_add]
    exact Nat.mod_eq_of_lt (by simp; omega)
  · rw [dif_neg (mt hiff.1 h), if_neg h]

/-- Letters in any case are word characters. -/
lemma word_of_foldsTo {l c : Char} (hl : l.isAlpha = true) (h : foldsTo l c = true) : T.word c = true := by
  simp only [foldsTo, Bool.or_eq_true, Bool.and_eq_true, beq_iff_eq] at h
  rcases h with ((h | ⟨-, h | h⟩) | ⟨-, h⟩) | ⟨-, h⟩
  · apply word_of_isAlphanum
    have hcase := congrArg Char.toNat h
    rw [toNat_toLower, toNat_toLower] at hcase
    have halpha : c.isAlpha = true := by
      rw [isAlpha_iff] at hl ⊢
      split_ifs at hcase <;> omega
    unfold Char.isAlphanum
    rw [halpha]
    rfl
  all_goals
    rw [h]
    exact T.folded _ (by decide)

lemma within_litI {P : Char → Prop} (s : String)
    (h : ∀ l ∈ s.toList, (l.isAlpha = true → ∀ c, foldsTo l c = true → P c) ∧ (l.isAlpha = false → P l)) :
    (litI s).Within P := by
  unfold litI
  generalize s.toList = ls at h
  induction ls with
  | nil => trivial
  | cons l ls ih =>
    obtain ⟨hset, hchr⟩ := h l List.mem_cons_self
    refine ⟨?_, ih fun m hm => h m (List.mem_cons_of_mem _ hm)⟩
    cases hl : l.isAlpha with
    | true => exact hset hl
    | false => exact hchr hl

lemma respects_litI {e : Option Char → Option Char → Prop} (s : String) : (litI s).Respects e := by
  unfold litI
  induction s.toList with
  | nil => trivial
  | cons l ls ih =>
    refine ⟨?_, ih⟩
    cases l.isAlpha <;> trivial

lemma within_psycopg2 : (litI "psycopg2").Within fun c => T.word c = true := by
  refine within_litI _ fun l hl => ⟨fun halpha c => word_of_foldsTo halpha, fun _ => ?_⟩
  have hall : ∀ l ∈ "psycopg2".toList, l.isAlphanum = true := by decide
  exact word_of_isAlphanum (hall l hl)

/-- Word characters, and the ones that are none, look alike to `\b`. -/
def SameWord (T : CharTable) (a b : Option Char) : Prop := a.any T.word = b.any T.word

lemma respects_psycopg : (psycopg T).Respects (SameWord T) := by
  have hlook : (boundary T).Respects (SameWord T) := by
    intro a a' b b' ha hb
    show (a.any T.word != b.any T.word) = (a'.any T.word != b'.any T.word)
    rw [ha, hb]
  exact ⟨hlook, respects_litI _, ⟨⟨trivial, trivial, trivial⟩, trivial⟩, hlook⟩

lemma not_isSpace_of_word {c : Char} (h : T.word c = true) : ¬ isSpace c = true := by
  intro hs
  rw [T.space c hs] at h
  cases h

lemma within_psycopg : (psycopg T).Within fun c => ¬ isSpace c = true := by
  have hdot : ¬ isSpace '.' = true := by decide
  have hpath : ∀ c, (isPathChar c || foldedLetters.contains c) = true → ¬ isSpace c = true := by
    intro c hc
    simp only [isPathChar, Bool.or_eq_true, beq_iff_eq, List.contains_iff_mem] at hc
    rcases hc with ((hc | rfl) | rfl) | hc
    · exact not_isSpace_of_word (T := T) (word_of_isAlphanum hc)
    · decide
    · exact hdot
    · exact not_isSpace_of_word (T.folded c hc)
  have hlit : (litI "psycopg2").Within fun c => ¬ isSpace c = true := by
    refine within_litI _ fun l hl => ⟨fun halpha c hc => ?_, fun _ => ?_⟩
    · exact not_isSpace_of_word (T := T) (word_of_foldsTo halpha hc)
    · have hall : ∀ l ∈ "psycopg2".toList, ¬ isSpace l = true := by decide
      exact hall l hl
  exact ⟨trivial, hlit, ⟨⟨hdot, hpath, hpath⟩, trivial⟩, trivial⟩

lemma matches_boundary {prev next : Option Char} {w : List Char} :
    Matches (boundary T) prev w next ↔ w = [] ∧ prev.any T.word ≠ next.any T.word := by
  unfold boundary
  rw [matches_look, bne_iff_ne]

lemma last_word {c : Char} {v : List Char} (hv : ∀ d ∈ c :: v, T.word d = true) (prev : Option Char) :
    ((c :: v).getLast?.or prev).any T.word = true := by
  rw [List.getLast?_eq_some_getLast (List.cons_ne_nil c v)]
  exact hv _ (List.getLast_mem _)

/-- The name of the package is a match wherever no word character stands beside it. -/
lemma psycopg_of_litI {prev next : Option Char} {c : Char} {v : List Char}
    (h : Matches (litI "psycopg2") prev (c :: v) next) {p n : Option Char} (hp : p.any T.word = false)
    (hn : n.any T.word = false) : Matches (psycopg T) p (c :: v) n := by
  have hword := h.within (within_psycopg2 (T := T))
  have hlit : Matches (litI "psycopg2") p (c :: v) n :=
    h.respects (e := fun _ _ => True) (fun _ => trivial) (respects_litI _) trivial trivial
  have hstart : p.any T.word ≠ (some c).any T.word := by
    have hc : (some c).any T.word = true := hword c List.mem_cons_self
    rw [hp, hc]
    decide
  have hend : ((c :: v).getLast?.or p).any T.word ≠ n.any T.word := by
    rw [last_word hword, hn]
    decide
  refine matches_seq.2 ⟨[], c :: v, rfl, matches_boundary.2 ⟨rfl, hstart⟩, ?_⟩
  refine matches_seq.2 ⟨c :: v, [], (List.append_nil _).symm, hlit, ?_⟩
  exact matches_seq.2 ⟨[], [], rfl, Matches.right Matches.eps, matches_boundary.2 ⟨rfl, hend⟩⟩

/-- A module name begins and ends at a word boundary, and begins with the name of the package, which is a match
by itself. -/
lemma psycopg_cases {prev next : Option Char} {w : List Char} (h : Matches (psycopg T) prev w next) :
    ∃ c v g, w = c :: v ++ g ∧ (∀ d ∈ c :: v, T.word d = true) ∧ prev.any T.word = false ∧
      (g.head?.or next).any T.word = false ∧ (w.getLast?.or prev).any T.word ≠ next.any T.word ∧
      ∀ p n, p.any T.word = false → n.any T.word = false → Matches (psycopg T) p (c :: v) n := by
  obtain ⟨_, w, rfl, hfirst, hrest⟩ := matches_seq.1 h
  obtain ⟨rfl, hstart⟩ := matches_boundary.1 hfirst
  obtain ⟨v, w, rfl, hv, hrest⟩ := matches_seq.1 hrest
  obtain ⟨g, _, rfl, hg, hrest⟩ := matches_seq.1 hrest
  obtain ⟨rfl, hend⟩ := matches_boundary.1 hrest
  have hword := hv.within (within_psycopg2 (T := T))
  cases v with
  | nil => exact absurd hv.minLen_le (by decide)
  | cons c v =>
    rw [List.append_nil] at *
    refine ⟨c, v, g, rfl, hword, ?_, ?_, ?_, fun p n hp hn => psycopg_of_litI hv hp hn⟩
    · have hne : prev.any T.word ≠ T.word c := hstart
      rw [hword c List.mem_cons_self] at hne
      exact Bool.eq_false_iff.2 hne
    · cases hg with
      | left hg =>
        obtain ⟨d, g, rfl, hd, -⟩ := matches_seq.1 hg
        cases hd
        exact T.ascii '.' (by decide)
      | right hg =>
        cases hg
        have hne : ((c :: v).getLast?.or prev).any T.word ≠ next.any T.word := hend
        rw [last_word hword] at hne
        exact Bool.eq_false_iff.2 hne.symm
    · rw [List.nil_append, List.getLast?_append, Option.or_assoc]
      exact hend

/-- Behind a word character nothing is cut. -/
lemma scan_word {prev : Option Char} {t v y : List Char} (hs : Scan (psycopg T) [] prev t (v ++ y))
    (hprev : prev.any T.word = true) (hv : ∀ c ∈ v, T.word c = true) : ∃ y', t = v ++ y' ∧ y'.head? = y.head? := by
  induction v generalizing prev t with
  | nil =>
    refine ⟨t, rfl, ?_⟩
    rw [List.nil_append] at hs
    cases hs with
    | nil => rfl
    | keep => rfl
    | cut hw h hm hs =>
      obtain ⟨-, -, -, -, -, hno, -⟩ := psycopg_cases hm
      rw [hprev] at hno
      cases hno
  | cons c v ih =>
    generalize hout : c :: v ++ y = out at hs
    cases hs with
    | nil => cases hout
    | @keep _ d t out h hs =>
      obtain ⟨rfl, rfl⟩ := List.cons.inj hout
      obtain ⟨y', rfl, hy⟩ := ih hs (hv c List.mem_cons_self) fun d hd => hv d (List.mem_cons_of_mem _ hd)
      exact ⟨y', rfl, hy⟩
    | cut hw h hm hs =>
      obtain ⟨-, -, -, -, -, hno, -⟩ := psycopg_cases hm
      rw [hprev] at hno
      cases hno

/-- **No module name is put together**: behind a cut no word begins, so that a word of the result is one of the
text. -/
lemma scan_psycopg {prev prev' : Option Char} {t out : List Char} (hs : Scan (psycopg T) [] prev t out)
    (hprev : prev'.any T.word = false → t.head?.any T.word = true → prev.any T.word = false) :
    ¬ HasMatch (psycopg T) prev' out := by
  induction hs generalizing prev' with
  | nil =>
    rintro ⟨x, w, y, hout, hm⟩
    obtain ⟨c, v, g, rfl, -⟩ := psycopg_cases hm
    simp at hout
  | @keep prev c t out hno hs ih =>
    intro h
    rcases hasMatch_cons.1 h with ⟨n, hn⟩ | h
    · obtain ⟨w, y, hout, -, hm⟩ := first_some hn
      obtain ⟨d, v, g, rfl, hword, hp, hg, -, hback⟩ := psycopg_cases hm
      rw [List.append_assoc] at hout
      obtain ⟨rfl, rfl⟩ := List.cons.inj hout
      have hc := hword c List.mem_cons_self
      obtain ⟨y', rfl, hy⟩ := scan_word hs hc fun d hd => hword d (List.mem_cons_of_mem _ hd)
      rw [List.head?_append] at hy
      refine hno (first_isSome (w := c :: v) rfl (hback _ _ (hprev hp hc) ?_))
      rw [hy]
      exact hg
    · exact ih (fun h _ => h) h
  | @cut prev w t out hw h hm hs ih =>
    obtain ⟨-, -, -, -, -, -, -, hend, -⟩ := psycopg_cases hm
    refine ih fun _ ht => ?_
    rw [ht] at hend
    exact Bool.eq_false_iff.2 hend

/-- Neither is one by the white space. -/
theorem not_hasMatch_psycopg (t : List Char) :
    ¬ HasMatch (psycopg T) none (collapse (sub id (psycopg T) [] t)) := by
  have hspace : ∀ c, isSpace c = true → (some c).any T.word = false := T.space
  have hpos : 0 < (psycopg T).minLen := of_decide_eq_true rfl
  have he : ∀ a, SameWord T a a := fun _ => rfl
  have hspaces : ∀ a b, isSpace a = true → isSpace b = true → SameWord T (some a) (some b) := by
    intro a b ha hb
    exact (hspace a ha).trans (hspace b hb).symm
  intro h
  refine scan_psycopg (scan_sub hpos t) (fun h _ => h) ?_
  exact hasMatch_of_collapse he (fun c hc => (hspace c hc).symm) hspaces within_psycopg hpos respects_psycopg h

end Words

/-! ### What stood in the text -/

section Followed

variable {T : CharTable} {ps after : List Pass} {p : Pass} {t x w y : List Char}

/-- `text.strip()`, with the places of the characters. -/
def stripMarks (s : List Mark) : List Mark := (s.dropWhile fun a => isSpace a.1).rdropWhile fun a => isSpace a.1

/-- The message that the substitutions make of a text, with the places of its characters. -/
def followed (ps : List Pass) (t : List Char) : List Mark := stripMarks (runPasses Prod.fst unmarked ps (mark t))

/-- Of the message `x ++ w ++ y` the part `w` did not stand in the text `t`, with the same characters in a row
and between the same neighbours. -/
def Spliced (ps : List Pass) (t x w y : List Char) : Prop :=
  ∃ X W Y, followed ps t = X ++ W ++ Y ∧ X.map Prod.fst = x ∧ W.map Prod.fst = w ∧ Y.map Prod.fst = y ∧
    ∀ u v, mark t = u ++ W ++ v → (u.map Prod.fst).getLast? = x.getLast? → (v.map Prod.fst).head? ≠ y.head?

lemma map_rdropWhile {α β : Type} (f : α → β) (q : β → Bool) (l : List α) :
    (l.rdropWhile fun a => q (f a)).map f = (l.map f).rdropWhile q := by
  unfold List.rdropWhile
  have hrev : (l.map f).reverse = l.reverse.map f := List.map_reverse.symm
  rw [hrev, List.dropWhile_map, List.map_reverse]
  rfl

lemma mem_stripMarks {s : List Mark} {a : Mark} (h : a ∈ stripMarks s) : a ∈ s :=
  (List.dropWhile_sublist _).subset ((List.rdropWhile_prefix _ _).subset h)

/-- The followed message is the message. -/
lemma map_followed (ps : List Pass) (t : List Char) :
    (followed ps t).map Prod.fst = stripChars (runPasses id id ps t) := by
  unfold followed stripMarks stripChars
  have hdrop : ((runPasses Prod.fst unmarked ps (mark t)).dropWhile fun a => isSpace a.1).map Prod.fst =
      (runPasses id id ps t).dropWhile isSpace := by
    rw [← map_mark t, ← map_runPasses, map_mark, List.dropWhile_map]
    rfl
  rw [map_rdropWhile Prod.fst isSpace, hdrop]

/-- **A match that is left was put together**: it did not stand in the text in which the pattern was removed. -/
theorem spliced_of_matches (hout : stripChars (runPasses id id (p :: after) t) = x ++ w ++ y)
    (hm : Matches p.pattern x.getLast? w y.head?) : Spliced (p :: after) t x w y := by
  rw [← map_followed, List.map_eq_append_iff] at hout
  obtain ⟨XW, Y, hXY, hXW, hY⟩ := hout
  obtain ⟨X, W, rfl, hX, hW⟩ := List.map_eq_append_iff.1 hXW
  refine ⟨X, W, Y, hXY, hX, hW, hY, fun u v ht hu hv => ?_⟩
  have hstood : Matches p.pattern (u.map Prod.fst).getLast? (W.map Prod.fst) (v.map Prod.fst).head? := by
    rw [hu, hv, hW]
    exact hm
  have hgone : ∃ a ∈ W, a ∉ runPasses Prod.fst unmarked (p :: after) (mark t) := not_left ht hstood
  obtain ⟨a, ha, hno⟩ := hgone
  refine hno (mem_stripMarks (show a ∈ followed (p :: after) t from ?_))
  rw [hXY]
  exact List.mem_append_left _ (List.mem_append_right _ ha)

/-- None of the substitutions puts a match of `r` together, and neither does the strip: every match behind it stood
in front of it. -/
def Undisturbed (r : Regex) : List Pass → List Mark → Prop
  | [], s => Stood r s (stripMarks s)
  | q :: qs, s => Stood r s (sub Prod.fst q.pattern (q.rep.map unmarked) s) ∧
      Undisturbed r qs (sub Prod.fst q.pattern (q.rep.map unmarked) s)

variable {r : Regex} {s : List Mark}

/-- What is matched in the end stood from the beginning. -/
lemma Undisturbed.stood (h : Undisturbed r ps s) : Stood r s (stripMarks (runPasses Prod.fst unmarked ps s)) := by
  induction ps generalizing s with
  | nil => exact h
  | cons q qs ih => exact h.1.trans (ih h.2)

/-- A pattern that is not put together again is gone. -/
lemma Undisturbed.not_hasMatch (h : Undisturbed p.pattern (p :: after) (mark t)) :
    ¬ HasMatch p.pattern none (stripChars (runPasses id id (p :: after) t)) := by
  rw [← map_followed]
  have hleft : ∀ a ∈ followed (p :: after) t, a ∈ runPasses Prod.fst unmarked (p :: after) (mark t) :=
    fun a ha => mem_stripMarks ha
  exact h.stood.not_hasMatch hleft

/-- What stood nowhere is not put together. -/
lemma Undisturbed.of_not_hasMatch (h : Undisturbed r ps (mark t)) (hno : ¬ HasMatch r none t) :
    ¬ HasMatch r none (stripChars (runPasses id id ps t)) := by
  rw [← map_followed]
  intro hm
  have hstood := h.stood.hasMatch hm
  rw [map_mark] at hstood
  exact hno hstood

/-- A text without a character that every match has -/
lemma not_hasMatch_of_needs {c : Char} {prev : Option Char} (hc : r.needs c = true) (h : c ∉ t) :
    ¬ HasMatch r prev t := by
  rintro ⟨x, w, y, rfl, hm⟩
  exact h (List.mem_append_left _ (List.mem_append_right _ (hm.mem_of_needs hc)))

/-- Without the character nothing is put together. -/
lemma undisturbed_of_needs {c : Char} (hc : r.needs c = true) (h : c ∉ s.map Prod.fst)
    (hreps : ∀ q ∈ ps, c ∉ q.rep) : Undisturbed r ps s := by
  have hsub : ∀ {u v : List Mark}, (∀ a ∈ v, a ∈ u ∨ a.1 ≠ c) → c ∉ u.map Prod.fst → c ∉ v.map Prod.fst := by
    intro u v huv hu hv
    obtain ⟨a, ha, hac⟩ := List.mem_map.1 hv
    rcases huv a ha with hin | hne
    · exact hu (List.mem_map.2 ⟨a, hin, hac⟩)
    · exact hne hac
  induction ps generalizing s with
  | nil => exact stood_of_not_hasMatch (not_hasMatch_of_needs hc (hsub (fun a ha => Or.inl (mem_stripMarks ha)) h))
  | cons q qs ih =>
    have hq : c ∉ (sub Prod.fst q.pattern (q.rep.map unmarked) s).map Prod.fst := by
      refine hsub (fun a ha => ?_) h
      rcases mem_subFrom ha with hrep | hin
      · obtain ⟨d, hd, rfl⟩ := List.mem_map.1 hrep
        refine Or.inr ?_
        rintro rfl
        exact hreps q List.mem_cons_self hd
      · exact Or.inl hin
    exact ⟨stood_of_not_hasMatch (not_hasMatch_of_needs hc hq),
      ih hq fun q' hq' => hreps q' (List.mem_cons_of_mem _ hq')⟩

/-- A pattern whose removal takes out all of a character that its matches have is not put together again. -/
lemma undisturbed_cons_of_needs {c : Char} (hc : r.needs c = true) (h : c ∉ sub id p.pattern p.rep t)
    (hreps : ∀ q ∈ ps, c ∉ q.rep) : Undisturbed r (p :: ps) (mark t) := by
  have hmap : (sub Prod.fst p.pattern (p.rep.map unmarked) (mark t)).map Prod.fst = sub id p.pattern p.rep t := by
    have hrun := map_runPasses [p] (mark t)
    rw [map_mark, runPasses_cons] at hrun
    exact hrun
  have hno : c ∉ (sub Prod.fst p.pattern (p.rep.map unmarked) (mark t)).map Prod.fst := hmap ▸ h
  exact ⟨stood_of_not_hasMatch (not_hasMatch_of_needs hc hno), undisturbed_of_needs hc hno hreps⟩

end Followed

/-! ### Messages -/

section Messages

variable (T : CharTable)

/-- The generic message has no match. -/
lemma generic_clean : ∀ p ∈ scrubPatterns T, ¬ HasMatch p.pattern none genericErrorMessage.toList := by
  have hneeds : ∀ p ∈ scrubPatterns T, ∃ c, needs c p.pattern = true ∧ c ∉ genericErrorMessage.toList := by
    intro p hp
    simp only [scrubPatterns, List.mem_cons, List.not_mem_nil, or_false] at hp
    rcases hp with rfl | rfl | rfl | rfl | rfl | rfl | rfl | rfl | rfl | rfl | rfl
    · exact ⟨'"', rfl, by decide⟩
    · exact ⟨'(', rfl, by decide⟩
    · exact ⟨':', rfl, by decide⟩
    · exact ⟨'/', rfl, by decide⟩
    · exact ⟨'"', rfl, by decide⟩
    · exact ⟨'i', rfl, by decide⟩
    · exact ⟨'<', rfl, by decide⟩
    · exact ⟨'x', rfl, by decide⟩
    · exact ⟨'x', rfl, by decide⟩
    · exact ⟨':', rfl, by decide⟩
    · exact ⟨'2', rfl, by decide⟩
  intro p hp
  obtain ⟨c, hc, hnot⟩ := hneeds p hp
  exact not_hasMatch_of_needs hc hnot

lemma generic_collapsed : ∀ p ∈ [blanks, emptyLines], ¬ HasMatch p.pattern none genericErrorMessage.toList := by
  have hself : collapse genericErrorMessage.toList = genericErrorMessage.toList := by decide
  rw [← hself]
  exact not_hasMatch_collapse _

variable {T}

lemma messageOf_cases (text : List Char) :
    messageOf T text = genericErrorMessage.toList ∨ messageOf T text = scrubbed T text := by
  unfold messageOf
  split_ifs
  · exact Or.inl rfl
  · exact Or.inr rfl

lemma messageOf_collapsed (text : List Char) :
    ∀ p ∈ [blanks, emptyLines], ¬ HasMatch p.pattern none (messageOf T text) := by
  rcases messageOf_cases (T := T) text with h | h
  · rw [h]
    exact generic_collapsed
  · rw [h, scrubbed_eq]
    exact not_hasMatch_collapse _

lemma messageOf_stripped (text : List Char) : stripChars (messageOf T text) = messageOf T text := by
  rcases messageOf_cases (T := T) text with h | h
  · rw [h]
    decide
  · rw [h]
    exact stripChars_idem _

lemma messageOf_ne_nil (text : List Char) : messageOf T text ≠ [] := by
  unfold messageOf
  split_ifs with h
  · decide
  · exact h

/-- The generic message is no traceback. -/
lemma reduceTraceback_generic : reduceTraceback T genericErrorMessage.toList = genericErrorMessage.toList := by
  unfold reduceTraceback
  rw [if_pos (by decide)]

/-- A text that is scrubbed to itself has no match and is no traceback: nothing makes it longer, so that nothing
of it changes. -/
lemma scrubbed_eq_self {z : List Char} (h : scrubbed T z = z) :
    (∀ p ∈ passes T, ¬ HasMatch p.pattern none z) ∧ reduceTraceback T z = z := by
  unfold scrubbed at h
  have hlen₁ := length_stripChars (runPasses id id (passes T) (reduceTraceback T z))
  have hlen₂ := length_runPasses (passes T) (reduceTraceback T z)
  rw [h] at hlen₁
  have hshort : (reduceTraceback T z).length ≤ z.length := by
    rcases reduceTraceback_cases (T := T) z with hle | ⟨hgen, hmarker⟩
    · exact hle
    · have hlong := length_of_marker hmarker
      have hgeneric : (reduceTraceback T z).length = 21 := by
        rw [hgen]
        decide
      omega
  have hclean : ∀ p ∈ passes T, ¬ HasMatch p.pattern none (reduceTraceback T z) :=
    not_hasMatch_of_length (by omega)
  rw [runPasses_of_not_hasMatch hclean] at h hlen₁
  have hreduced : reduceTraceback T z = z := (stripChars_of_length (by rw [h]; omega)).symm.trans h
  rw [hreduced] at hclean
  exact ⟨hclean, hreduced⟩

/-- **When a message is sanitized to itself** -/
theorem messageOf_eq_self_iff (text : List Char) : messageOf T (messageOf T text) = messageOf T text ↔
    (∀ p ∈ scrubPatterns T, ¬ HasMatch p.pattern none (messageOf T text)) ∧
      reduceTraceback T (messageOf T text) = messageOf T text := by
  have hcollapsed := messageOf_collapsed (T := T) text
  have hstripped := messageOf_stripped (T := T) text
  have hne := messageOf_ne_nil (T := T) text
  generalize messageOf T text = z at *
  constructor
  · intro h
    rcases messageOf_cases (T := T) z with hz | hz
    · rw [← h, hz]
      exact ⟨generic_clean T, reduceTraceback_generic⟩
    · obtain ⟨hclean, hreduced⟩ := scrubbed_eq_self (hz.symm.trans h)
      exact ⟨fun p hp => hclean p (List.mem_append_left _ hp), hreduced⟩
  · rintro ⟨hclean, hreduced⟩
    have hall : ∀ p ∈ passes T, ¬ HasMatch p.pattern none z := by
      intro p hp
      rcases List.mem_append.1 hp with hp | hp
      · exact hclean p hp
      · exact hcollapsed p hp
    have hscrubbed : scrubbed T z = z := by
      unfold scrubbed
      rw [hreduced, runPasses_of_not_hasMatch hall, hstripped]
    unfold messageOf
    rw [hscrubbed, if_neg hne]

/-- The module names are what is removed last. -/
lemma scrubPatterns_last :
    scrubPatterns T = (scrubPatterns T).dropLast ++ [⟨psycopg T, [], of_decide_eq_true rfl⟩] := rfl

/-- No message has a module name of the database driver. -/
lemma messageOf_psycopg (text : List Char) : ¬ HasMatch (psycopg T) none (messageOf T text) := by
  rcases messageOf_cases (T := T) text with h | h
  · have hp : ⟨psycopg T, [], of_decide_eq_true rfl⟩ ∈ scrubPatterns T := by
      rw [scrubPatterns_last]
      exact List.mem_append_right _ (List.mem_singleton_self _)
    rw [h]
    exact generic_clean T _ hp
  · rw [h, scrubbed_eq, scrubPatterns_last, runPasses_append, runPasses_cons]
    exact not_hasMatch_psycopg _

/-! ### When nothing is put together -/

/-- The text by which `_reduce_traceback` knows a traceback -/
def tracebackText : Regex := lit "Traceback (most recent call last)"

/-- No pattern of the list but the last is put together again, from its removal on. -/
def Settled : List Pass → List Char → Prop
  | p :: q :: ps, t => Undisturbed p.pattern (p :: q :: ps ++ [blanks, emptyLines]) (mark t) ∧
      Settled (q :: ps) (sub id p.pattern p.rep t)
  | _, _ => True

/-- In what is left of a traceback no pattern is put together again, and no header of a traceback is left or put
together behind the removal of the headers. -/
structure Unspliced (T : CharTable) (text : List Char) : Prop where
  patterns : Settled (scrubPatterns T) (reduceTraceback T text)
  header : ¬ HasMatch tracebackText none (runPasses id id ((scrubPatterns T).take 2) (reduceTraceback T text))
  marker : Undisturbed tracebackText ((scrubPatterns T).drop 2 ++ [blanks, emptyLines])
    (mark (runPasses id id ((scrubPatterns T).take 2) (reduceTraceback T text)))

lemma Settled.undisturbed {before after : List Pass} {p q : Pass} {t : List Char}
    (h : Settled (before ++ p :: q :: after) t) :
    Undisturbed p.pattern (p :: q :: after ++ [blanks, emptyLines]) (mark (runPasses id id before t)) := by
  induction before generalizing t with
  | nil => exact h.1
  | cons b before ih =>
    rw [runPasses_cons]
    cases before with
    | nil => exact ih h.2
    | cons b' before => exact ih h.2

lemma reduceTraceback_of_not_hasMatch {z : List Char} (h : ¬ HasMatch tracebackText none z) :
    reduceTraceback T z = z := by
  unfold reduceTraceback
  refine if_pos (Bool.not_eq_true' _ ▸ Bool.eq_false_iff.2 fun hmarker => h ?_)
  obtain ⟨tail, htail, hpre⟩ := List.any_eq_true.1 hmarker
  obtain ⟨x, rfl⟩ := (List.mem_tails _ _).1 htail
  obtain ⟨y, rfl⟩ := List.isPrefixOf_iff_prefix.1 hpre
  exact ⟨x, tracebackMarker, y, (List.append_assoc _ _ _).symm, matches_lit _ _ _⟩

/-- **No pattern is left** where none is put together. -/
lemma messageOf_clean {text : List Char} (h : Unspliced T text) :
    ∀ p ∈ scrubPatterns T, ¬ HasMatch p.pattern none (messageOf T text) := by
  intro p hp
  rcases messageOf_cases (T := T) text with hgen | hscrubbed
  · rw [hgen]
    exact generic_clean T p hp
  obtain ⟨before, after, hps⟩ := List.append_of_mem hp
  cases after with
  | nil =>
    have hlast : some p = some ⟨psycopg T, [], of_decide_eq_true rfl⟩ := by
      have hget := congrArg List.getLast? hps
      rw [List.getLast?_concat] at hget
      exact hget.symm
    rw [Option.some.inj hlast]
    exact messageOf_psycopg text
  | cons q after =>
    have hrun : runPasses id id (passes T) (reduceTraceback T text) =
        runPasses id id (p :: q :: after ++ [blanks, emptyLines])
          (runPasses id id before (reduceTraceback T text)) := by
      unfold passes
      rw [hps, ← runPasses_append, List.append_assoc]
    rw [hscrubbed, scrubbed, hrun]
    exact (hps ▸ h.patterns).undisturbed.not_hasMatch

/-- No traceback is left either. -/
lemma messageOf_reduced {text : List Char} (h : Unspliced T text) :
    reduceTraceback T (messageOf T text) = messageOf T text := by
  rcases messageOf_cases (T := T) text with hgen | hscrubbed
  · rw [hgen]
    exact reduceTraceback_generic
  · apply reduceTraceback_of_not_hasMatch
    have hrun : runPasses id id (passes T) (reduceTraceback T text) =
        runPasses id id ((scrubPatterns T).drop 2 ++ [blanks, emptyLines])
          (runPasses id id ((scrubPatterns T).take 2) (reduceTraceback T text)) := by
      rw [← runPasses_append]
      rfl
    rw [hscrubbed, scrubbed, hrun]
    exact h.marker.of_not_hasMatch h.header

lemma left_of_sub_ne {T : CharTable} {p : Pass} {text message : String}
    (h : messageOf T text.toList = message.toList ∧ sub id p.pattern p.rep message.toList ≠ message.toList) :
    sanitizeMessage (scrub T) text = message ∧ HasMatch p.pattern none message.toList := by
  refine ⟨String.toList_inj.1 ((toList_sanitizeMessage T text).trans h.1), ?_⟩
  by_contra hno
  exact h.2 ((sub_eq_self_iff p.shrinks).2 hno)

/-- **A text is scrubbed once.**  What is left of a pattern was put together behind its removal; where nothing is
put together, nothing is left, and the message is sanitized to itself. -/
theorem sanitize_once (T : CharTable) (text : String) :
    let message := sanitizeMessage (scrub T) text
    message ≠ "" ∧
      (∀ before p after x w y, scrubPatterns T = before ++ p :: after → message.toList = x ++ w ++ y →
        Matches p.pattern x.getLast? w y.head? →
          Spliced (p :: (after ++ [blanks, emptyLines]))
            (runPasses id id before (reduceTraceback T text.toList)) x w y) ∧
      ¬ HasMatch (psycopg T) none message.toList ∧
      (sanitizeMessage (scrub T) message = message ↔
        (∀ p ∈ scrubPatterns T, ¬ HasMatch p.pattern none message.toList) ∧
          reduceTraceback T message.toList = message.toList) ∧
      (Unspliced T text.toList → (∀ p ∈ scrubPatterns T, ¬ HasMatch p.pattern none message.toList) ∧
        sanitizeMessage (scrub T) message = message) := by
  intro message
  have hmessage : message.toList = messageOf T text.toList := toList_sanitizeMessage T text
  have hself : sanitizeMessage (scrub T) message = message ↔
      messageOf T (messageOf T text.toList) = messageOf T text.toList := by
    rw [← hmessage, ← toList_sanitizeMessage, String.toList_inj]
  refine ⟨sanitizeMessage_ne text, ?_, ?_, ?_, fun h => ?_⟩
  · intro before p after x w y hps hxwy hm
    rcases messageOf_cases (T := T) text.toList with h | h
    · have hp : p ∈ scrubPatterns T := by
        rw [hps]
        exact List.mem_append_right _ List.mem_cons_self
      refine absurd ⟨x, w, y, ?_, ?_⟩ (generic_clean T p hp)
      · rw [← h, ← hmessage, hxwy]
      · rw [Option.or_none]
        exact hm
    · refine spliced_of_matches ?_ hm
      have hrun : runPasses id id (passes T) (reduceTraceback T text.toList) =
          runPasses id id (p :: (after ++ [blanks, emptyLines]))
            (runPasses id id before (reduceTraceback T text.toList)) := by
        unfold passes
        rw [hps, ← runPasses_append, List.append_assoc]
        rfl
      rw [← hrun, ← hxwy, hmessage, h]
      rfl
  · rw [hmessage]
    exact messageOf_psycopg _
  · rw [hself, hmessage]
    exact messageOf_eq_self_iff text.toList
  · rw [hself, hmessage]
    exact ⟨messageOf_clean h, (messageOf_eq_self_iff text.toList).2 ⟨messageOf_clean h, messageOf_reduced h⟩⟩

/-- An error of the database whose second line is taken out. -/
lemma unspliced_detail : Unspliced asciiTable "duplicate key\nDETAIL: Key exists already.".toList where
  patterns := by
    refine ⟨undisturbed_cons_of_needs (c := '"') rfl (by decide +kernel) (by decide),
      undisturbed_cons_of_needs (c := '(') rfl (by decide +kernel) (by decide),
      undisturbed_cons_of_needs (c := ':') rfl (by decide +kernel) (by decide),
      undisturbed_cons_of_needs (c := '/') rfl (by decide +kernel) (by decide),
      undisturbed_cons_of_needs (c := '"') rfl (by decide +kernel) (by decide),
      undisturbed_cons_of_needs (c := 'n') rfl (by decide +kernel) (by decide),
      undisturbed_cons_of_needs (c := '<') rfl (by decide +kernel) (by decide),
      undisturbed_cons_of_needs (c := 'x') rfl (by decide +kernel) (by decide),
      undisturbed_cons_of_needs (c := 'x') rfl (by decide +kernel) (by decide),
      undisturbed_cons_of_needs (c := ':') rfl (by decide +kernel) (by decide), trivial⟩
  header := not_hasMatch_of_needs (c := '(') rfl (by decide +kernel)
  marker := undisturbed_of_needs (c := '(') rfl (by rw [map_mark]; decide +kernel) (by decide)

/-- That error is sanitized for good. -/
theorem sanitize_once_detail : (∀ p ∈ scrubPatterns asciiTable, ¬ HasMatch p.pattern none
      (sanitizeMessage (scrub asciiTable) "duplicate key\nDETAIL: Key exists already.").toList) ∧
    sanitizeMessage (scrub asciiTable)
        (sanitizeMessage (scrub asciiTable) "duplicate key\nDETAIL: Key exists already.") =
      sanitizeMessage (scrub asciiTable) "duplicate key\nDETAIL: Key exists already." :=
  (sanitize_once asciiTable "duplicate key\nDETAIL: Key exists already.").2.2.2.2 unspliced_detail

/-- Each pattern but the last can be put together by another one, and is then removed the second time. -/
theorem patterns_left :
    (∀ q ∈ (scrubPatterns asciiTable).dropLast.zip
        [("File \"a\", line at 0x1f 5", "File \"a\", line 5"),
          ("Traceback (most recTraceback (most recent call last):ent call last):",
            "Traceback (most recent call last):"),
          ("psycopg2 DETAIL: Key (login)=(admin) already exists.", "DETAIL: Key (login)=(admin) already exists."),
          ("/a/b<class 'x'>.py", "/a/b.py"),
          ("\"a.p<class 'x'>y\"", "\"a.py\""),
          ("line at 0x1f 5", "line 5"),
          ("<cla<class 'x'>ss 'y'>", "<class 'y'>"),
          ("object at  0x1f", "object at 0x1f"),
          ("at  0x1f", "at 0x1f"),
          ("odoo.a.p\u017fycopg2:", "odoo.a.:")],
        sanitizeMessage (scrub asciiTable) q.2.1 = q.2.2 ∧ HasMatch q.1.pattern none q.2.2.toList) ∧
      sanitizeMessage (scrub asciiTable) "line 5" = genericErrorMessage := by
  constructor
  · intro q hq
    apply left_of_sub_ne
    revert q
    decide +kernel
  · refine String.toList_inj.1 ((toList_sanitizeMessage asciiTable "line 5").trans ?_)
    decide +kernel

end Messages

end AdvMcp.Server
