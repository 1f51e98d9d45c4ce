import Mathlib.Data.List.Induction
import AdvMcp.Lib.Runs
import AdvMcp.Server.Throttle

/-!
# Sequences of calls of the limiter

What `RequestThrottle` answers to any sequence of calls, against a count over the whole history; and
what becomes of it when threads read the clock before they take the lock.

* `limiterLog` — the calls with their answers; `Counts` — each answer is what the count says;
* `limiter_exact` — with a clock that does not go back, every answer is, and what follows from it;
* `throttle` — threads on one key, with the reading of the clock and the critical section as separate steps;
* `throttle_exact` — the runs in which the readings enter the lock in their order.
-/

namespace AdvMcp.Server

open AdvMcp.Lib

variable {κ : Type*} [DecidableEq κ]

/-- A call of `is_limited`, with the reading of the clock. -/
structure LimitCheck (κ : Type*) where
  time : ℤ
  key : κ
  maxRequests : ℤ

/-- The calls that were answered, each with its answer. -/
abbrev Served (κ : Type*) := List (LimitCheck κ × Bool)

/-- The answer to a call. -/
def answer (window : ℤ) (th : Throttle κ) (c : LimitCheck κ) : Bool :=
  (isLimited window th c.time c.key c.maxRequests).1

/-- The buckets after a call. -/
def afterCall (window : ℤ) (th : Throttle κ) (c : LimitCheck κ) : Throttle κ :=
  (isLimited window th c.time c.key c.maxRequests).2

/-- The calls one after the other. -/
def limiterLog (window : ℤ) (th : Throttle κ) : List (LimitCheck κ) → Served κ
  | [] => []
  | c :: cs => (c, answer window th c) :: limiterLog window (afterCall window th c) cs

/-- The buckets after all the calls. -/
def afterCalls (window : ℤ) (th : Throttle κ) (cs : List (LimitCheck κ)) : Throttle κ :=
  cs.foldl (afterCall window) th

/-- The buckets of a new limiter. -/
def emptyThrottle : Throttle κ := fun _ => []

/-- The times of the calls for a key that were admitted, of those with a positive maximum. -/
def admittedTimes (k : κ) (log : Served κ) : List ℤ :=
  (log.filter fun p => decide (p.1.key = k ∧ 0 < p.1.maxRequests ∧ p.2 = false)).map fun p => p.1.time

/-- How many of the times lie in `(t - window, t]`. -/
def lately (window t : ℤ) (ts : List ℤ) : ℕ := ts.countP fun u => decide (t - window < u ∧ u ≤ t)

/-- Every answer is what the admitted calls before it say. -/
def Counts (window : ℤ) (log : Served κ) : Prop :=
  ∀ (past : Served κ) (c : LimitCheck κ) (limited : Bool) (rest : Served κ), log = past ++ (c, limited) :: rest →
    (limited = true ↔ 0 < c.maxRequests ∧ c.maxRequests ≤ lately window c.time (admittedTimes c.key past))

variable {window now now' : ℤ} {th th' : Throttle κ} {k : κ} {c : LimitCheck κ} {cs ds : List (LimitCheck κ)}

/-! ### The limiter, call by call -/

/-- What a call does to the bucket of its own key, if its maximum is positive. -/
lemma afterCall_self (hpos : 0 < c.maxRequests) :
    afterCall window th c c.key =
      if answer window th c = true then (th c.key).dropWhile fun t => decide (t ≤ c.time - window)
      else ((th c.key).dropWhile fun t => decide (t ≤ c.time - window)) ++ [c.time] := by
  unfold afterCall answer isLimited
  simp only
  rw [if_neg (by omega)]
  split_ifs <;> simp_all

lemma answer_eq (hpos : 0 < c.maxRequests) :
    (answer window th c = true ↔
      c.maxRequests ≤ ((th c.key).dropWhile fun t => decide (t ≤ c.time - window)).length) := by
  unfold answer isLimited
  simp only
  rw [if_neg (by omega)]
  split_ifs with h
  · exact iff_of_true rfl h
  · exact iff_of_false id h

lemma answer_of_nonpos (h : c.maxRequests ≤ 0) : answer window th c = false := by
  unfold answer isLimited
  rw [if_pos h]

lemma afterCall_of_nonpos (h : c.maxRequests ≤ 0) : afterCall window th c = th := by
  unfold afterCall isLimited
  rw [if_pos h]

lemma afterCall_of_ne (h : k ≠ c.key) : afterCall window th c k = th k := isLimited_of_ne h

lemma afterCalls_snoc : afterCalls window th (cs ++ [c]) = afterCall window (afterCalls window th cs) c := by
  simp [afterCalls, List.foldl_append]

/-- A call depends on the bucket of its own key, and changes no other. -/
lemma call_congr (h : th c.key = th' c.key) : answer window th c = answer window th' c ∧
    afterCall window th c c.key = afterCall window th' c c.key := by
  by_cases hpos : 0 < c.maxRequests
  · have hanswer : answer window th c = answer window th' c := by
      rw [Bool.eq_iff_iff, answer_eq hpos, answer_eq hpos, h]
    rw [afterCall_self hpos, afterCall_self hpos, hanswer, h]
    exact ⟨rfl, rfl⟩
  · rw [answer_of_nonpos (by omega), answer_of_nonpos (by omega), afterCall_of_nonpos (by omega),
      afterCall_of_nonpos (by omega)]
    exact ⟨rfl, h⟩

lemma limiterLog_append : limiterLog window th (cs ++ ds) =
    limiterLog window th cs ++ limiterLog window (afterCalls window th cs) ds := by
  induction cs generalizing th with
  | nil => rfl
  | cons c cs ih =>
    simp only [List.cons_append, limiterLog]
    rw [ih]
    rfl

lemma limiterLog_calls : (limiterLog window th cs).map Prod.fst = cs := by
  induction cs generalizing th with
  | nil => rfl
  | cons c cs ih => simp [limiterLog, ih]

/-- The log, cut at one of its calls. -/
lemma limiterLog_split {past rest : Served κ} {limited : Bool}
    (h : limiterLog window th cs = past ++ (c, limited) :: rest) :
    ∃ before later, cs = before ++ c :: later ∧ past = limiterLog window th before ∧
      limited = answer window (afterCalls window th before) c ∧
      rest = limiterLog window (afterCall window (afterCalls window th before) c) later := by
  induction cs generalizing th past with
  | nil => simp [limiterLog] at h
  | cons d cs ih =>
    cases past with
    | nil =>
      simp only [limiterLog, List.nil_append, List.cons.injEq, Prod.mk.injEq] at h
      obtain ⟨⟨rfl, rfl⟩, rfl⟩ := h
      exact ⟨[], cs, rfl, rfl, rfl, rfl⟩
    | cons p past =>
      simp only [limiterLog, List.cons_append, List.cons.injEq] at h
      obtain ⟨rfl, h⟩ := h
      obtain ⟨before, later, rfl, rfl, hl, hr⟩ := ih h
      exact ⟨d :: before, later, rfl, rfl, hl, hr⟩

/-! ### The buckets against the history -/

/-- The bucket of every key holds the last of the calls admitted for it, which are in the order of time. -/
structure Records (window now : ℤ) (log : Served κ) (th : Throttle κ) : Prop where
  bucket : ∀ k, Bucket (now - window) (admittedTimes k log) (th k)
  sorted : ∀ k, (admittedTimes k log).Pairwise (· ≤ ·)
  past : ∀ k, ∀ u ∈ admittedTimes k log, u ≤ now

lemma Records.later {log : Served κ} (h : Records window now log th) (hn : now ≤ now') :
    Records window now' log th :=
  ⟨fun k => (h.bucket k).mono (by omega), h.sorted, fun k u hu => (h.past k u hu).trans hn⟩

lemma admittedTimes_snoc {log : Served κ} {limited : Bool} : admittedTimes k (log ++ [(c, limited)]) =
    admittedTimes k log ++ if c.key = k ∧ 0 < c.maxRequests ∧ limited = false then [c.time] else [] := by
  unfold admittedTimes
  rw [List.filter_append, List.map_append]
  split_ifs with h
  · simp [h]
  · simp [h]

/-- The answer to a call is what the history says. -/
lemma Records.answer_iff {log : Served κ} (h : Records window c.time log th) :
    answer window th c = true ↔
      0 < c.maxRequests ∧ c.maxRequests ≤ lately window c.time (admittedTimes c.key log) := by
  by_cases hpos : 0 < c.maxRequests
  · have hcount := (h.bucket c.key).count_eq (h.sorted c.key)
    have hlately : lately window c.time (admittedTimes c.key log) =
        (admittedTimes c.key log).countP fun u => decide (c.time - window < u) := by
      unfold lately
      refine List.countP_congr fun u hu => ?_
      have hle := h.past c.key u hu
      simp [hle]
    rw [answer_eq hpos, hcount, hlately]
    exact ⟨fun h => ⟨hpos, h⟩, fun h => h.2⟩
  · rw [answer_of_nonpos (by omega)]
    exact iff_of_false Bool.false_ne_true fun h => hpos h.1

/-- A call keeps the record. -/
lemma Records.call {log : Served κ} (h : Records window c.time log th) :
    Records window c.time (log ++ [(c, answer window th c)]) (afterCall window th c) := by
  refine ⟨fun k => ?_, fun k => ?_, fun k u hu => ?_⟩
  · rw [admittedTimes_snoc]
    by_cases hk : k = c.key
    · subst hk
      by_cases hpos : 0 < c.maxRequests
      · rw [afterCall_self hpos]
        cases answer window th c with
        | true => simpa using (h.bucket c.key).drop
        | false => simpa [hpos] using (h.bucket c.key).drop.push c.time
      · rw [afterCall_of_nonpos (by omega), if_neg fun hc => hpos hc.2.1, List.append_nil]
        exact h.bucket c.key
    · rw [afterCall_of_ne hk, if_neg fun hc => hk hc.1.symm, List.append_nil]
      exact h.bucket k
  · rw [admittedTimes_snoc]
    split_ifs with hc
    · refine List.pairwise_append.2 ⟨h.sorted k, List.pairwise_singleton _ _, fun u hu v hv => ?_⟩
      rw [List.mem_singleton.1 hv]
      exact h.past k u hu
    · rw [List.append_nil]
      exact h.sorted k
  · rw [admittedTimes_snoc] at hu
    rcases List.mem_append.1 hu with hu | hu
    · exact h.past k u hu
    · split_ifs at hu with hc
      · rw [List.mem_singleton.1 hu]
      · simp at hu

lemma records_empty : Records window now [] (emptyThrottle : Throttle κ) where
  bucket _ := ⟨[], rfl, fun _ hu => absurd hu List.not_mem_nil⟩
  sorted _ := List.Pairwise.nil
  past _ _ hu := absurd hu List.not_mem_nil

/-- The record is kept by calls whose readings of the clock do not go back. -/
theorem records_run (hmono : cs.Pairwise fun c d => c.time ≤ d.time) (hnow : ∀ c ∈ cs, c.time ≤ now) :
    Records window now (limiterLog window emptyThrottle cs) (afterCalls window emptyThrottle cs) := by
  induction cs using List.reverseRecOn generalizing now with
  | nil => exact records_empty
  | append_singleton cs c ih =>
    obtain ⟨hcs, -, hlast⟩ := List.pairwise_append.1 hmono
    have hrec := ih hcs fun d hd => hlast d hd c (List.mem_singleton_self c)
    rw [limiterLog_append, afterCalls_snoc]
    exact hrec.call.later (hnow c (by simp))

lemma counts_of_monotone (hmono : cs.Pairwise fun c d => c.time ≤ d.time) :
    Counts window (limiterLog window emptyThrottle cs) := by
  intro past c limited rest h
  obtain ⟨before, later, rfl, rfl, rfl, -⟩ := limiterLog_split h
  obtain ⟨hbefore, -, hle⟩ := List.pairwise_append.1 hmono
  exact (records_run hbefore fun d hd => hle d hd c List.mem_cons_self).answer_iff

/-! ### Consequences -/

/-- With one positive maximum, the calls that were admitted for the key are spread out. -/
lemma tracks_run {m : ℤ} (hpos : 0 < m) (hmono : cs.Pairwise fun c d => c.time ≤ d.time)
    (hnow : ∀ c ∈ cs, c.time ≤ now) (hmax : ∀ c ∈ cs, c.key = k → c.maxRequests = m) :
    Tracks window m now (admittedTimes k (limiterLog window emptyThrottle cs))
      (afterCalls window emptyThrottle cs k) := by
  induction cs using List.reverseRecOn generalizing now with
  | nil => exact ⟨.nil, [], rfl, fun _ hu => absurd hu List.not_mem_nil⟩
  | append_singleton cs c ih =>
    obtain ⟨hcs, -, hlast⟩ := List.pairwise_append.1 hmono
    have htracks := ih hcs (fun d hd => hlast d hd c (List.mem_singleton_self c))
      fun d hd => hmax d (List.mem_append_left _ hd)
    refine Tracks.later ?_ (hnow c (by simp))
    rw [limiterLog_append, afterCalls_snoc, limiterLog, limiterLog, admittedTimes_snoc]
    by_cases hk : c.key = k
    · have hm : c.maxRequests = m := hmax c (by simp) hk
      subst hk hm
      cases hl : answer window (afterCalls window emptyThrottle cs) c with
      | true => simpa [afterCall] using htracks.limited hl
      | false => simpa [hpos, afterCall] using htracks.admit hpos hl
    · rw [afterCall_of_ne (Ne.symm hk), if_neg fun hc => hk hc.1, List.append_nil]
      exact htracks

omit [DecidableEq κ] in
lemma exists_latest (cs : List (LimitCheck κ)) : ∃ now, ∀ c ∈ cs, c.time ≤ now := by
  induction cs with
  | nil => exact ⟨0, fun _ hc => absurd hc List.not_mem_nil⟩
  | cons c cs ih =>
    obtain ⟨now, hnow⟩ := ih
    refine ⟨max c.time now, fun d hd => ?_⟩
    rcases List.mem_cons.1 hd with rfl | hd
    · omega
    · have hle := hnow d hd
      omega

/-- Then no window holds more of them than the maximum. -/
lemma window_run {m : ℤ} (hpos : 0 < m) (hmono : cs.Pairwise fun c d => c.time ≤ d.time)
    (hmax : ∀ c ∈ cs, c.key = k → c.maxRequests = m) (a : ℤ) :
    (inWindow window a (admittedTimes k (limiterLog window emptyThrottle cs)) : ℤ) ≤ m := by
  obtain ⟨now, hnow⟩ := exists_latest cs
  have htracks : Tracks window m now _ _ := tracks_run hpos hmono hnow hmax
  have hle := htracks.admitted.window_le a
  omega

/-- Two limiters that differ in what is too old at `now` only. -/
def SameSince (window now : ℤ) (th th' : Throttle κ) : Prop :=
  ∀ k, ((th k).dropWhile fun t => decide (t ≤ now - window)) =
    (th' k).dropWhile fun t => decide (t ≤ now - window)

omit [DecidableEq κ] in
lemma SameSince.later (h : SameSince window now th th') (hn : now ≤ now') :
    SameSince window now' th th' := by
  intro k
  have hc : now - window ≤ now' - window := by omega
  rw [← dropWhile_dropWhile_le hc, h k, dropWhile_dropWhile_le hc]

/-- They answer a call in the same way, and stay so. -/
lemma SameSince.call (h : SameSince window c.time th th') :
    answer window th c = answer window th' c ∧
      SameSince window c.time (afterCall window th c) (afterCall window th' c) := by
  by_cases hpos : 0 < c.maxRequests
  · have hanswer : answer window th c = answer window th' c := by
      rw [Bool.eq_iff_iff, answer_eq hpos, answer_eq hpos, h c.key]
    refine ⟨hanswer, fun k => ?_⟩
    by_cases hk : k = c.key
    · subst hk
      rw [afterCall_self hpos, afterCall_self hpos, hanswer, h c.key]
    · rw [afterCall_of_ne hk, afterCall_of_ne hk]
      exact h k
  · rw [answer_of_nonpos (by omega), answer_of_nonpos (by omega), afterCall_of_nonpos (by omega),
      afterCall_of_nonpos (by omega)]
    exact ⟨rfl, h⟩

/-- Later calls cannot tell them apart. -/
lemma SameSince.log_eq (h : SameSince window now th th') (hmono : cs.Pairwise fun c d => c.time ≤ d.time)
    (hnow : ∀ c ∈ cs, now ≤ c.time) : limiterLog window th cs = limiterLog window th' cs := by
  induction cs generalizing now th th' with
  | nil => rfl
  | cons c cs ih =>
    obtain ⟨hc, hcs⟩ := List.pairwise_cons.1 hmono
    obtain ⟨hanswer, hsame⟩ := (h.later (hnow c List.mem_cons_self)).call
    rw [limiterLog, limiterLog, hanswer, ih hsame hcs hc]

/-- A call that is refused only drops what is too old. -/
lemma sameSince_of_refused (h : answer window th c = true) :
    SameSince window c.time (afterCall window th c) th := by
  have hpos : 0 < c.maxRequests := by
    by_contra hn
    rw [answer_of_nonpos (by omega)] at h
    exact Bool.false_ne_true h
  intro k
  by_cases hk : k = c.key
  · subst hk
    rw [afterCall_self hpos, if_pos h]
    exact dropWhile_dropWhile_le le_rfl _
  · rw [afterCall_of_ne hk]

/-- Without a call that was refused, all other answers are the same. -/
lemma limiterLog_without {past rest : Served κ} (hmono : cs.Pairwise fun c d => c.time ≤ d.time)
    (h : limiterLog window emptyThrottle cs = past ++ (c, true) :: rest) :
    limiterLog window emptyThrottle (past.map Prod.fst ++ rest.map Prod.fst) = past ++ rest := by
  obtain ⟨before, later, rfl, rfl, hl, rfl⟩ := limiterLog_split h
  obtain ⟨hlater, hmono'⟩ := List.pairwise_cons.1 (List.pairwise_append.1 hmono).2.1
  rw [limiterLog_calls, limiterLog_calls, limiterLog_append, (sameSince_of_refused hl.symm).log_eq hmono' hlater]

/-- The answers for a key are those that the calls for that key alone would get. -/
lemma limiterLog_filter (hk : th k = th' k) : (limiterLog window th cs).filter (fun p => decide (p.1.key = k)) =
    limiterLog window th' (cs.filter fun c => decide (c.key = k)) := by
  induction cs generalizing th th' with
  | nil => rfl
  | cons c cs ih =>
    by_cases hc : c.key = k
    · subst hc
      obtain ⟨hanswer, hafter⟩ := call_congr hk
      rw [limiterLog, List.filter_cons_of_pos (by simp), List.filter_cons_of_pos (by simp), limiterLog, hanswer,
        ih hafter]
    · have hself : afterCall window th c k = th' k := by
        rw [afterCall_of_ne (Ne.symm hc), hk]
      rw [limiterLog, List.filter_cons_of_neg (by simpa using hc), List.filter_cons_of_neg (by simpa using hc)]
      exact ih hself

/-- The windows `[a, a + window)` are those behind `a - 1`. -/
lemma countP_from (a : ℤ) (ts : List ℤ) :
    (ts.countP fun u => decide (a ≤ u ∧ u < a + window)) = inWindow window (a - 1) ts := by
  refine List.countP_congr fun u _ => ?_
  simp only [decide_eq_true_eq]
  omega

/-- **The limiter is exact**: as long as the clock does not go back, a call is refused exactly if enough of the
admitted ones lie in the window before it.  So no window holds more than a constant maximum, a refused call
changes no other answer, and no call changes an answer for another key. -/
theorem limiter_exact (hmono : cs.Pairwise fun c d => c.time ≤ d.time) :
    Counts window (limiterLog window emptyThrottle cs) ∧
    (∀ k m, 0 < m → (∀ c ∈ cs, c.key = k → c.maxRequests = m) → ∀ a : ℤ,
      (inWindow window a (admittedTimes k (limiterLog window emptyThrottle cs)) : ℤ) ≤ m ∧
      (((admittedTimes k (limiterLog window emptyThrottle cs)).countP fun u =>
        decide (a ≤ u ∧ u < a + window) : ℕ) : ℤ) ≤ m) ∧
    (∀ past c rest, limiterLog window emptyThrottle cs = past ++ (c, true) :: rest →
      limiterLog window emptyThrottle (past.map Prod.fst ++ rest.map Prod.fst) = past ++ rest) ∧
    ∀ k, (limiterLog window emptyThrottle cs).filter (fun p => decide (p.1.key = k)) =
      limiterLog window emptyThrottle (cs.filter fun c => decide (c.key = k)) := by
  refine ⟨counts_of_monotone hmono, fun k m hpos hmax a => ?_, fun past c rest h => limiterLog_without hmono h,
    fun k => limiterLog_filter rfl⟩
  rw [countP_from]
  exact ⟨window_run hpos hmono hmax a, window_run hpos hmono hmax (a - 1)⟩

/-- Three calls within one window of two. -/
theorem limiter_exact_three :
    Counts 60 (limiterLog 60 emptyThrottle [(⟨0, "u", 2⟩ : LimitCheck String), ⟨10, "u", 2⟩, ⟨59, "u", 2⟩]) :=
  (limiter_exact (by simp)).1

/-! ### Threads -/

/-- What the threads share and hold. -/
structure Threads (ι κ : Type*) where
  clock : ℤ
  /-- The readings of the threads that wait for the lock. -/
  reading : ι → Option ℤ
  buckets : Throttle κ
  /-- The calls that have left the critical section, in the order in which they entered it. -/
  served : Served κ

/-- The time passes; a thread reads the clock; it goes through the critical section. -/
inductive Move (ι : Type*) where
  | tick (n : ℕ)
  | read (i : ι)
  | enter (i : ι)

variable {ι : Type*} [DecidableEq ι]

/-- A call of the key by a thread, with the clock as it read it. -/
def Threads.admitOne (s : Threads ι κ) (window : ℤ) (i : ι) (c : LimitCheck κ) : Threads ι κ :=
  { s with
    reading := Function.update s.reading i none
    buckets := afterCall window s.buckets c
    served := s.served ++ [(c, answer window s.buckets c)] }

/-- Threads that call `is_limited` for one key, with one maximum. -/
def throttle (ι : Type*) [DecidableEq ι] (window : ℤ) (key : κ) (maxRequests : ℤ) :
    Sys (Threads ι κ) (Move ι) where
  init s := s.reading = (fun _ => none) ∧ s.buckets = emptyThrottle ∧ s.served = []
  step s move s' :=
    match move with
    | .tick n => s' = { s with clock := s.clock + n }
    | .read i => s.reading i = none ∧ s' = { s with reading := Function.update s.reading i (some s.clock) }
    | .enter i => ∃ t, s.reading i = some t ∧ s' = s.admitOne window i ⟨t, key, maxRequests⟩

/-- The law of the limiter: no window holds more admitted calls than the maximum, and a call is refused only
if its window holds as many. -/
def Sound (window : ℤ) (key : κ) (maxRequests : ℤ) (log : Served κ) : Prop :=
  (∀ t, (lately window t (admittedTimes key log) : ℤ) ≤ maxRequests) ∧
  ∀ (past : Served κ) (c : LimitCheck κ) (rest : Served κ), log = past ++ (c, true) :: rest →
    maxRequests ≤ lately window c.time (admittedTimes key past)

/-- A thread enters with a reading that is not earlier than those that entered before it. -/
def InOrder (s : Threads ι κ) : Move ι → Prop
  | .enter i => ∀ t, s.reading i = some t → ∀ p ∈ s.served, p.1.time ≤ t
  | _ => True

/-- The state of the limiter after the calls that were served, in the order of their readings. -/
structure Serial (window : ℤ) (key : κ) (maxRequests : ℤ) (s : Threads ι κ) : Prop where
  served : s.served = limiterLog window emptyThrottle (s.served.map Prod.fst)
  buckets : s.buckets = afterCalls window emptyThrottle (s.served.map Prod.fst)
  sorted : (s.served.map Prod.fst).Pairwise fun c d => c.time ≤ d.time
  calls : ∀ p ∈ s.served, p.1.key = key ∧ p.1.maxRequests = maxRequests

variable {key : κ} {m : ℤ} {s s' : Threads ι κ}

omit [DecidableEq ι] in
/-- A call served in the order of the readings. -/
lemma Serial.admitOne [DecidableEq ι] (h : Serial window key m s) {t : ℤ} (ht : ∀ p ∈ s.served, p.1.time ≤ t)
    (i : ι) : Serial window key m (s.admitOne window i ⟨t, key, m⟩) where
  served := by
    simp only [Threads.admitOne, List.map_append, List.map_cons, List.map_nil]
    rw [limiterLog_append, ← h.served, ← h.buckets]
    rfl
  buckets := by
    simp only [Threads.admitOne, List.map_append, List.map_cons, List.map_nil]
    rw [afterCalls_snoc, ← h.buckets]
  sorted := by
    simp only [Threads.admitOne, List.map_append, List.map_cons, List.map_nil]
    refine List.pairwise_append.2 ⟨h.sorted, List.pairwise_singleton _ _, fun c hc d hd => ?_⟩
    obtain ⟨p, hp, rfl⟩ := List.mem_map.1 hc
    rw [List.mem_singleton.1 hd]
    exact ht p hp
  calls := by
    intro p hp
    rcases List.mem_append.1 hp with hp | hp
    · exact h.calls p hp
    · rw [List.mem_singleton.1 hp]
      exact ⟨rfl, rfl⟩

lemma Serial.step {move : Move ι} (h : Serial window key m s) (hc : InOrder s move)
    (hst : (throttle ι window key m).step s move s') : Serial window key m s' := by
  cases move with
  | tick n =>
    obtain rfl := hst
    exact ⟨h.served, h.buckets, h.sorted, h.calls⟩
  | read i =>
    obtain ⟨-, rfl⟩ := hst
    exact ⟨h.served, h.buckets, h.sorted, h.calls⟩
  | enter i =>
    obtain ⟨t, ht, rfl⟩ := hst
    exact h.admitOne (hc t ht) i

omit [DecidableEq ι] in
lemma Serial.sound (h : Serial window key m s) (hpos : 0 < m) : Sound window key m s.served := by
  constructor
  · intro t
    have hmax : ∀ c ∈ s.served.map Prod.fst, c.key = key → c.maxRequests = m := by
      intro c hc _
      obtain ⟨p, hp, rfl⟩ := List.mem_map.1 hc
      exact (h.calls p hp).2
    have hle : (inWindow window (t - window) _ : ℤ) ≤ m := window_run hpos h.sorted hmax (t - window)
    rw [← h.served] at hle
    have hlately : lately window t (admittedTimes key s.served) =
        inWindow window (t - window) (admittedTimes key s.served) := by
      unfold lately inWindow
      simp
    rwa [hlately]
  · intro past c rest hlog
    have hcall := h.calls (c, true) (by rw [hlog]; simp)
    have hcounts : Counts window s.served := by
      rw [h.served]
      exact counts_of_monotone h.sorted
    have hle := ((hcounts past c true rest hlog).1 rfl).2
    rwa [hcall.1, hcall.2] at hle

/-- **Threads**: while every call enters the critical section with a reading that is not earlier than those of
the calls that entered before it, the law of the limiter holds. -/
theorem throttle_exact (hpos : 0 < m) {moves : List (Move ι)} (h0 : (throttle ι window key m).init s)
    (h : (throttle ι window key m).RunBy InOrder s moves s') : Sound window key m s'.served := by
  have hb := h0.2.1
  have hs := h0.2.2
  have hinit : Serial window key m s := by
    refine ⟨?_, ?_, ?_, fun p hp => ?_⟩
    · rw [hs]; rfl
    · rw [hs, hb]; rfl
    · rw [hs]; exact List.Pairwise.nil
    · rw [hs] at hp
      exact absurd hp List.not_mem_nil
  have hserial := h.stable (fun _ _ _ _ hI hc hst => hI.step hc hst) (.init h0) hinit
  exact hserial.sound hpos

/-- A limiter that no thread has called. -/
def unused (clock : ℤ) : Threads ℕ Unit := ⟨clock, fun _ => none, emptyThrottle, []⟩

/-- Two threads, one after the other. -/
theorem throttle_exact_two : ∃ s, (throttle ℕ 60 () 1).RunBy InOrder (unused 100)
    [.read 0, .enter 0, .tick 30, .read 1, .enter 1] s ∧ Sound 60 () 1 s.served := by
  have hrun : (throttle ℕ 60 () 1).RunBy InOrder (unused 100)
      [.read 0, .enter 0, .tick 30, .read 1, .enter 1] _ :=
    .cons trivial ⟨rfl, rfl⟩ <| .cons (fun _ _ p hp => absurd hp List.not_mem_nil) ⟨100, rfl, rfl⟩ <|
    .cons trivial rfl <| .cons trivial ⟨rfl, rfl⟩ <|
    .cons (fun t ht p hp => by
      obtain rfl := Option.some.inj ht
      rw [List.mem_singleton.1 hp]
      decide) ⟨130, rfl, rfl⟩ (.nil _)
  exact ⟨_, hrun, throttle_exact (by decide) ⟨rfl, rfl, rfl⟩ hrun⟩

/-- At most two calls in 60 seconds.  A thread reads 100 and another one 150, and neither enters until a call
of 170 has dropped those of 100 and 101 that were admitted: then the call of 150 is the third in `(90, 150]`, and
that of 100 is refused with one in `(40, 100]`. -/
theorem throttle_unsound : ∃ s, (throttle ℕ 60 () 2).Run (unused 100)
    [.read 0, .read 1, .enter 1, .tick 1, .read 2, .enter 2, .tick 49, .read 3, .tick 20, .read 4, .enter 4,
      .enter 3, .enter 0] s ∧
    2 < lately 60 150 (admittedTimes () s.served) ∧
    ∃ past, s.served = past ++ [(⟨100, (), 2⟩, true)] ∧ lately 60 100 (admittedTimes () past) < 2 := by
  refine ⟨_, .cons ⟨rfl, rfl⟩ <| .cons ⟨rfl, rfl⟩ <| .cons ⟨100, rfl, rfl⟩ <| .cons rfl <|
    .cons ⟨rfl, rfl⟩ <| .cons ⟨101, rfl, rfl⟩ <| .cons rfl <| .cons ⟨rfl, rfl⟩ <| .cons rfl <|
    .cons ⟨rfl, rfl⟩ <| .cons ⟨170, rfl, rfl⟩ <| .cons ⟨150, rfl, rfl⟩ <| .cons ⟨100, rfl, rfl⟩ (.nil _), ?_,
    [(⟨100, (), 2⟩, false), (⟨101, (), 2⟩, false), (⟨170, (), 2⟩, false), (⟨150, (), 2⟩, false)], ?_, ?_⟩
  · decide
  · rfl
  · decide

end AdvMcp.Server
