import Mathlib.Data.List.Infix
import Mathlib.Data.List.Nodup
import Mathlib.Data.List.Pairwise
import AdvMcp.Lib.Runs
import AdvMcp.Lib.Table

/-!
# Transactions under row locks

Requests that each run one transaction, over tables that all of them share.  A transaction sees the tables as
they were when it started, with its own writes.  A row that it locks or writes is its own until it ends: others
that want the row wait.  A row that another transaction has changed since the start cannot be had any more; then
all that is left is to abort and to start again.

* `Prog`, `Tables` — what a transaction does, and what a write does to the tables;
* `system` — the requests, their steps in any order;
* `Prog.wp` — what a program guarantees at its end, of the tables at its start, its locks and its writes;
* `Inv` — the invariant; `inv_reachable`: it holds when every program guarantees what it should;
* `Marks` — rows that are marked once and for all; `Inv.pairwise`: no two committed transactions claim the same row;
* `alone_run` — a request that nobody stands in the way of ends as its transaction does by itself.
-/

namespace AdvMcp.Lib.Locking

/-- A transaction: it looks at the tables, draws a number, locks a row, writes, and ends with a reply. -/
inductive Prog (S K W ρ : Type)
  | read (f : S → Prog S K W ρ)
  | draw (f : ℕ → Prog S K W ρ)
  | lock (k : K) (rest : Prog S K W ρ)
  | write (w : W) (rest : Prog S K W ρ)
  | done (r : ρ)

/-- What a write does, which row it touches, and the constraints on the tables. -/
structure Tables (S K W : Type) where
  apply : W → S → S
  key : W → K
  valid : S → Bool

/-- A transaction on its way: how many had been committed at its start, what it sees, the rows that are its own, its
writes, and the rest of it. -/
structure Live (S K W ρ : Type) where
  snap : ℕ
  view : S
  locks : List K
  writes : List W
  rest : Prog S K W ρ

inductive Phase (S K W ρ : Type)
  | idle
  | live (t : Live S K W ρ)
  | ended (r : ρ)

/-- A committed transaction. -/
structure Commit (Q W ρ : Type) where
  req : Q
  writes : List W
  reply : ρ

/-- The committed tables, the sequence, the committed transactions in order, who has which row, and where the
requests are. -/
structure State (Q S K W ρ : Type) where
  store : S
  seq : ℕ
  log : List (Commit Q W ρ)
  owner : K → Option Q
  phase : Q → Phase S K W ρ

/-- A request starts its transaction, takes the next step of it, or loses it. -/
inductive Move (Q E : Type)
  | start (q : Q) (e : E)
  | go (q : Q)
  | abort (q : Q)

variable {Q S K W ρ E : Type} [DecidableEq Q] [DecidableEq K]

section Steps

variable (T : Tables S K W)

def Tables.applyAll (ws : List W) (st : S) : S := ws.foldl (fun st w => T.apply w st) st

/-- The tables after these transactions. -/
def replay (st : S) (l : List (Commit Q W ρ)) : S := l.foldl (fun st c => T.applyAll c.writes st) st

/-- One of these transactions has written the row. -/
def wrote (l : List (Commit Q W ρ)) (k : K) : Bool := l.any fun c => c.writes.any fun w => T.key w = k

variable (s : State Q S K W ρ) (q : Q)

def State.set (p : Phase S K W ρ) : State Q S K W ρ :=
  { s with phase := fun q' => if q' = q then p else s.phase q' }

def State.own (k : K) : State Q S K W ρ :=
  { s with owner := fun k' => if k' = k then some q else s.owner k' }

def State.release : State Q S K W ρ :=
  { s with owner := fun k => if s.owner k = some q then none else s.owner k }

/-- The row is free or its own, and nobody has changed it since the start. -/
def State.canLock (t : Live S K W ρ) (k : K) : Bool :=
  (s.owner k = none || s.owner k = some q) && !wrote T (s.log.drop t.snap) k

/-- The next step of a transaction, if it can be taken. -/
def advance (t : Live S K W ρ) : Option (State Q S K W ρ) :=
  match t.rest with
  | .read f => some (s.set q (.live { t with rest := f t.view }))
  | .draw f => some ({ s with seq := s.seq + 1 }.set q (.live { t with rest := f s.seq }))
  | .lock k rest =>
    if s.canLock T q t k then some ((s.own q k).set q (.live { t with locks := k :: t.locks, rest })) else none
  | .write w rest =>
    if s.canLock T q t (T.key w) then
      some ((s.own q (T.key w)).set q (.live
        { t with
          view := T.apply w t.view
          locks := T.key w :: t.locks
          writes := t.writes ++ [w]
          rest }))
    else none
  | .done r =>
    let store := T.applyAll t.writes s.store
    if T.valid store then
      some { (s.release q).set q (.ended r) with store, log := s.log ++ [⟨q, t.writes, r⟩] }
    else none

/-- `prog q e` is the transaction of the request `q` in the circumstances `e` of its start. -/
def move (prog : Q → E → Prog S K W ρ) : Move Q E → Option (State Q S K W ρ)
  | .start q e =>
    match s.phase q with
    | .idle => some (s.set q (.live ⟨s.log.length, s.store, [], [], prog q e⟩))
    | _ => none
  | .go q =>
    match s.phase q with
    | .live t => advance T s q t
    | _ => none
  | .abort q =>
    match s.phase q with
    | .live _ => some ((s.release q).set q .idle)
    | _ => none

/-- The state behind these moves, if they can be made. -/
def moves (prog : Q → E → Prog S K W ρ) (ms : List (Move Q E)) : Option (State Q S K W ρ) :=
  ms.foldlM (fun s m => move T s prog m) s

end Steps

/-- The reply of a request that has ended. -/
def Phase.reply? : Phase S K W ρ → Option ρ
  | .ended r => some r
  | _ => none

/-- Nothing has been committed, and nobody has started. -/
structure IsStart (st : S) (s : State Q S K W ρ) : Prop where
  store : s.store = st
  log : s.log = []
  owner : ∀ k, s.owner k = none
  phase : ∀ q, s.phase q = .idle

/-- The requests over the tables `st`, their steps in any order. -/
def system (T : Tables S K W) (prog : Q → E → Prog S K W ρ) (st : S) :
    Sys (State Q S K W ρ) (Move Q E) where
  init := IsStart st
  step s m s' := move T s prog m = some s'

/-- The start; `n` is the next number. -/
def State.start (st : S) (n : ℕ) : State Q S K W ρ := ⟨st, n, [], fun _ => none, fun _ => .idle⟩

lemma reachable_moves {T : Tables S K W} {prog : Q → E → Prog S K W ρ} {st : S} {s s' : State Q S K W ρ}
    {ms : List (Move Q E)} (h : (system T prog st).Reachable s) (hs : moves T s prog ms = some s') :
    (system T prog st).Reachable s' := by
  induction ms generalizing s with
  | nil =>
    obtain rfl := Option.some.inj hs
    exact h
  | cons m ms ih =>
    unfold moves at hs
    rw [List.foldlM_cons] at hs
    cases hm : move T s prog m with
    | none =>
      rw [hm] at hs
      cases hs
    | some s₁ =>
      rw [hm] at hs
      exact ih (.step h hm) hs

lemma reachable_start (T : Tables S K W) (prog : Q → E → Prog S K W ρ) (st : S) (n : ℕ) :
    (system T prog st).Reachable (.start st n) := .init ⟨rfl, rfl, fun _ => rfl, fun _ => rfl⟩

/-- What holds at the end of a transaction, of the tables at its start, its locks, its writes and its reply,
whatever it draws. -/
def Prog.wp (T : Tables S K W) (post : S → List K → List W → ρ → Prop) (snap : S) :
    S → List K → List W → Prog S K W ρ → Prop
  | view, locks, ws, .read f => Prog.wp T post snap view locks ws (f view)
  | view, locks, ws, .draw f => ∀ n, Prog.wp T post snap view locks ws (f n)
  | view, locks, ws, .lock k rest => Prog.wp T post snap view (k :: locks) ws rest
  | view, locks, ws, .write w rest =>
    Prog.wp T post snap (T.apply w view) (T.key w :: locks) (ws ++ [w]) rest
  | _, locks, ws, .done r => post snap locks ws r

/-! ### The invariant -/

section Invariant

variable {T : Tables S K W} {prog : Q → E → Prog S K W ρ} {post : Q → S → List K → List W → ρ → Prop} {st : S}

/-- A transaction on its way: what its rest guarantees, and that its locks are its own and unchanged. -/
structure LiveInv (T : Tables S K W) (post : Q → S → List K → List W → ρ → Prop) (st : S)
    (log : List (Commit Q W ρ)) (owner : K → Option Q) (q : Q) (t : Live S K W ρ) : Prop where
  snap : t.snap ≤ log.length
  wp : t.rest.wp T (post q) (replay T st (log.take t.snap)) t.view t.locks t.writes
  writes : ∀ w ∈ t.writes, T.key w ∈ t.locks
  locks : ∀ k ∈ t.locks, owner k = some q ∧ wrote T (log.drop t.snap) k = false

/-- A transaction that was committed behind these: it ended as its program guarantees, and between its start and
its end nobody had written the rows that it had locked. -/
def Justified (T : Tables S K W) (post : Q → S → List K → List W → ρ → Prop) (st : S)
    (before : List (Commit Q W ρ)) (c : Commit Q W ρ) : Prop :=
  ∃ n locks, post c.req (replay T st (before.take n)) locks c.writes c.reply ∧
    ∀ k ∈ locks, wrote T (before.drop n) k = false

structure Inv (T : Tables S K W) (post : Q → S → List K → List W → ρ → Prop) (st : S)
    (s : State Q S K W ρ) : Prop where
  store : s.store = replay T st s.log
  valid : T.valid s.store = true
  live : ∀ q t, s.phase q = .live t → LiveInv T post st s.log s.owner q t
  log : ∀ before c after, s.log = before ++ c :: after → Justified T post st before c
  ended : ∀ q r, s.phase q = .ended r → ∃ c ∈ s.log, c.req = q ∧ c.reply = r
  once : ∀ c ∈ s.log, s.phase c.req = .ended c.reply
  nodup : (s.log.map (·.req)).Nodup

variable {s s' : State Q S K W ρ} {q : Q} {t t' : Live S K W ρ}

omit [DecidableEq K] in
@[simp] lemma set_phase_self (p : Phase S K W ρ) : (s.set q p).phase q = p := if_pos rfl

omit [DecidableEq K] in
lemma set_phase_ne {q' : Q} (p : Phase S K W ρ) (h : q' ≠ q) : (s.set q p).phase q' = s.phase q' := if_neg h

omit [DecidableEq Q] in
lemma own_owner {q' : Q} {k k' : K} (hfree : s.owner k = none ∨ s.owner k = some q)
    (h : s.owner k' = some q') : (s.own q k).owner k' = some q' := by
  unfold State.own
  by_cases hk : k' = k
  · subst hk
    rcases hfree with h0 | h0
    · rw [h0] at h
      cases h
    · rw [h0] at h
      simpa using h
  · simpa [hk] using h

omit [DecidableEq K] in
lemma release_owner {q' : Q} {k : K} (hne : q' ≠ q) (h : s.owner k = some q') :
    (s.release q).owner k = some q' := by
  unfold State.release
  simp [h, hne]

lemma canLock_iff {k : K} : s.canLock T q t k = true ↔
    (s.owner k = none ∨ s.owner k = some q) ∧ wrote T (s.log.drop t.snap) k = false := by
  simp [State.canLock]

omit [DecidableEq Q] in
/-- A transaction keeps its invariant while it keeps its locks. -/
lemma LiveInv.mono {log : List (Commit Q W ρ)} {owner owner' : K → Option Q}
    (h : LiveInv T post st log owner q t) (ho : ∀ k, owner k = some q → owner' k = some q) :
    LiveInv T post st log owner' q t :=
  ⟨h.snap, h.wp, h.writes, fun k hk => ⟨ho k (h.locks k hk).1, (h.locks k hk).2⟩⟩

/-- **A request moves on**, within its transaction or into it: nothing is committed, and nobody loses a row. -/
lemma Inv.moved (h : Inv T post st s) (hphase : ∀ r, s.phase q ≠ .ended r) (hstore : s'.store = s.store)
    (hlog : s'.log = s.log) (howner : ∀ q' k, s.owner k = some q' → s'.owner k = some q')
    (hs : s'.phase = (s.set q (.live t')).phase) (ht : LiveInv T post st s'.log s'.owner q t') :
    Inv T post st s' := by
  have hself : s'.phase q = .live t' := by rw [hs, set_phase_self]
  have hother : ∀ q', q' ≠ q → s'.phase q' = s.phase q' := fun q' hne => by rw [hs, set_phase_ne _ hne]
  refine ⟨?_, ?_, fun q' u hu => ?_, ?_, fun q' r hr => ?_, fun c hc => ?_, ?_⟩
  · rw [hstore, hlog]
    exact h.store
  · rw [hstore]
    exact h.valid
  · by_cases hq : q' = q
    · subst hq
      obtain rfl := Phase.live.inj (hself.symm.trans hu)
      exact ht
    · rw [hother q' hq] at hu
      rw [hlog]
      exact (h.live q' u hu).mono (howner q')
  · rw [hlog]
    exact h.log
  · rw [hlog]
    have hq : q' ≠ q := by
      rintro rfl
      rw [hself] at hr
      cases hr
    exact h.ended q' r (by rwa [hother q' hq] at hr)
  · rw [hlog] at hc
    have hq : c.req ≠ q := by
      intro hq
      exact hphase _ (hq ▸ h.once c hc)
    rw [hother _ hq]
    exact h.once c hc
  · rw [hlog]
    exact h.nodup

/-- **A request starts.** -/
lemma Inv.start (h : Inv T post st s) (hphase : s.phase q = .idle) {p : Prog S K W ρ}
    (hp : ∀ st, T.valid st = true → p.wp T (post q) st st [] []) :
    Inv T post st (s.set q (.live ⟨s.log.length, s.store, [], [], p⟩)) := by
  refine h.moved (q := q) (fun r hr => ?_) rfl rfl (fun _ _ ho => ho) rfl ?_
  · rw [hphase] at hr
    cases hr
  · refine ⟨le_rfl, ?_, by simp, by simp⟩
    show p.wp T (post q) (replay T st (s.log.take s.log.length)) s.store [] []
    rw [List.take_length, ← h.store]
    exact hp s.store h.valid

/-- **A request loses its transaction.** -/
lemma Inv.abort (h : Inv T post st s) (hphase : s.phase q = .live t) :
    Inv T post st ((s.release q).set q .idle) := by
  have hother : ∀ q', q' ≠ q → ((s.release q).set q .idle).phase q' = s.phase q' :=
    fun q' hne => set_phase_ne _ hne
  have hself : ((s.release q).set q .idle).phase q = .idle := set_phase_self _
  refine ⟨h.store, h.valid, fun q' u hu => ?_, h.log, fun q' r hr => ?_, fun c hc => ?_, h.nodup⟩
  · have hq : q' ≠ q := by
      rintro rfl
      rw [hself] at hu
      cases hu
    rw [hother q' hq] at hu
    exact (h.live q' u hu).mono fun k ho => release_owner hq ho
  · have hq : q' ≠ q := by
      rintro rfl
      rw [hself] at hr
      cases hr
    rw [hother q' hq] at hr
    exact h.ended q' r hr
  · have hq : c.req ≠ q := by
      intro hq
      have hc := h.once c hc
      rw [hq, hphase] at hc
      cases hc
    rw [hother _ hq]
    exact h.once c hc

omit [DecidableEq Q] [DecidableEq K] in
lemma replay_append (l : List (Commit Q W ρ)) (c : Commit Q W ρ) :
    replay T st (l ++ [c]) = T.applyAll c.writes (replay T st l) := by
  simp [replay]

omit [DecidableEq Q] in
lemma wrote_append (l l' : List (Commit Q W ρ)) (k : K) :
    wrote T (l ++ l') k = (wrote T l k || wrote T l' k) := by
  simp [wrote]

omit [DecidableEq Q] in
/-- Two transactions that have both locked a row are one. -/
lemma LiveInv.exclusive {log : List (Commit Q W ρ)} {owner : K → Option Q} {q' : Q}
    (h : LiveInv T post st log owner q t) (h' : LiveInv T post st log owner q' t') {k : K}
    (hk : k ∈ t.locks) (hk' : k ∈ t'.locks) : q = q' :=
  Option.some.inj ((h.locks k hk).1.symm.trans (h'.locks k hk').1)

omit [DecidableEq Q] in
/-- The commit of another transaction leaves the rows of this one alone. -/
lemma LiveInv.committed {log : List (Commit Q W ρ)} {owner owner' : K → Option Q} {q' : Q}
    (h : LiveInv T post st log owner q t) (h' : LiveInv T post st log owner q' t') (hne : q ≠ q')
    (ho : ∀ k, owner k = some q → owner' k = some q) (r : ρ) :
    LiveInv T post st (log ++ [⟨q', t'.writes, r⟩]) owner' q t := by
  refine ⟨?_, ?_, h.writes, fun k hk => ⟨ho k (h.locks k hk).1, ?_⟩⟩
  · rw [List.length_append]
    have := h.snap
    omega
  · rw [List.take_append_of_le_length h.snap]
    exact h.wp
  · rw [List.drop_append_of_le_length h.snap, wrote_append, (h.locks k hk).2, Bool.false_or, ← Bool.not_eq_true]
    intro hw
    simp only [wrote, List.any_cons, List.any_nil, Bool.or_false, List.any_eq_true, decide_eq_true_eq] at hw
    obtain ⟨w, hw, rfl⟩ := hw
    exact hne (h.exclusive h' hk (h'.writes w hw))

omit [DecidableEq Q] in
/-- One more committed transaction. -/
lemma justified_append {log : List (Commit Q W ρ)} {c : Commit Q W ρ} (hc : Justified T post st log c)
    (h : ∀ before c after, log = before ++ c :: after → Justified T post st before c) :
    ∀ before c' after, log ++ [c] = before ++ c' :: after → Justified T post st before c' := by
  intro before c' after he
  rcases List.eq_nil_or_concat after with rfl | ⟨after', c₁, rfl⟩
  · obtain ⟨rfl, hlast⟩ := List.append_inj' he rfl
    obtain rfl := List.singleton_inj.1 hlast
    exact hc
  · have he' : log ++ [c] = (before ++ c' :: after') ++ [c₁] := by
      rw [List.append_assoc, List.cons_append]
      simpa using he
    exact h before c' after' (List.append_inj' he' rfl).1

/-- **A request commits.** -/
lemma Inv.commit (h : Inv T post st s) (hphase : s.phase q = .live t) {r : ρ} (hrest : t.rest = .done r)
    (hvalid : T.valid (T.applyAll t.writes s.store) = true) :
    Inv T post st
      { (s.release q).set q (.ended r) with
        store := T.applyAll t.writes s.store
        log := s.log ++ [⟨q, t.writes, r⟩] } := by
  have ht := h.live q t hphase
  have hself : ((s.release q).set q (.ended r)).phase q = .ended r := set_phase_self _
  have hother : ∀ q', q' ≠ q → ((s.release q).set q (.ended r)).phase q' = s.phase q' :=
    fun q' hne => set_phase_ne _ hne
  have hreq : ∀ c ∈ s.log, c.req ≠ q := by
    intro c hc hq
    have hc := h.once c hc
    rw [hq, hphase] at hc
    cases hc
  have hcommit : Justified T post st s.log ⟨q, t.writes, r⟩ := by
    have hwp := ht.wp
    rw [hrest] at hwp
    exact ⟨t.snap, t.locks, hwp, fun k hk => (ht.locks k hk).2⟩
  refine ⟨?_, hvalid, fun q' u hu => ?_, justified_append hcommit h.log, fun q' r' hr => ?_, fun c hc => ?_, ?_⟩
  · show _ = replay T st (s.log ++ [⟨q, t.writes, r⟩])
    rw [replay_append, ← h.store]
  · have hq : q' ≠ q := by
      rintro rfl
      rw [show _ = _ from hself] at hu
      cases hu
    have hu' : LiveInv T post st s.log s.owner q' u := h.live q' u (by rw [← hother q' hq]; exact hu)
    exact hu'.committed ht hq (fun k ho => release_owner hq ho) r
  · by_cases hq : q' = q
    · subst hq
      obtain rfl := Phase.ended.inj (hself.symm.trans hr)
      exact ⟨_, List.mem_append_right _ List.mem_cons_self, rfl, rfl⟩
    · obtain ⟨c, hc, he⟩ := h.ended q' r' (by rw [← hother q' hq]; exact hr)
      exact ⟨c, List.mem_append_left _ hc, he⟩
  · rcases List.mem_append.1 hc with hc | hc
    · exact (hother _ (hreq c hc)).trans (h.once c hc)
    · obtain rfl := List.mem_singleton.1 hc
      exact hself
  · have hn : ((s.log ++ [(⟨q, t.writes, r⟩ : Commit Q W ρ)]).map (·.req)).Nodup :=
      nodup_key_append h.nodup fun c hc => hreq c hc
    exact hn

/-- A row is locked, or locked and written: the locks of a transaction with one more. -/
lemma LiveInv.locked (h : LiveInv T post st s.log s.owner q t) {k : K} (hk : s.canLock T q t k = true) :
    ∀ k' ∈ k :: t.locks, (s.own q k).owner k' = some q ∧ wrote T (s.log.drop t.snap) k' = false := by
  obtain ⟨hfree, hclean⟩ := canLock_iff.1 hk
  intro k' hk'
  rcases List.mem_cons.1 hk' with rfl | hk'
  · exact ⟨if_pos rfl, hclean⟩
  · obtain ⟨ho, hw⟩ := h.locks k' hk'
    exact ⟨own_owner hfree ho, hw⟩

/-- **A request takes the next step** of its transaction. -/
lemma Inv.advance (h : Inv T post st s) (hphase : s.phase q = .live t)
    (hs : Locking.advance T s q t = some s') : Inv T post st s' := by
  have ht := h.live q t hphase
  have hw := ht.wp
  have hne : ∀ r, s.phase q ≠ .ended r := by
    intro r hr
    rw [hphase] at hr
    cases hr
  unfold Locking.advance at hs
  cases hr : t.rest with
  | read f =>
    rw [hr] at hs hw
    obtain rfl := Option.some.inj hs
    exact h.moved (q := q) hne rfl rfl (fun _ _ ho => ho) rfl ⟨ht.snap, hw, ht.writes, ht.locks⟩
  | draw f =>
    rw [hr] at hs hw
    obtain rfl := Option.some.inj hs
    exact h.moved (q := q) hne rfl rfl (fun _ _ ho => ho) rfl ⟨ht.snap, hw s.seq, ht.writes, ht.locks⟩
  | lock k rest =>
    rw [hr] at hs hw
    simp only at hs
    split_ifs at hs with hk
    obtain rfl := Option.some.inj hs
    refine h.moved (q := q) hne rfl rfl (fun _ _ ho => own_owner (canLock_iff.1 hk).1 ho) rfl ?_
    exact ⟨ht.snap, hw, fun w hmem => List.mem_cons_of_mem _ (ht.writes w hmem), ht.locked hk⟩
  | write w rest =>
    rw [hr] at hs hw
    simp only at hs
    split_ifs at hs with hk
    obtain rfl := Option.some.inj hs
    refine h.moved (q := q) hne rfl rfl (fun _ _ ho => own_owner (canLock_iff.1 hk).1 ho) rfl ?_
    refine ⟨ht.snap, hw, fun w' hmem => ?_, ht.locked hk⟩
    rcases List.mem_append.1 hmem with hmem | hmem
    · exact List.mem_cons_of_mem _ (ht.writes w' hmem)
    · rw [List.mem_singleton.1 hmem]
      exact List.mem_cons_self
  | done r =>
    rw [hr] at hs
    simp only at hs
    split_ifs at hs with hvalid
    obtain rfl := Option.some.inj hs
    exact h.commit hphase hr hvalid

/-- **The invariant holds** in every run, when every program guarantees what it should on tables that meet the
constraints. -/
theorem inv_reachable (hprog : ∀ q e st, T.valid st = true → (prog q e).wp T (post q) st st [] [])
    (hst : T.valid st = true) (h : (system T prog st).Reachable s) : Inv T post st s := by
  refine h.inv (fun s h0 => ?_) fun s m s' _ hi hs => ?_
  · refine ⟨?_, ?_, fun q t ht => ?_, fun before c after he => ?_, fun q r hr => ?_, ?_, ?_⟩
    · rw [h0.store, h0.log]
      rfl
    · rw [h0.store]
      exact hst
    · rw [h0.phase] at ht
      cases ht
    · rw [h0.log] at he
      simp at he
    · rw [h0.phase] at hr
      cases hr
    · simp [h0.log]
    · simp [h0.log]
  · replace hs : move T s prog m = some s' := hs
    unfold move at hs
    cases m with
    | start q e =>
      simp only at hs
      split at hs
      · rename_i hq
        obtain rfl := Option.some.inj hs
        exact hi.start hq (hprog q e)
      · cases hs
    | go q =>
      simp only at hs
      split at hs
      · rename_i t hq
        exact hi.advance hq hs
      · cases hs
    | abort q =>
      simp only at hs
      split at hs
      · rename_i t hq
        obtain rfl := Option.some.inj hs
        exact hi.abort hq
      · cases hs

omit [DecidableEq Q] in
/-- What no write takes away, and a request has found at its end, holds from then on. -/
lemma Inv.ended_kept {I : S → Prop} (hI : ∀ w st, I st → I (T.apply w st))
    {s : State Q S K W ρ} (h : Inv T post st s) {q : Q} {r : ρ} (hr : s.phase q = .ended r)
    (hpost : ∀ st locks ws, post q st locks ws r → I st) : I s.store := by
  have hall : ∀ ws st, I st → I (T.applyAll ws st) := by
    intro ws
    induction ws with
    | nil => exact fun st h => h
    | cons w ws ih => exact fun st h => ih _ (hI w st h)
  have hreplay : ∀ (l : List (Commit Q W ρ)) st, I st → I (replay T st l) := by
    intro l
    induction l with
    | nil => exact fun st h => h
    | cons c l ih => exact fun st h => ih _ (hall c.writes st h)
  obtain ⟨c, hc, rfl, rfl⟩ := h.ended q r hr
  obtain ⟨before, after, he⟩ := List.append_of_mem hc
  obtain ⟨n, locks, hp, -⟩ := h.log before c after he
  have hsplit : s.log = before.take n ++ (before.drop n ++ c :: after) := by
    rw [← List.append_assoc, List.take_append_drop, he]
  rw [h.store, hsplit]
  unfold replay
  rw [List.foldl_append]
  exact hreplay _ _ (hpost _ _ _ hp)

end Invariant

/-! ### Rows that are marked once -/

section Marks

/-- A mark on the rows that some writes set and none takes away; a write of another row leaves it alone. -/
structure Marks (T : Tables S K W) (mark : S → K → Option Bool) (sets : W → K → Prop) : Prop where
  frame : ∀ w st k, T.key w ≠ k → mark (T.apply w st) k = mark st k
  kept : ∀ w st k b, mark st k = some b → ∃ b', mark (T.apply w st) k = some b' ∧ (b = true → b' = true)
  set : ∀ w st k b, sets w k → mark st k = some b → mark (T.apply w st) k = some true

variable {T : Tables S K W} {mark : S → K → Option Bool} {sets : W → K → Prop}
  {post : Q → S → List K → List W → ρ → Prop} {st : S} {k : K}

omit [DecidableEq K] in
lemma Marks.applyAll_kept (hm : Marks T mark sets) {b : Bool} (ws : List W) (h : mark st k = some b) :
    ∃ b', mark (T.applyAll ws st) k = some b' ∧ (b = true → b' = true) := by
  induction ws generalizing st b with
  | nil => exact ⟨b, h, id⟩
  | cons w ws ih =>
    obtain ⟨b₁, h₁, hb₁⟩ := hm.kept w st k b h
    obtain ⟨b₂, h₂, hb₂⟩ := ih h₁
    exact ⟨b₂, h₂, fun hb => hb₂ (hb₁ hb)⟩

omit [DecidableEq K] in
lemma Marks.applyAll_true (hm : Marks T mark sets) (ws : List W) (h : mark st k = some true) :
    mark (T.applyAll ws st) k = some true := by
  obtain ⟨b, hb, hb'⟩ := hm.applyAll_kept ws h
  rw [hb, hb' rfl]

omit [DecidableEq K] in
lemma Marks.applyAll_set (hm : Marks T mark sets) {b : Bool} {w : W} {ws : List W} (hw : w ∈ ws) (hs : sets w k)
    (h : mark st k = some b) : mark (T.applyAll ws st) k = some true := by
  induction ws generalizing st b with
  | nil => cases hw
  | cons w' ws ih =>
    rcases List.mem_cons.1 hw with rfl | hw
    · exact hm.applyAll_true ws (hm.set w st k b hs h)
    · obtain ⟨b', hb', -⟩ := hm.kept w' st k b h
      exact ih hw hb'

omit [DecidableEq K] in
lemma Marks.applyAll_frame (hm : Marks T mark sets) {ws : List W} (h : ∀ w ∈ ws, T.key w ≠ k) :
    mark (T.applyAll ws st) k = mark st k := by
  induction ws generalizing st with
  | nil => rfl
  | cons w ws ih =>
    have hrest : mark (T.applyAll ws (T.apply w st)) k = mark (T.apply w st) k :=
      ih fun w' hw' => h w' (List.mem_cons_of_mem _ hw')
    exact hrest.trans (hm.frame w st k (h w List.mem_cons_self))

omit [DecidableEq Q] in
/-- A row that nobody has written has the mark that it had. -/
lemma Marks.replay_frame (hm : Marks T mark sets) {l : List (Commit Q W ρ)} (h : wrote T l k = false) :
    mark (replay T st l) k = mark st k := by
  induction l generalizing st with
  | nil => rfl
  | cons c l ih =>
    have hc : ∀ w ∈ c.writes, T.key w ≠ k := by
      intro w hw he
      have := List.any_eq_false.1 h c List.mem_cons_self
      exact this (List.any_eq_true.2 ⟨w, hw, by simpa using he⟩)
    have hl : wrote T l k = false := by
      unfold wrote at h ⊢
      rw [List.any_cons, Bool.or_eq_false_iff] at h
      exact h.2
    have hrest : mark (replay T (T.applyAll c.writes st) l) k = mark (T.applyAll c.writes st) k := ih hl
    exact hrest.trans (hm.applyAll_frame hc)

omit [DecidableEq Q] [DecidableEq K] in
/-- A row that is marked stays so. -/
lemma Marks.replay_true (hm : Marks T mark sets) (l : List (Commit Q W ρ)) (h : mark st k = some true) :
    mark (replay T st l) k = some true := by
  induction l generalizing st with
  | nil => exact h
  | cons c l ih => exact ih (hm.applyAll_true c.writes h)

omit [DecidableEq Q] in
/-- The mark that a committed transaction has found is that of the tables that it was committed to. -/
lemma Justified.mark_eq (hm : Marks T mark sets) {before : List (Commit Q W ρ)} {n : ℕ}
    (hclean : wrote T (before.drop n) k = false) :
    mark (replay T st before) k = mark (replay T st (before.take n)) k := by
  have hsplit : replay T st before = replay T (replay T st (before.take n)) (before.drop n) := by
    unfold replay
    rw [← List.foldl_append, List.take_append_drop]
  rw [hsplit]
  exact hm.replay_frame hclean

/-- What holds of any two elements in their order holds pairwise. -/
lemma pairwise_of_split {α : Type} {R : α → α → Prop} {l : List α}
    (h : ∀ a b c x y, l = a ++ x :: (b ++ y :: c) → R x y) : l.Pairwise R := by
  induction l with
  | nil => exact List.Pairwise.nil
  | cons x l ih =>
    refine List.pairwise_cons.2 ⟨fun y hy => ?_, ih fun a b c x' y he => ?_⟩
    · obtain ⟨b, c, rfl⟩ := List.append_of_mem hy
      exact h [] b c x y rfl
    · exact h (x :: a) b c x' y (by rw [he, List.cons_append])

variable {claims : ρ → K → Prop} {s : State Q S K W ρ}
  (hpost : ∀ q st locks ws r, post q st locks ws r → ∀ k, claims r k →
    k ∈ locks ∧ mark st k = some false ∧ ∃ w ∈ ws, sets w k)

include hpost

omit [DecidableEq Q] in
/-- What a committed transaction claims had no mark in the tables that it was committed to, and got one. -/
lemma Inv.found (hm : Marks T mark sets) (h : Inv T post st s) {before after : List (Commit Q W ρ)}
    {c : Commit Q W ρ} (he : s.log = before ++ c :: after) (hk : claims c.reply k) :
    mark (replay T st before) k = some false ∧ mark (replay T st (before ++ [c])) k = some true := by
  obtain ⟨n, locks, hp, hclean⟩ := h.log before c after he
  obtain ⟨hlock, hmark, w, hw, hset⟩ := hpost _ _ _ _ _ hp k hk
  have hfalse : mark (replay T st before) k = some false := by
    rw [Justified.mark_eq hm (hclean k hlock)]
    exact hmark
  refine ⟨hfalse, ?_⟩
  rw [replay_append]
  exact hm.applyAll_set hw hset hfalse

omit [DecidableEq Q] in
/-- What a committed transaction claims has the mark from then on. -/
lemma Inv.marked (hm : Marks T mark sets) (h : Inv T post st s) {before after : List (Commit Q W ρ)}
    {c : Commit Q W ρ} (he : s.log = before ++ c :: after) (hk : claims c.reply k) (mid : List (Commit Q W ρ)) :
    mark (replay T st (before ++ c :: mid)) k = some true := by
  have hsplit : before ++ c :: mid = (before ++ [c]) ++ mid := by simp
  rw [hsplit]
  unfold replay
  rw [List.foldl_append]
  exact hm.replay_true mid (h.found hpost hm he hk).2

omit [DecidableEq Q] in
/-- **A row is marked once**: when a transaction that claims a row has locked it, found it without the mark, and
sets it, no two committed transactions claim the same row. -/
theorem Inv.pairwise (hm : Marks T mark sets) (h : Inv T post st s) :
    s.log.Pairwise fun c c' => ∀ k, claims c.reply k → ¬ claims c'.reply k := by
  refine pairwise_of_split fun before mid after c c' he k hk hk' => ?_
  have he' : s.log = (before ++ c :: mid) ++ c' :: after := by rw [he, List.append_assoc, List.cons_append]
  have htrue : mark (replay T st (before ++ c :: mid)) k = some true := h.marked hpost hm he hk mid
  rw [(h.found hpost hm he' hk').1] at htrue
  cases htrue

omit hpost

/-- Two requests that have ended with claims of the same row are one. -/
lemma Inv.ended_unique (h : Inv T post st s)
    (hp : s.log.Pairwise fun c c' => ∀ k, claims c.reply k → ¬ claims c'.reply k) {q q' : Q} {r r' : ρ}
    (hr : s.phase q = .ended r) (hr' : s.phase q' = .ended r') (hk : claims r k) (hk' : claims r' k) : q = q' := by
  obtain ⟨c, hc, rfl, rfl⟩ := h.ended q r hr
  obtain ⟨c', hc', rfl, rfl⟩ := h.ended q' r' hr'
  by_contra hne
  have hsymm : Std.Symm fun c c' : Commit Q W ρ => ∀ k, claims c.reply k → ¬ claims c'.reply k :=
    ⟨fun _ _ h k hk hk' => h k hk' hk⟩
  exact hp.forall hc hc' (fun he => hne (by rw [he])) k hk hk'

end Marks

/-! ### One request by itself -/

section Solo

variable (T : Tables S K W)

/-- What a transaction does to the tables when it is alone, and its reply; `n` is the next number. -/
def Prog.solo : Prog S K W ρ → S → ℕ → S × ρ
  | .read f, st, n => (f st).solo st n
  | .draw f, st, n => (f n).solo st (n + 1)
  | .lock _ rest, st, n => rest.solo st n
  | .write w rest, st, n => rest.solo (T.apply w st) n
  | .done r, st, _ => (st, r)

variable {T} {prog : Q → E → Prog S K W ρ} {st : S} {q : Q} {s s' : State Q S K W ρ} {t : Live S K W ρ}

/-- A transaction that nobody else stands in the way of. -/
structure Alone (T : Tables S K W) (s : State Q S K W ρ) (q : Q) (t : Live S K W ρ) : Prop where
  phase : s.phase q = .live t
  snap : t.snap = s.log.length
  view : t.view = T.applyAll t.writes s.store
  free : ∀ k, s.owner k = none ∨ s.owner k = some q

omit [DecidableEq Q] in
lemma own_free (hfree : ∀ k, s.owner k = none ∨ s.owner k = some q) (k k' : K) :
    (s.own q k).owner k' = none ∨ (s.own q k).owner k' = some q := by
  unfold State.own
  by_cases hk : k' = k
  · exact Or.inr (if_pos hk)
  · simpa [hk] using hfree k'

lemma Alone.canLock (h : Alone T s q t) (k : K) : s.canLock T q t k = true := by
  rw [canLock_iff, h.snap, List.drop_length]
  exact ⟨h.free k, rfl⟩

/-- A run behind the next step of the transaction is one of the transaction. -/
lemma Alone.cons (h : Alone T s q t) {s₁ : State Q S K W ρ} (hs : Locking.advance T s q t = some s₁)
    {P : State Q S K W ρ → Prop} (hrun : ∃ ms s', (system T prog st).Run s₁ ms s' ∧ P s') :
    ∃ ms s', (system T prog st).Run s ms s' ∧ P s' := by
  have hstep : (system T prog st).step s (.go q) s₁ := by
    show move T s prog (.go q) = some s₁
    unfold move
    simp only [h.phase]
    exact hs
  obtain ⟨ms, s', hrun, hend⟩ := hrun
  exact ⟨_, s', .cons hstep hrun, hend⟩

/-- **A transaction by itself** runs to its end. -/
lemma Alone.run (h : Alone T s q t) (hvalid : T.valid (t.rest.solo T t.view s.seq).1 = true) :
    ∃ ms s', (system T prog st).Run s ms s' ∧ s'.store = (t.rest.solo T t.view s.seq).1 ∧
      s'.phase q = .ended (t.rest.solo T t.view s.seq).2 := by
  induction hp : t.rest generalizing s t with
  | read f ih =>
    rw [hp] at hvalid
    have hstep : Locking.advance T s q t = some (s.set q (.live { t with rest := f t.view })) := by
      unfold Locking.advance
      rw [hp]
    have hnext : Alone T (s.set q (.live { t with rest := f t.view })) q { t with rest := f t.view } :=
      ⟨set_phase_self _, h.snap, h.view, h.free⟩
    have hrest := ih t.view hnext hvalid rfl
    exact h.cons hstep hrest
  | draw f ih =>
    rw [hp] at hvalid
    have hstep : Locking.advance T s q t =
        some ({ s with seq := s.seq + 1 }.set q (.live { t with rest := f s.seq })) := by
      unfold Locking.advance
      rw [hp]
    have hnext : Alone T ({ s with seq := s.seq + 1 }.set q (.live { t with rest := f s.seq })) q
        { t with rest := f s.seq } := ⟨set_phase_self _, h.snap, h.view, h.free⟩
    have hrest := ih s.seq hnext hvalid rfl
    exact h.cons hstep hrest
  | lock k rest ih =>
    rw [hp] at hvalid
    have hstep : Locking.advance T s q t =
        some ((s.own q k).set q (.live { t with locks := k :: t.locks, rest })) := by
      unfold Locking.advance
      rw [hp]
      exact if_pos (h.canLock k)
    have hnext : Alone T ((s.own q k).set q (.live { t with locks := k :: t.locks, rest })) q
        { t with locks := k :: t.locks, rest } := ⟨set_phase_self _, h.snap, h.view, own_free h.free k⟩
    have hrest := ih hnext hvalid rfl
    exact h.cons hstep hrest
  | write w rest ih =>
    rw [hp] at hvalid
    let t' : Live S K W ρ :=
      { t with
        view := T.apply w t.view
        locks := T.key w :: t.locks
        writes := t.writes ++ [w]
        rest }
    have hstep : Locking.advance T s q t = some ((s.own q (T.key w)).set q (.live t')) := by
      unfold Locking.advance
      rw [hp]
      exact if_pos (h.canLock _)
    have hview : t'.view = T.applyAll t'.writes s.store := by
      show T.apply w t.view = T.applyAll (t.writes ++ [w]) s.store
      rw [h.view]
      simp [Tables.applyAll]
    have hnext : Alone T ((s.own q (T.key w)).set q (.live t')) q t' :=
      ⟨set_phase_self _, h.snap, hview, own_free h.free _⟩
    have hrest := ih hnext hvalid rfl
    exact h.cons hstep hrest
  | done r =>
    rw [hp] at hvalid
    have hstore : T.applyAll t.writes s.store = t.view := h.view.symm
    have hstep : Locking.advance T s q t = some { (s.release q).set q (.ended r) with
        store := T.applyAll t.writes s.store
        log := s.log ++ [⟨q, t.writes, r⟩] } := by
      unfold Locking.advance
      rw [hp]
      simp only [hstore]
      exact if_pos hvalid
    exact h.cons hstep ⟨_, _, .nil _, hstore, set_phase_self _⟩

/-- **A request by itself**: when nobody has a row, a request that starts can end as its transaction ends alone. -/
theorem alone_run (hphase : s.phase q = .idle) (howner : ∀ k, s.owner k = none) (e : E)
    (hvalid : T.valid ((prog q e).solo T s.store s.seq).1 = true) :
    ∃ ms s', (system T prog st).Run s ms s' ∧ s'.store = ((prog q e).solo T s.store s.seq).1 ∧
      s'.phase q = .ended ((prog q e).solo T s.store s.seq).2 := by
  have hstep : (system T prog st).step s (.start q e)
      (s.set q (.live ⟨s.log.length, s.store, [], [], prog q e⟩)) := by
    show move T s prog (.start q e) = _
    unfold move
    simp only [hphase]
  have hnext : Alone T (s.set q (.live ⟨s.log.length, s.store, [], [], prog q e⟩)) q
      ⟨s.log.length, s.store, [], [], prog q e⟩ := ⟨set_phase_self _, rfl, rfl, fun k => Or.inl (howner k)⟩
  obtain ⟨ms, s', hrun, hend⟩ := hnext.run hvalid
  exact ⟨_, s', .cons hstep hrun, hend⟩

end Solo

end AdvMcp.Lib.Locking
