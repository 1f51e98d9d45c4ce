import AdvMcp.Lib.BatchLoop
import AdvMcp.OAuth.Inv

/-!
# What `_gc_oauth` deletes

The batched loops delete what one pass over each table would: `gcOauth_eq`.

* an expired code goes, unless it is used and of a family with a live token;
* a token goes when its access expiry and its refresh expiry are past;
* a registered client goes when it is old and has no live token, and takes its codes and its tokens
  along.
-/

namespace AdvMcp.OAuth

open AdvMcp.Lib

variable {σ : Site} {s : State}

/-! ### The search of the first loop -/

variable {st : Store} {now : Time} {last : ℕ}

lemma expiredCodes_eq_past (st : Store) (now : Time) (last : ℕ) :
    expiredCodes st now last = past CodeRow.id (fun c => decide (c.expiresAt < now)) last st.codes := rfl

lemma mem_expiredCodes {c : CodeRow} :
    c ∈ expiredCodes st now last ↔ c ∈ st.codes ∧ c.expiresAt < now ∧ last < c.id := by
  rw [expiredCodes_eq_past, mem_past, decide_eq_true_iff]

/-- A batch taken off the search leaves its rest, whatever rows of the batch are deleted. -/
lemma expiredCodes_rest (h : (st.codes.map (·.id)).Nodup) {b c : List CodeRow} {r : CodeRow}
    (hL : expiredCodes st now last = b ++ r :: c) (q : CodeRow → Bool) :
    expiredCodes (unlinkCodes st ((b ++ [r]).filter q)) now r.id = c := by
  rw [expiredCodes_eq_past] at hL ⊢
  have hsorted : (b ++ r :: c).Pairwise fun x y => x.id ≤ y.id := by rw [← hL]; exact past_sorted
  refine past_rest h hL fun x hx => ?_
  rcases List.mem_append.1 (List.mem_of_mem_filter hx) with hx | hx
  · exact (List.pairwise_append.1 hsorted).2.2 x hx r List.mem_cons_self
  · rw [List.mem_singleton.1 hx]

/-! ### The loops at one stroke -/

lemma unlinkCodes_nil (st : Store) : unlinkCodes st [] = st := by simp [unlinkCodes]

lemma unlinkTokens_nil (st : Store) : unlinkTokens st [] = st := by simp [unlinkTokens]

lemma unlinkClients_nil (st : Store) : unlinkClients st [] = st := by simp [unlinkClients]

lemma unlinkCodes_append (st : Store) (b c : List CodeRow) :
    unlinkCodes (unlinkCodes st b) c = unlinkCodes st (b ++ c) := by
  simp only [unlinkCodes, filter_notMem_append, List.map_append]

lemma unlinkTokens_append (st : Store) (b c : List TokenRow) :
    unlinkTokens (unlinkTokens st b) c = unlinkTokens st (b ++ c) := by
  simp only [unlinkTokens, filter_notMem_append, List.map_append]

lemma unlinkClients_append (st : Store) (b c : List ClientRow) :
    unlinkClients (unlinkClients st b) c = unlinkClients st (b ++ c) := by
  simp only [unlinkClients, filter_notMem_append, List.map_append]

/-- The expired codes that are deleted. -/
def isSpentCode (now : Time) (live : List String) (c : CodeRow) : Bool :=
  decide (c.expiresAt < now) && !isProtected live c

lemma mem_spentCodes (hp : ∀ c ∈ st.codes, 0 < c.id) (live : List String) (c : CodeRow) :
    c ∈ (expiredCodes st now 0).filter (fun c => !isProtected live c) ↔
      c ∈ st.codes ∧ isSpentCode now live c = true := by
  rw [List.mem_filter, mem_expiredCodes]
  unfold isSpentCode
  rw [Bool.and_eq_true, decide_eq_true_eq]
  exact ⟨fun ⟨⟨h1, h2, _⟩, h3⟩ => ⟨h1, h2, h3⟩, fun ⟨h1, h2, h3⟩ => ⟨⟨h1, h2, hp c h1⟩, h3⟩⟩

lemma gcCodes_eq (h : (st.codes.map (·.id)).Nodup) (hp : ∀ c ∈ st.codes, 0 < c.id)
    (live : List String) : (gcCodes st now live).1 =
      { st with codes := st.codes.filter fun c => !isSpentCode now live c } := by
  have hI : ∀ (s : Store) (last : ℕ) (b : List CodeRow) (r : CodeRow) (c : List CodeRow),
      (s.codes.map (·.id)).Nodup → expiredCodes s now last = b ++ r :: c →
      ((unlinkCodes s ((b ++ [r]).filter fun c => !isProtected live c)).codes.map (·.id)).Nodup ∧
        expiredCodes (unlinkCodes s ((b ++ [r]).filter fun c => !isProtected live c)) now r.id = c :=
    fun s last b r c hn hL => ⟨(List.filter_sublist.map _).nodup hn, expiredCodes_rest hn hL _⟩
  have hlen : (expiredCodes st now 0).length ≤ st.codes.length := by
    unfold expiredCodes
    rw [List.length_mergeSort]
    exact List.length_filter_le _ _
  have hsweep := sweep_eq (n := gcBatchSize) (by decide) unlinkCodes_nil unlinkCodes_append hI
    st.codes.length 0 st h hlen
  unfold gcCodes
  rw [hsweep]
  simp only [unlinkCodes, filter_notMem_eq h (mem_spentCodes hp live)]

lemma gcTokens_eq (h : (st.tokens.map (·.id)).Nodup) : (gcTokens st now).1 =
    { st with tokens := st.tokens.filter fun t => !isSpentToken now t } := by
  have hI : ∀ (s : Store) (b c : List TokenRow), (s.tokens.map (·.id)).Nodup →
      s.tokens.filter (isSpentToken now) = b ++ c → ((unlinkTokens s b).tokens.map (·.id)).Nodup ∧
        (unlinkTokens s b).tokens.filter (isSpentToken now) = c :=
    fun s b c hn hs => ⟨(List.filter_sublist.map _).nodup hn, filter_filter_notMem hn hs⟩
  have hdrain := drain_eq (n := gcBatchSize) (by decide) unlinkTokens_nil unlinkTokens_append hI
    st.tokens.length st h (List.length_filter_le _ _)
  unfold gcTokens
  rw [hdrain]
  simp only [unlinkTokens, filter_notMem_eq h fun _ => List.mem_filter]

/-- The ids of the clients that are deleted. -/
def staleIds (st : Store) (now : Time) (live : List ℕ) : List ℕ :=
  (st.clients.filter (isStaleClient now live)).map (·.id)

lemma gcClients_eq (h : (st.clients.map (·.id)).Nodup) (live : List ℕ) : (gcClients st now live).1 =
    { st with
      clients := st.clients.filter fun c => !isStaleClient now live c
      codes := st.codes.filter fun c => c.client ∉ staleIds st now live
      tokens := st.tokens.filter fun t => t.client ∉ staleIds st now live } := by
  have hI : ∀ (s : Store) (b c : List ClientRow), (s.clients.map (·.id)).Nodup →
      s.clients.filter (isStaleClient now live) = b ++ c →
      ((unlinkClients s b).clients.map (·.id)).Nodup ∧
        (unlinkClients s b).clients.filter (isStaleClient now live) = c :=
    fun s b c hn hs => ⟨(List.filter_sublist.map _).nodup hn, filter_filter_notMem hn hs⟩
  have hdrain := drain_eq (n := gcBatchSize) (by decide) unlinkClients_nil unlinkClients_append hI
    st.clients.length st h (List.length_filter_le _ _)
  unfold gcClients
  rw [hdrain]
  simp only [unlinkClients, filter_notMem_eq h fun _ => List.mem_filter]
  rfl

/-! ### The whole collection -/

/-- A code, a token, a client that `_gc_oauth` keeps. -/
def keepsCode (st : Store) (now : Time) (c : CodeRow) : Bool :=
  c.client ∉ staleIds st now ((liveTokens st now).map (·.client)) &&
    !isSpentCode now (liveFamilyIds st now) c

def keepsToken (st : Store) (now : Time) (t : TokenRow) : Bool :=
  t.client ∉ staleIds st now ((liveTokens st now).map (·.client)) && !isSpentToken now t

def keepsClient (st : Store) (now : Time) (c : ClientRow) : Bool :=
  !isStaleClient now ((liveTokens st now).map (·.client)) c

/-- The columns `id` are primary keys. -/
structure Keyed (st : Store) : Prop where
  clients : (st.clients.map (·.id)).Nodup
  codes : (st.codes.map (·.id)).Nodup
  tokens : (st.tokens.map (·.id)).Nodup
  codes_pos : ∀ c ∈ st.codes, 0 < c.id

/-- **The collection deletes at one stroke.** -/
theorem gcOauth_eq (h : Keyed st) : (gcOauth st now).1 =
    { st with
      clients := st.clients.filter (keepsClient st now)
      codes := st.codes.filter (keepsCode st now)
      tokens := st.tokens.filter (keepsToken st now) } := by
  unfold gcOauth
  simp only
  rw [gcCodes_eq h.codes h.codes_pos, gcTokens_eq, gcClients_eq]
  · simp only [List.filter_filter]
    rfl
  · exact h.clients
  · exact h.tokens

/-! ### Primary keys -/

lemma keyed_clients {s : State} {a : Action} (h : (s.store.clients.map (·.id)).Nodup)
    (hlt : ∀ c ∈ s.store.clients, c.id < s.store.nextId) :
    ((step σ s a).store.clients.map (·.id)).Nodup ∧
      ∀ c ∈ (step σ s a).store.clients, c.id < (step σ s a).store.nextId := by
  have hg := (step_grows (σ := σ) s a).nextId
  cases step_clients (σ := σ) s a with
  | same he =>
    rw [he]
    exact ⟨h, fun c hc => (hlt c hc).trans_le hg⟩
  | added c hid hn hcl _ _ =>
    rw [hcl, hn]
    refine ⟨nodup_key_append h fun c' hc' => ?_, fun c' hc' => ?_⟩
    · have hlt' := hlt c' hc'
      omega
    · rcases List.mem_append.1 hc' with hc' | hc'
      · have := hlt c' hc'
        omega
      · rw [List.mem_singleton.1 hc', hid]
        omega
  | switched ids b he =>
    have hactive : (setActive s.store ids b).clients.map (·.id) = s.store.clients.map (·.id) :=
      map_updateWhere ClientRow.id (by intro r; rfl)
    rw [he]
    refine ⟨by rw [hactive]; exact h, fun c hc => ?_⟩
    have hm : c.id ∈ s.store.clients.map (·.id) := by
      rw [← hactive]
      exact List.mem_map_of_mem hc
    obtain ⟨c₀, h0, hid⟩ := List.mem_map.1 hm
    exact hid ▸ hlt c₀ h0
  | collected he =>
    obtain ⟨hcl, -, -, hn⟩ := gcOauth_deletes s.store s.now
    rw [he, hn]
    exact ⟨(hcl.map _).nodup h, fun c hc => hlt c (hcl.subset hc)⟩

/-- The ids of the clients are distinct and have been given out. -/
lemma reachable_clients {s : State} (hr : (machine σ).Reachable s) :
    (s.store.clients.map (·.id)).Nodup ∧ ∀ c ∈ s.store.clients, c.id < s.store.nextId := by
  refine Sys.Reachable.inv (I := fun s => (s.store.clients.map (·.id)).Nodup ∧
    ∀ c ∈ s.store.clients, c.id < s.store.nextId) (fun s hs => ?_) ?_ hr
  · obtain ⟨-, -, -, -, -, h1, h2⟩ := show IsInit s from hs
    exact ⟨h1, h2⟩
  · rintro s a s' - ⟨h1, h2⟩ ⟨-, rfl⟩
    exact keyed_clients h1 h2

/-- **In every reachable state the ids are primary keys.** -/
theorem reachable_keyed {s : State} (hσ : Function.Injective σ.sha256Hex)
    (hr : (machine σ).Reachable s) : Keyed s.store := by
  have h := reachable_inv hσ hr
  exact ⟨(reachable_clients hr).1, h.codeIds, h.tokenIds, fun c hc => (h.codes c hc).id_pos⟩

end AdvMcp.OAuth
