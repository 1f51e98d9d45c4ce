import AdvMcp.OAuth.Gc

/-!
# What the garbage collection leaves usable

Access and refresh tokens stay usable with the client they belong to (`token_usable_after_gc`).  An
unused code stays usable if its client row is kept; the loop over the clients asks for a live token
only, so a pending code of an old registered client is deleted with it.
-/

namespace AdvMcp.OAuth

open AdvMcp.Lib

variable {σ : Site} {s : State}

/-- The clients of the live tokens. -/
def liveClients (st : Store) (now : Time) : List ℕ := (liveTokens st now).map (·.client)

/-- The client rows with the id `k` are kept. -/
def ClientKept (st st' : Store) (k : ℕ) : Prop := ∀ cl ∈ st.clients, cl.id = k → cl ∈ st'.clients

section Live

variable {st : Store} {now : Time}

lemma mem_staleIds {k : ℕ} {live : List ℕ} :
    k ∈ staleIds st now live ↔ ∃ cl ∈ st.clients, isStaleClient now live cl = true ∧ cl.id = k := by
  unfold staleIds
  rw [List.mem_map]
  simp only [List.mem_filter, and_assoc]

/-- A client with a live token is not stale. -/
lemma live_not_stale {t : TokenRow} (ht : t ∈ st.tokens) (hl : isLive now t = true) :
    t.client ∉ staleIds st now (liveClients st now) := by
  intro hm
  obtain ⟨cl, -, hs, he⟩ := mem_staleIds.1 hm
  have hlive : cl.id ∈ liveClients st now := by
    rw [he]
    exact List.mem_map_of_mem (List.mem_filter.2 ⟨ht, hl⟩)
  unfold isStaleClient at hs
  simp [hlive] at hs

lemma live_not_spent {t : TokenRow} (hl : isLive now t = true) : isSpentToken now t = false := by
  unfold isLive at hl
  unfold isSpentToken
  simp only [Bool.and_eq_true, Bool.or_eq_true, decide_eq_true_eq] at hl
  rcases hl.2 with h | h
  · simp [Int.lt_asymm h]
  · cases hd : t.refreshExpiresAt with
    | none => simp [hd, after] at h
    | some d =>
      have hlt : now < d := by simpa [hd, after] using h
      simp [before, Int.lt_asymm hlt]

lemma live_kept {t : TokenRow} (ht : t ∈ st.tokens) (hl : isLive now t = true) :
    keepsToken st now t = true := by
  unfold keepsToken
  rw [live_not_spent hl]
  simpa [liveClients] using live_not_stale ht hl

lemma live_client_kept (h : Keyed st) {t : TokenRow} (ht : t ∈ st.tokens)
    (hl : isLive now t = true) : ClientKept st (gcOauth st now).1 t.client := by
  intro cl hcl hid
  rw [gcOauth_eq h]
  refine List.mem_filter.2 ⟨hcl, ?_⟩
  by_contra hk
  refine live_not_stale ht hl (mem_staleIds.2 ⟨cl, hcl, ?_, hid⟩)
  unfold keepsClient at hk
  simpa [liveClients] using hk

/-- A usable token is found after the collection too. -/
lemma token_found (h : Keyed st) {p : TokenRow → Bool} {t : TokenRow}
    (hf : st.tokens.find? p = some t) (hl : isLive now t = true) :
    (gcOauth st now).1.tokens.find? p = some t ∧ ClientKept st (gcOauth st now).1 t.client := by
  have ht := List.mem_of_find?_eq_some hf
  refine ⟨?_, live_client_kept h ht hl⟩
  rw [gcOauth_eq h]
  exact find?_filter_of_find? hf (live_kept ht hl)

end Live

/-- **Tokens stay usable.** -/
theorem token_usable_after_gc {st : Store} {now : Time} (h : Keyed st) :
    (∀ token t, getValidAccessToken σ st now token = some t →
      getValidAccessToken σ (gcOauth st now).1 now token = some t ∧
        ClientKept st (gcOauth st now).1 t.client) ∧
    ∀ token t, getValidRefreshToken σ st now token = some t →
      getValidRefreshToken σ (gcOauth st now).1 now token = some t ∧
        ClientKept st (gcOauth st now).1 t.client := by
  constructor
  · intro token t hv
    obtain ⟨-, -, hr, he⟩ := getValidAccessToken_spec hv
    exact token_found h hv (by simp [isLive, hr, he])
  · intro token t hv
    obtain ⟨-, -, hr, he⟩ := getValidRefreshToken_spec hv
    exact token_found h hv (by simp [isLive, hr, he])

/-- **A pending code stays usable if its client is kept.** -/
theorem code_usable_after_gc {st : Store} {now : Time} (h : Keyed st) {code : String} {client : ℕ}
    {c : CodeRow} (hv : getValidCode σ st now code client = some c) :
    (getValidCode σ (gcOauth st now).1 now code client = some c ∧
      ClientKept st (gcOauth st now).1 c.client) ↔
    ∀ cl ∈ st.clients, cl.id = c.client → isStaleClient now (liveClients st now) cl = false := by
  obtain ⟨hc, -, -, -, he⟩ := getValidCode_spec hv
  constructor
  · rintro ⟨-, hk⟩ cl hcl hid
    have hm := hk cl hcl hid
    rw [gcOauth_eq h] at hm
    have := (List.mem_filter.1 hm).2
    unfold keepsClient at this
    simpa [liveClients] using this
  · intro hs
    have hstale : c.client ∉ staleIds st now (liveClients st now) := by
      intro hm
      obtain ⟨cl, hcl, hst, hid⟩ := mem_staleIds.1 hm
      rw [hs cl hcl hid] at hst
      cases hst
    have hexp : ¬ c.expiresAt < now := Int.lt_asymm he
    rw [gcOauth_eq h]
    refine ⟨find?_filter_of_find? hv ?_, fun cl hcl hid => List.mem_filter.2 ⟨hcl, ?_⟩⟩
    · unfold keepsCode isSpentCode
      simpa [hexp, liveClients] using hstale
    · unfold keepsClient
      simpa [liveClients] using hs cl hcl hid

/-- **What the collection leaves usable**, in every reachable state and at any time: every usable
token, with its client; and a usable code with its client exactly when no client row of its client
is stale, that is, registered more than thirty days ago and without a live token. -/
theorem usable_after_gc (hσ : Function.Injective σ.sha256Hex) (hr : (machine σ).Reachable s)
    (now : Time) :
    (∀ code client c, getValidCode σ s.store now code client = some c →
      ((getValidCode σ (gcOauth s.store now).1 now code client = some c ∧
        ClientKept s.store (gcOauth s.store now).1 c.client) ↔
      ∀ cl ∈ s.store.clients, cl.id = c.client →
        isStaleClient now (liveClients s.store now) cl = false)) ∧
    (∀ token t, getValidAccessToken σ s.store now token = some t →
      getValidAccessToken σ (gcOauth s.store now).1 now token = some t ∧
        ClientKept s.store (gcOauth s.store now).1 t.client) ∧
    ∀ token t, getValidRefreshToken σ s.store now token = some t →
      getValidRefreshToken σ (gcOauth s.store now).1 now token = some t ∧
        ClientKept s.store (gcOauth s.store now).1 t.client := by
  have h := reachable_keyed hσ hr
  exact ⟨fun _ _ _ hv => code_usable_after_gc h hv, token_usable_after_gc h⟩

/-- A client that has exchanged its code keeps its token. -/
theorem usable_after_gc_exchanged :
    getValidAccessToken sampleSite (gcOauth (sampleState "" "").store 1700000000).1 1700000000
      "At1xACCESS" = (sampleState "" "").store.tokens.head? := by
  obtain ⟨t, ht⟩ : ∃ t, (sampleState "" "").store.tokens.head? = some t ∧
      getValidAccessToken sampleSite (sampleState "" "").store 1700000000 "At1xACCESS" = some t :=
    ⟨_, rfl, by decide⟩
  rw [ht.1]
  exact ((usable_after_gc sampleSite_injective sampleState_reachable 1700000000).2.1 _ _ ht.2).1

/-- A client that registered 31 days ago and whose user has just signed in. -/
def pendingLogin : State :=
  [sampleRegister "", .tick 2678400, sampleAuthorize ""].foldl (step sampleSite) sampleInit

lemma pendingLogin_reachable : (machine sampleSite).Reachable pendingLogin :=
  reachable_foldl sampleInit_isInit (by decide)

/-- The pending code of that client is usable before the collection and gone after it. -/
theorem pending_code_deleted : (machine sampleSite).Reachable pendingLogin ∧
    (getValidCode sampleSite pendingLogin.store pendingLogin.now "Sq1xCODE" 1).isSome = true ∧
    getValidCode sampleSite (gcOauth pendingLogin.store pendingLogin.now).1 pendingLogin.now
      "Sq1xCODE" 1 = none := by
  refine ⟨pendingLogin_reachable, by decide, ?_⟩
  rw [gcOauth_eq (reachable_keyed sampleSite_injective pendingLogin_reachable)]
  decide

end AdvMcp.OAuth
