import AdvMcp.OAuth.Family
import AdvMcp.OAuth.Usable

/-!
# Replay detection after the garbage collection

A used code whose family has a live token is never deleted, and its replay revokes the same tokens
as before (`code_replay_after_gc`).  A revoked token is deleted by its expiry alone, whatever its
family: the replay of its refresh token revokes the same tokens as before exactly when its row is
kept (`refresh_replay_after_gc`).
-/

namespace AdvMcp.OAuth

open AdvMcp.Lib

variable {σ : Site} {s : State} {now : Time}

/-- Among the tokens of `g`, `after` has revoked those that `before` has. -/
def SameRevocation (g before after : Store) : Prop :=
  after.tokens = before.tokens.filter fun t => t.id ∈ g.tokens.map (·.id)

/-- The family has a token that `_gc_oauth` counts as live. -/
def FamilyLive (st : Store) (now : Time) (f : String) : Prop :=
  ∃ t ∈ liveTokens st now, t.refreshFamilyId = f

/-! ### The state after the collection -/

lemma Inv.gc (h : Inv σ s) (now : Time) : Inv σ { s with store := (gcOauth s.store now).1 } := by
  obtain ⟨-, hc, ht, hn⟩ := gcOauth_deletes s.store now
  exact h.deleted ⟨fun _ hx => hx, hn.ge⟩ hc ht rfl

/-- The tokens that the collection keeps, told by their ids. -/
lemma mem_gc_ids (h : Keyed s.store) {t : TokenRow} (ht : t ∈ s.store.tokens) :
    t.id ∈ (gcOauth s.store now).1.tokens.map (·.id) ↔ t ∈ (gcOauth s.store now).1.tokens := by
  obtain ⟨-, -, hsub, -⟩ := gcOauth_deletes s.store now
  constructor
  · intro hm
    obtain ⟨t', ht', he⟩ := List.mem_map.1 hm
    rwa [← List.inj_on_of_nodup_map h.tokens (hsub.subset ht') ht he]
  · exact fun hm => List.mem_map_of_mem hm

/-- Revoking a family after the collection revokes the same tokens as before it. -/
lemma revokeFamily_gc (h : Keyed s.store) (f : String) :
    SameRevocation (gcOauth s.store now).1 (revokeFamily s.store f)
      (revokeFamily (gcOauth s.store now).1 f) := by
  have hkeep : (gcOauth s.store now).1.tokens =
      s.store.tokens.filter fun t => t.id ∈ (gcOauth s.store now).1.tokens.map (·.id) := by
    conv_lhs => rw [gcOauth_eq h]
    refine List.filter_congr fun t ht => ?_
    rw [Bool.eq_iff_iff, decide_eq_true_eq, mem_gc_ids h ht, gcOauth_eq h, List.mem_filter]
    exact ⟨fun hk => ⟨ht, hk⟩, fun hk => hk.2⟩
  unfold SameRevocation revokeFamily
  split_ifs
  · exact hkeep
  · rw [revoke_tokens, revoke_tokens, List.filter_map]
    conv_lhs => rw [hkeep]
    refine congrArg _ (List.filter_congr fun t _ => ?_)
    simp

/-! ### Codes -/

/-- A used code of a family with a live token is kept. -/
lemma usedCode_kept (h : Inv σ s) {c : CodeRow} (hc : c ∈ s.store.codes) (hu : c.used = true)
    (hl : FamilyLive s.store now c.refreshFamilyId) : keepsCode s.store now c = true := by
  obtain ⟨t, ht, hf⟩ := hl
  obtain ⟨hts, hlive⟩ := List.mem_filter.1 ht
  have hclient : c.client ∉ staleIds s.store now (liveClients s.store now) := by
    rw [← h.codeClient c hc hu t hts hf]
    exact live_not_stale hts hlive
  have hprot : isProtected (liveFamilyIds s.store now) c = true := by
    unfold isProtected
    have hm : c.refreshFamilyId ∈ liveFamilyIds s.store now := hf ▸ List.mem_map_of_mem ht
    simp [hu, ((h.codes c hc).family hu).1, hm]
  unfold keepsCode isSpentCode
  rw [hprot]
  simpa [liveClients] using hclient

/-- **The replay of a used code** of a live family revokes what it would have: the family. -/
theorem code_replay_after_gc (h : Inv σ s) (hk : Keyed s.store) {c : CodeRow}
    (hc : c ∈ s.store.codes) (hu : c.used = true) (hl : FamilyLive s.store now c.refreshFamilyId)
    {code : String} (hh : c.codeHash = σ.sha256Hex code) (later : Time) (client : ClientRow)
    (req : TokenRequest) : SameRevocation (gcOauth s.store now).1
      (pkceCodeGrant σ s.store later client code req).1
      (pkceCodeGrant σ (gcOauth s.store now).1 later client code req).1 ∧
    FamilyDead c.refreshFamilyId
      (pkceCodeGrant σ (gcOauth s.store now).1 later client code req).1 := by
  have hcg : c ∈ (gcOauth s.store now).1.codes := by
    rw [gcOauth_eq hk]
    exact List.mem_filter.2 ⟨hc, usedCode_kept h hc hu hl⟩
  rw [codeGrant_replay h hc hh hu, codeGrant_replay (h.gc now) hcg hh hu]
  exact ⟨revokeFamily_gc hk _, revokeFamily_dead _ ((h.codes c hc).family hu).1⟩

/-! ### Refresh tokens -/

/-- A token of a family with a live token is kept unless it is past its expiries. -/
lemma familyToken_kept (h : Inv σ s) {t : TokenRow} (ht : t ∈ s.store.tokens)
    (hl : FamilyLive s.store now t.refreshFamilyId) :
    keepsToken s.store now t = !isSpentToken now t := by
  obtain ⟨t', ht', hf⟩ := hl
  obtain ⟨hts, hlive⟩ := List.mem_filter.1 ht'
  have hclient : t.client ∉ staleIds s.store now (liveClients s.store now) := by
    rw [← h.tokenClient t' hts t ht hf]
    exact live_not_stale hts hlive
  unfold keepsToken
  have hd : decide (t.client ∉ staleIds s.store now ((liveTokens s.store now).map (·.client))) = true :=
    decide_eq_true hclient
  rw [hd, Bool.true_and]

/-- A refresh token whose row has been deleted is unknown. -/
lemma refreshGrant_unknown {st : Store} {token : String}
    (hn : ∀ t ∈ st.tokens, t.refreshTokenHash ≠ some (σ.sha256Hex token)) (later : Time)
    (client : ClientRow) (req : TokenRequest) :
    (rotatingRefreshGrant σ st later client token req).1 = st := by
  have hv : getValidRefreshToken σ st later token = none :=
    List.find?_eq_none.2 fun t ht hp => by simp [hn t ht] at hp
  have hd : detectRefreshReuse σ st token = st := by
    unfold detectRefreshReuse
    rw [List.find?_eq_none.2 fun t ht hp => by simp [hn t ht] at hp]
  rcases rotatingRefreshGrant_cases σ st later client token req with
    ⟨-, e, hp⟩ | ⟨old, e, hv', -⟩ | ⟨old, hv', -, -⟩
  · rw [hp]
    exact hd
  · rw [hv] at hv'; cases hv'
  · rw [hv] at hv'; cases hv'

/-- **The replay of a revoked refresh token** of a live family revokes what it would have exactly
when its row is not past its expiries. -/
theorem refresh_replay_after_gc (h : Inv σ s) (hk : Keyed s.store) {t : TokenRow}
    (ht : t ∈ s.store.tokens) (hr : t.revoked = true)
    (hl : FamilyLive s.store now t.refreshFamilyId) {token : String}
    (hh : t.refreshTokenHash = some (σ.sha256Hex token)) (later : Time) (client : ClientRow)
    (req : TokenRequest) : SameRevocation (gcOauth s.store now).1
      (rotatingRefreshGrant σ s.store later client token req).1
      (rotatingRefreshGrant σ (gcOauth s.store now).1 later client token req).1 ↔
    isSpentToken now t = false := by
  rw [refreshGrant_replay h ht hh hr]
  have hkeep := familyToken_kept h ht hl
  by_cases hs : isSpentToken now t = true
  · -- the row is deleted, and the live token of the family stays unrevoked
    refine ⟨fun hsame => ?_, fun hn => absurd hs (by simp [hn])⟩
    have hgone : ∀ t' ∈ (gcOauth s.store now).1.tokens,
        t'.refreshTokenHash ≠ some (σ.sha256Hex token) := by
      intro t' ht' he
      rw [gcOauth_eq hk] at ht'
      obtain ⟨hts, hkt⟩ := List.mem_filter.1 ht'
      rw [h.refreshHash t' hts t ht ⟨by rw [he]; rfl, he.trans hh.symm⟩, hkeep, hs] at hkt
      cases hkt
    rw [refreshGrant_unknown hgone] at hsame
    obtain ⟨l, hlm, hf⟩ := hl
    obtain ⟨hls, hlive⟩ := List.mem_filter.1 hlm
    have hlg : l ∈ (gcOauth s.store now).1.tokens := by
      rw [gcOauth_eq hk]
      exact List.mem_filter.2 ⟨hls, live_kept hls hlive⟩
    have hrev : l.revoked = true := by
      rw [hsame] at hlg
      exact revokeFamily_dead s.store (h.tokens t ht).family.1 l (List.mem_of_mem_filter hlg) hf
    simp [isLive, hrev] at hlive
  · have hs' : isSpentToken now t = false := by simpa using hs
    refine ⟨fun _ => hs', fun _ => ?_⟩
    have htg : t ∈ (gcOauth s.store now).1.tokens := by
      rw [gcOauth_eq hk]
      exact List.mem_filter.2 ⟨ht, by rw [hkeep, hs']; rfl⟩
    rw [refreshGrant_replay (h.gc now) htg hh hr]
    exact revokeFamily_gc hk _

/-- **Replay detection after the collection**, in every reachable state, for every used code and every
revoked refresh token whose family has a live token, presented at any later time by any client that the token
endpoint still authenticates (the grants are those of `createTokenResponse` for it): the replay of the code
revokes the tokens that it would have revoked, the whole family, and the replay of the refresh token does so
exactly when its row is not past its expiries. -/
theorem replay_after_gc (hσ : Function.Injective σ.sha256Hex) (hr : (machine σ).Reachable s)
    (now later : Time) (client : ClientRow) (req : TokenRequest) :
    (∀ c ∈ s.store.codes, c.used = true → FamilyLive s.store now c.refreshFamilyId →
      ∀ code, c.codeHash = σ.sha256Hex code →
        SameRevocation (gcOauth s.store now).1 (pkceCodeGrant σ s.store later client code req).1
          (pkceCodeGrant σ (gcOauth s.store now).1 later client code req).1 ∧
        FamilyDead c.refreshFamilyId
          (pkceCodeGrant σ (gcOauth s.store now).1 later client code req).1) ∧
    ∀ t ∈ s.store.tokens, t.revoked = true → FamilyLive s.store now t.refreshFamilyId →
      ∀ token, t.refreshTokenHash = some (σ.sha256Hex token) →
        (SameRevocation (gcOauth s.store now).1
          (rotatingRefreshGrant σ s.store later client token req).1
          (rotatingRefreshGrant σ (gcOauth s.store now).1 later client token req).1 ↔
        isSpentToken now t = false) := by
  have h := reachable_inv hσ hr
  have hk := reachable_keyed hσ hr
  exact ⟨fun c hc hu hl code hh => code_replay_after_gc h hk hc hu hl hh later client req,
    fun t ht hrev hl token hh => refresh_replay_after_gc h hk ht hrev hl hh later client req⟩

/-- The replay of an exchanged code, one day after its exchange and after a collection. -/
theorem replay_after_gc_exchanged :
    SameRevocation (gcOauth (sampleState "" "").store 1700086400).1
      (pkceCodeGrant sampleSite (sampleState "" "").store 1700086400 (sampleClient "") "Sq1xCODE"
        (sampleRequest "At2xACCESS" "Rt2xREFRESH" "45c48cce2e2d7fbdea1afc51c7c6ad26")).1
      (pkceCodeGrant sampleSite (gcOauth (sampleState "" "").store 1700086400).1 1700086400
        (sampleClient "") "Sq1xCODE"
        (sampleRequest "At2xACCESS" "Rt2xREFRESH" "45c48cce2e2d7fbdea1afc51c7c6ad26")).1 := by
  obtain ⟨c, t, hc, hu, hh, ht, hf⟩ : ∃ c t, (sampleState "" "").store.codes = [c] ∧ c.used = true ∧
      c.codeHash = sampleSite.sha256Hex "Sq1xCODE" ∧
      liveTokens (sampleState "" "").store 1700086400 = [t] ∧ t.refreshFamilyId = c.refreshFamilyId :=
    ⟨_, _, rfl, rfl, by decide, rfl, rfl⟩
  exact ((replay_after_gc sampleSite_injective sampleState_reachable 1700086400 1700086400 _ _).1 c
    (by rw [hc]; simp) hu ⟨t, by rw [ht]; simp, hf⟩ _ hh).1

/-- A client that exchanges its code, refreshes after 20 days, and waits for another 11. -/
def rotatedLogin : State :=
  [sampleRegister "", sampleAuthorize "", sampleExchange "", .tick 1728000,
    .refreshGrant (sampleClient "") "Rt1xREFRESH" (sampleRequest "At2xACCESS" "Rt2xREFRESH" ""),
    .tick 950400].foldl (step sampleSite) sampleInit

lemma rotatedLogin_reachable : (machine sampleSite).Reachable rotatedLogin :=
  reachable_foldl sampleInit_isInit (by decide)

/-- The replay of that client's first refresh token revokes the family, unless a collection has run
before: then the family stays live. -/
theorem rotated_token_deleted : (machine sampleSite).Reachable rotatedLogin ∧
    FamilyLive rotatedLogin.store rotatedLogin.now "8f14e45fceea467f9a4fd6b7f5a1c3d2" ∧
    FamilyDead "8f14e45fceea467f9a4fd6b7f5a1c3d2"
      (rotatingRefreshGrant sampleSite rotatedLogin.store rotatedLogin.now (sampleClient "")
        "Rt1xREFRESH" (sampleRequest "" "" "")).1 ∧
    ¬ FamilyDead "8f14e45fceea467f9a4fd6b7f5a1c3d2"
      (rotatingRefreshGrant sampleSite (gcOauth rotatedLogin.store rotatedLogin.now).1
        rotatedLogin.now (sampleClient "") "Rt1xREFRESH" (sampleRequest "" "" "")).1 := by
  refine ⟨rotatedLogin_reachable, by unfold FamilyLive; decide, by decide, ?_⟩
  rw [gcOauth_eq (reachable_keyed sampleSite_injective rotatedLogin_reachable)]
  decide

end AdvMcp.OAuth
