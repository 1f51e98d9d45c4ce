import AdvMcp.OAuth.Inv

/-!
# Token families

* `descends_spec` — along a chain of rotations the family and the scope are those of the code's first
  token, so a code has one family (`descends_family`);
* `familyDead_step` — a family without an unrevoked token never has one again;
* `Replays.ended`, `actionRevoke_ended` — what ends a family: the replay of a used code or of a revoked refresh
  token by a client that the token endpoint authenticates, and the revocation of its unrevoked token;
* `family_life` — the three together, over every run.
-/

namespace AdvMcp.OAuth

open AdvMcp.Lib

variable {σ : Site} {s s' : State}

/-! ### Chains of rotations -/

/-- A token that descends from a code is on the record, with the family of the code's first token
and the scope of the code. -/
theorem descends_spec (h : LogOk s) {k : ℕ} {t : TokenRow} (hd : Descends s.log k t) :
    t ∈ issuedTokens s.log ∧ ∃ c t₁, .exchanged c t₁ ∈ s.log ∧ c.id = k ∧
      t.refreshFamilyId = t₁.refreshFamilyId ∧ t.scope = c.scope := by
  induction hd with
  | @exchanged c t hm hid =>
    exact ⟨mem_issuedTokens.2 (Or.inl ⟨c, hm⟩), c, t, hm, hid, rfl, (h.exchanged c t hm).2.1⟩
  | @refreshed t old new _ hm hid ih =>
    obtain ⟨hti, c, t₁, hct, hck, hf, hs⟩ := ih
    obtain ⟨⟨t₀, h0, hcp⟩, hf', hs'⟩ := h.refreshed old new hm
    have ht : t₀ = t := h.tokenId t₀ h0 t hti (hcp.id.symm.trans hid)
    refine ⟨mem_issuedTokens.2 (Or.inr ⟨old, hm⟩), c, t₁, hct, hck, ?_, ?_⟩
    · rw [hf', hcp.family, ht, hf]
    · rw [hs', hcp.scope, ht, hs]

/-- The tokens that descend from a code have one family. -/
theorem descends_family (h : LogOk s) {k : ℕ} {t t' : TokenRow} (hd : Descends s.log k t)
    (hd' : Descends s.log k t') : t.refreshFamilyId = t'.refreshFamilyId := by
  obtain ⟨-, c, t₁, hm, hid, hf, -⟩ := descends_spec h hd
  obtain ⟨-, c', t₁', hm', hid', hf', -⟩ := descends_spec h hd'
  rw [hf, hf', h.once c t₁ c' t₁' hm hm' (hid.trans hid'.symm)]

/-! ### Dead families -/

/-- No token of the family is unrevoked. -/
def FamilyDead (f : String) (st : Store) : Prop :=
  ∀ t ∈ st.tokens, t.refreshFamilyId = f → t.revoked = true

instance (f : String) (st : Store) : Decidable (FamilyDead f st) := by
  unfold FamilyDead
  infer_instance

/-- A family that has been drawn and has no unrevoked token. -/
def Ended (f : String) (s : State) : Prop := f ∈ s.minted ∧ FamilyDead f s.store

/-- **A family that has ended stays so.** -/
theorem familyDead_step {f : String} {a : Action} (hf : Fresh s a) (h : Ended f s) :
    Ended f (step σ s a) := by
  obtain ⟨hm, hd⟩ := h
  refine ⟨(step_grows (σ := σ) s a).minted f hm, fun t ht he => ?_⟩
  cases step_change (σ := σ) hf with
  | quiet _ htok _ => exact hd t (htok ▸ ht) he
  | authorized _ _ _ _ _ _ _ _ _ _ _ _ htok _ => exact hd t (htok ▸ ht) he
  | revoked p _ htok _ =>
    rw [htok, revoke_tokens] at ht
    obtain ⟨t₀, h0, rfl⟩ := List.mem_map.1 ht
    rw [mark_family] at he
    rw [mark_revoked, hd t₀ h0 he]
    rfl
  | exchanged client req audience c _ _ _ hx _ _ htok _ =>
    rw [htok] at ht
    rcases List.mem_append.1 ht with ht | ht
    · exact hd t ht he
    · -- the family of a first token is new
      obtain rfl := List.mem_singleton.1 ht
      have he' : req.uuid = f := he
      rw [← he'] at hm
      exact absurd hm (hx req.uuid (by simp)).2.1
  | refreshed client req old hom hr _ _ _ _ htok _ =>
    rw [htok] at ht
    obtain ⟨t₀, h0, rfl⟩ := mem_updateWhere.1 ht
    rcases List.mem_append.1 h0 with h0 | h0
    · by_cases hid : t₀.id = old.id
      · simp [hid]
      · simp only [hid, decide_false, Bool.false_eq_true, if_false] at he ⊢
        exact hd t₀ h0 he
    · -- the family of a successor is that of an unrevoked token
      obtain rfl := List.mem_singleton.1 h0
      have hof : old.refreshFamilyId = f := by
        rw [← he]; split_ifs <;> rfl
      rw [hd old hom hof] at hr
      cases hr
  | deleted _ htok _ => exact hd t (htok.subset ht) he

/-- **A family that has ended stays so** along every run. -/
theorem familyDead_run {f : String} {as : List Action} (hrun : (machine σ).Run s as s')
    (hr : (machine σ).Reachable s) (h : Ended f s) : FamilyDead f s'.store := by
  refine (hrun.stable (I := Ended f) ?_ hr h).2
  rintro s a s' _ hi ⟨hf, rfl⟩
  exact familyDead_step hf hi

/-! ### What ends a family -/

/-- What the token request presents is a stored code that is used, or a stored refresh token that is revoked,
of the family `f`. -/
def Replays (σ : Site) (st : Store) (f : String) : GrantParam → Prop
  | .authorizationCode code =>
    ∃ c ∈ st.codes, c.codeHash = σ.sha256Hex code ∧ c.used = true ∧ c.refreshFamilyId = f
  | .refreshToken token => ∃ t ∈ st.tokens,
      t.refreshTokenHash = some (σ.sha256Hex token) ∧ t.revoked = true ∧ t.refreshFamilyId = f

lemma revokeFamily_dead (st : Store) {f : String} (hf : f ≠ "") :
    FamilyDead f (revokeFamily st f) := by
  intro t ht he
  unfold revokeFamily at ht
  rw [if_neg hf, revoke_tokens] at ht
  obtain ⟨t₀, h0, rfl⟩ := List.mem_map.1 ht
  rw [mark_family] at he
  rw [mark_revoked]
  by_cases hr : t₀.revoked = true
  · rw [hr]; rfl
  · simp [he, hr]

/-- The replay of a code: it is valid for no client, and its family is revoked. -/
lemma replay_code (h : Inv σ s) {c : CodeRow} (hc : c ∈ s.store.codes) {code : String}
    (hh : c.codeHash = σ.sha256Hex code) (hu : c.used = true) (now : Time) (client : ℕ) :
    getValidCode σ s.store now code client = none ∧
      detectReuse σ s.store code = revokeFamily s.store c.refreshFamilyId := by
  constructor
  · refine List.find?_eq_none.2 fun c' hc' hp => ?_
    simp only [Bool.and_eq_true, decide_eq_true_eq, Bool.not_eq_true'] at hp
    rw [h.codeHash c' hc' c hc (hp.1.1.1.trans hh.symm), hu] at hp
    exact absurd hp.1.2 (by simp)
  · have hfind : s.store.codes.find? (fun c' => c'.codeHash = σ.sha256Hex code && c'.used) = some c := by
      refine h.codeHash.find?_eq_some hc (by simp [hh, hu]) fun c' _ hp => ?_
      simp only [Bool.and_eq_true, decide_eq_true_eq] at hp
      exact hp.1.trans hh.symm
    unfold detectReuse
    rw [hfind]
    exact if_pos ((h.codes c hc).family hu).1

/-- The replay of a refresh token: it is not valid, and its family is revoked. -/
lemma replay_refresh (h : Inv σ s) {t : TokenRow} (ht : t ∈ s.store.tokens) {token : String}
    (hh : t.refreshTokenHash = some (σ.sha256Hex token)) (hr : t.revoked = true) (now : Time) :
    getValidRefreshToken σ s.store now token = none ∧
      detectRefreshReuse σ s.store token = revokeFamily s.store t.refreshFamilyId := by
  have heq : ∀ t' ∈ s.store.tokens, t'.refreshTokenHash = some (σ.sha256Hex token) → t' = t :=
    fun t' ht' he => h.refreshHash t' ht' t ht ⟨by rw [he]; rfl, he.trans hh.symm⟩
  constructor
  · refine List.find?_eq_none.2 fun t' ht' hp => ?_
    simp only [Bool.and_eq_true, decide_eq_true_eq, Bool.not_eq_true'] at hp
    rw [heq t' ht' hp.1.1, hr] at hp
    exact absurd hp.1.2 (by simp)
  · have hfind : s.store.tokens.find?
        (fun t' => t'.refreshTokenHash = some (σ.sha256Hex token) && t'.revoked) = some t := by
      refine h.refreshHash.find?_eq_some ht (by simp [hh, hr]) fun t' _ hp => ?_
      simp only [Bool.and_eq_true, decide_eq_true_eq] at hp
      exact ⟨by rw [hp.1]; rfl, hp.1.trans hh.symm⟩
    unfold detectRefreshReuse
    rw [hfind]

/-- The store after the replay of a used code. -/
lemma codeGrant_replay (h : Inv σ s) {c : CodeRow} (hc : c ∈ s.store.codes) {code : String}
    (hh : c.codeHash = σ.sha256Hex code) (hu : c.used = true) (now : Time) (client : ClientRow)
    (req : TokenRequest) : (pkceCodeGrant σ s.store now client code req).1 =
      revokeFamily s.store c.refreshFamilyId := by
  obtain ⟨hv, hd⟩ := replay_code h hc hh hu now client.id
  rcases pkceCodeGrant_cases σ s.store now client code req with
    ⟨-, e, hp⟩ | ⟨c', e, hv', -⟩ | ⟨c', audience, hv', -⟩
  · rw [hp]
    exact hd
  · rw [hv] at hv'; cases hv'
  · rw [hv] at hv'; cases hv'

/-- The store after the replay of a revoked refresh token. -/
lemma refreshGrant_replay (h : Inv σ s) {t : TokenRow} (ht : t ∈ s.store.tokens) {token : String}
    (hh : t.refreshTokenHash = some (σ.sha256Hex token)) (hr : t.revoked = true) (now : Time)
    (client : ClientRow) (req : TokenRequest) :
    (rotatingRefreshGrant σ s.store now client token req).1 =
      revokeFamily s.store t.refreshFamilyId := by
  obtain ⟨hv, hd⟩ := replay_refresh h ht hh hr now
  rcases rotatingRefreshGrant_cases σ s.store now client token req with
    ⟨-, e, hp⟩ | ⟨old, e, hv', -⟩ | ⟨old, hv', -, -⟩
  · rw [hp]
    exact hd
  · rw [hv] at hv'; cases hv'
  · rw [hv] at hv'; cases hv'

/-- **A replay ends the family**, if the token endpoint authenticates the client that presents it. -/
theorem Replays.ended (h : Inv σ s) {f clientId : String} {p : GrantParam} {client : ClientRow}
    (ha : authenticateClient s.store clientId p = .ok client) (hp : Replays σ s.store f p)
    (req : TokenRequest) : Ended f (tokenStep σ s clientId p req) := by
  rw [(tokenEndpoint_step σ s clientId p req).2.1 client ha]
  have hg := step_grows (σ := σ) s (tokenAction client req p)
  cases p with
  | authorizationCode code =>
    obtain ⟨c, hc, hh, hu, rfl⟩ := hp
    refine ⟨hg.minted _ ((h.codes c hc).family hu).2, ?_⟩
    show FamilyDead _ (pkceCodeGrant σ s.store s.now client code req).1
    rw [codeGrant_replay h hc hh hu]
    exact revokeFamily_dead _ ((h.codes c hc).family hu).1
  | refreshToken token =>
    obtain ⟨t, ht, hh, hr, rfl⟩ := hp
    refine ⟨hg.minted _ (h.tokens t ht).family.2, ?_⟩
    show FamilyDead _ (rotatingRefreshGrant σ s.store s.now client token req).1
    rw [refreshGrant_replay h ht hh hr]
    exact revokeFamily_dead _ (h.tokens t ht).family.1

/-- **The revocation of its unrevoked token** by an administrator ends the family. -/
theorem actionRevoke_ended (h : Inv σ s) {t : TokenRow} (ht : t ∈ s.store.tokens) (hr : t.revoked = false)
    {ids : List ℕ} (hid : t.id ∈ ids) : Ended t.refreshFamilyId (step σ s (.actionRevoke true ids)) := by
  refine ⟨(step_grows (σ := σ) s (.actionRevoke true ids)).minted _ (h.tokens t ht).family.2,
    fun t' ht' hf => ?_⟩
  obtain ⟨t₀, h0, rfl⟩ := List.mem_map.1 (show t' ∈ s.store.tokens.map (mark (·.id ∈ ids)) from ht')
  rw [mark_family] at hf
  rw [mark_revoked]
  by_cases hr0 : t₀.revoked = true
  · rw [hr0]; rfl
  · rw [h.oneLive t₀ h0 t ht ⟨hf, by simpa using hr0, hr⟩]
    simp [hid]

/-! ### The life of a family -/

/-- Every stored token descends from a code. -/
lemma stored_descends (h : Inv σ s) {t : TokenRow} (ht : t ∈ s.store.tokens) :
    ∃ k t₀, Descends s.log k t₀ ∧ Copy t₀ t := by
  obtain ⟨t₀, h0, hc⟩ := (h.tokens t ht).issued
  obtain ⟨k, hk⟩ := h.log.descends t₀ h0
  exact ⟨k, t₀, hk, hc⟩

/-- The tokens that descend from a stored code have the family of its row. -/
lemma code_family (h : Inv σ s) {c : CodeRow} (hc : c ∈ s.store.codes) {t : TokenRow}
    (hd : Descends s.log c.id t) : c.used = true ∧ t.refreshFamilyId = c.refreshFamilyId := by
  obtain ⟨-, c', t₁, hm, hid, hf, -⟩ := descends_spec h.log hd
  obtain ⟨hu, hcf⟩ := (h.log.exchanged c' t₁ hm).2.2 c hc hid.symm
  exact ⟨hu, hf.trans hcf.symm⟩

/-- **The life of a family.**  In every reachable state

* a family has at most one unrevoked token;
* every token descends from a code, and the tokens of a code are of one family, the one that the
  row of the used code names;
* once a used code or a revoked refresh token of a family is presented again at the token endpoint, by any
  client that the endpoint authenticates, or its unrevoked token is revoked by an administrator, the family
  has no unrevoked token, then and in every state of every run from there. -/
theorem family_life (hσ : Function.Injective σ.sha256Hex) (hr : (machine σ).Reachable s) :
    (∀ f, (s.store.tokens.filter fun t => t.refreshFamilyId = f && !t.revoked).length ≤ 1) ∧
    (∀ t ∈ s.store.tokens, ∃ k t₀, Descends s.log k t₀ ∧ Copy t₀ t) ∧
    (∀ k t t', Descends s.log k t → Descends s.log k t' → t.refreshFamilyId = t'.refreshFamilyId) ∧
    (∀ c ∈ s.store.codes, ∀ t, Descends s.log c.id t →
      c.used = true ∧ t.refreshFamilyId = c.refreshFamilyId) ∧
    (∀ f clientId p client req, authenticateClient s.store clientId p = .ok client →
      Replays σ s.store f p → Fresh s (tokenAction client req p) →
      FamilyDead f (createTokenResponse σ s.store s.now clientId p req).1 ∧
        ∀ as s', (machine σ).Run (tokenStep σ s clientId p req) as s' → FamilyDead f s'.store) ∧
    ∀ t ∈ s.store.tokens, t.revoked = false → ∀ ids, t.id ∈ ids →
      ∀ as s', (machine σ).Run (step σ s (.actionRevoke true ids)) as s' →
        FamilyDead t.refreshFamilyId s'.store := by
  have h := reachable_inv hσ hr
  refine ⟨fun f => ?_, fun t ht => stored_descends h ht, fun k t t' => descends_family h.log,
    fun c hc t => code_family h hc, fun f clientId p client req ha hp hf => ?_,
    fun t ht hrev ids hid as s' hrun => ?_⟩
  · refine h.oneLive.length_filter_le (h.tokenIds.of_map _) fun a _ b _ ha hb => ?_
    simp only [Bool.and_eq_true, decide_eq_true_eq, Bool.not_eq_true'] at ha hb
    exact ⟨ha.1.trans hb.1.symm, ha.2, hb.2⟩
  · have hended := hp.ended h ha req
    obtain ⟨hstore, hstep, -⟩ := tokenEndpoint_step σ s clientId p req
    refine ⟨hstore ▸ hended.2, fun as s' hrun => familyDead_run hrun ?_ hended⟩
    rw [hstep client ha]
    exact hr.step ⟨hf, rfl⟩
  · have hf : Fresh s (.actionRevoke true ids) := ⟨List.nodup_nil, fun x hx => absurd hx (by simp [drawn])⟩
    exact familyDead_run hrun (hr.step ⟨hf, rfl⟩) (actionRevoke_ended h ht hrev hid)

/-- The state in which a second client has registered behind the exchange. -/
def sampleSecond : State :=
  step sampleSite (sampleState "" "") (.register "mcp-client-2" ⟨["http://127.0.0.1:8765/cb"], "Cursor", ""⟩)

/-- A code that one client has exchanged is presented again by the other. -/
theorem family_life_replay : FamilyDead "8f14e45fceea467f9a4fd6b7f5a1c3d2"
    (createTokenResponse sampleSite sampleSecond.store sampleSecond.now "mcp-client-2"
      (.authorizationCode "Sq1xCODE")
      (sampleRequest "At2xACCESS" "Rt2xREFRESH" "45c48cce2e2d7fbdea1afc51c7c6ad26")).1 := by
  have hr : (machine sampleSite).Reachable sampleSecond := sampleState_reachable.step ⟨by decide, rfl⟩
  obtain ⟨client, ha⟩ : ∃ client, authenticateClient sampleSecond.store "mcp-client-2"
      (.authorizationCode "Sq1xCODE") = .ok client := ⟨_, rfl⟩
  refine ((family_life sampleSite_injective hr).2.2.2.2.1 _ _ _ client _ ha ?_ ?_).1
  · obtain ⟨c, hc⟩ : ∃ c, sampleSecond.store.codes = [c] ∧ c.codeHash = sampleSite.sha256Hex "Sq1xCODE" ∧
        c.used = true ∧ c.refreshFamilyId = "8f14e45fceea467f9a4fd6b7f5a1c3d2" := ⟨_, rfl, by decide⟩
    exact ⟨c, by rw [hc.1]; exact List.mem_singleton_self c, hc.2⟩
  · show Fresh sampleSecond (.codeGrant client _ _)
    simp only [Fresh, drawn]
    decide

/-- A client that has exchanged its code and refreshed, and is then deactivated. -/
def deactivatedLogin : State :=
  [.refreshGrant (sampleClient "") "Rt1xREFRESH" (sampleRequest "At2xACCESS" "Rt2xREFRESH" ""),
    .actionDeactivate true [1]].foldl (step sampleSite) (sampleState "" "")

/-- A deactivated client presents its exchanged code and its rotated refresh token again: no grant sees them,
and the family stays live. -/
theorem deactivated_replay : (machine sampleSite).Reachable deactivatedLogin ∧
    Replays sampleSite deactivatedLogin.store "8f14e45fceea467f9a4fd6b7f5a1c3d2"
      (.authorizationCode "Sq1xCODE") ∧
    Replays sampleSite deactivatedLogin.store "8f14e45fceea467f9a4fd6b7f5a1c3d2"
      (.refreshToken "Rt1xREFRESH") ∧
    ¬ FamilyDead "8f14e45fceea467f9a4fd6b7f5a1c3d2"
      (createTokenResponse sampleSite deactivatedLogin.store deactivatedLogin.now "mcp-client-1"
        (.authorizationCode "Sq1xCODE") (sampleRequest "" "" "")).1 ∧
    ¬ FamilyDead "8f14e45fceea467f9a4fd6b7f5a1c3d2"
      (createTokenResponse sampleSite deactivatedLogin.store deactivatedLogin.now "mcp-client-1"
        (.refreshToken "Rt1xREFRESH") (sampleRequest "" "" "")).1 := by
  refine ⟨(run_foldl (by decide)).reachable sampleState_reachable, ?_, ?_, by decide, by decide⟩
  · obtain ⟨c, hc⟩ : ∃ c, deactivatedLogin.store.codes = [c] ∧
        c.codeHash = sampleSite.sha256Hex "Sq1xCODE" ∧ c.used = true ∧
        c.refreshFamilyId = "8f14e45fceea467f9a4fd6b7f5a1c3d2" := ⟨_, rfl, by decide⟩
    exact ⟨c, by rw [hc.1]; exact List.mem_singleton_self c, hc.2⟩
  · obtain ⟨t, t', ht⟩ : ∃ t t', deactivatedLogin.store.tokens = [t, t'] ∧
        t.refreshTokenHash = some (sampleSite.sha256Hex "Rt1xREFRESH") ∧ t.revoked = true ∧
        t.refreshFamilyId = "8f14e45fceea467f9a4fd6b7f5a1c3d2" := ⟨_, _, rfl, by decide⟩
    exact ⟨t, by rw [ht.1]; exact List.mem_cons_self, ht.2⟩

end AdvMcp.OAuth
