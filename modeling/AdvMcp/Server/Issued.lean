import AdvMcp.OAuth.Lineage
import AdvMcp.Server.Ceiling

/-!
# Issued tokens and the audience

The audience of a token is fixed when its code is exchanged: it is the resource of the code, else that
of the token request, else the default.  Rotations copy it, and it is compared with the accepted
resources only when the token is used.  So the tokens of a code are usable exactly when the resource
that was chosen then is empty or accepted (`issued_usable`); the token endpoint does not check it.
-/

namespace AdvMcp.Server

open AdvMcp.Audit AdvMcp.Lib AdvMcp.OAuth AdvMcp.Py

variable {σ : OAuth.Site} {s s' : State}

/-- What a request to the token endpoint returns with status 200: the access token, and its row. -/
def answered (σ : OAuth.Site) (s : State) : Action → Option (String × TokenRow)
  | .codeGrant client code req =>
    match (pkceCodeGrant σ s.store s.now client code req).2 with
    | .ok (_, t) => some (req.accessToken, t)
    | .error _ => none
  | .refreshGrant client token req =>
    match (rotatingRefreshGrant σ s.store s.now client token req).2 with
    | .ok (_, t) => some (req.accessToken, t)
    | .error _ => none
  | _ => none

/-- The token `x` with the row `t` is usable from `s` on: in every state that is reached before it
expires and without its being revoked, if its user and its client are active, it is resolved to its
row. -/
def Usable (σ : OAuth.Site) (s : State) (x : String) (t : TokenRow) : Prop :=
  ∀ as s', (machine σ).RunIn (Unrevoked t.id) s as s' → s'.now < t.accessExpiresAt →
    ∀ userActive : ℕ → Bool, userActive t.userId = true →
      (∀ cl ∈ s'.store.clients, cl.id = t.client → cl.active = true) →
      resolveToken σ s'.store s'.now true userActive x = some t

/-- The tokens of the code `c` that are issued from `s` on are the user's and are usable. -/
def IssuedUsable (σ : OAuth.Site) (s : State) (c : CodeRow) : Prop :=
  ∀ as s₁ a x t, (machine σ).Run s as s₁ → Fresh s₁ a → answered σ s₁ a = some (x, t) →
    Descends (step σ s₁ a).log c.id t → t.userId = c.userId ∧ Usable σ (step σ s₁ a) x t

/-! ### What is issued -/

/-- The audience of the first token of a code. -/
lemma pkceCodeGrant_audience {st st' : Store} {now : Time} {client : ClientRow} {code : String}
    {req : TokenRequest} {c : CodeRow} {t : TokenRow}
    (h : pkceCodeGrant σ st now client code req = (st', .ok (c, t))) :
    t.audience = orElse (orElse c.resource req.resource) (resourceUrl σ) := by
  unfold pkceCodeGrant queryAuthorizationCode at h
  cases hv : getValidCode σ st now code client.id with
  | none => simp [hv] at h
  | some c' =>
    rw [hv] at h
    simp only at h
    by_cases hr : c'.redirectUri ≠ "" ∧ req.redirectUri ≠ c'.redirectUri
    · rw [if_pos hr] at h
      cases h
    · rw [if_neg hr] at h
      cases hver : validateCodeVerifier c' req with
      | error e => simp [hver] at h
      | ok _ =>
        simp only [hver, saveToken, resolveAudienceAndFamily] at h
        split_ifs at h with hu hm
        · cases h
        · cases h
        · obtain ⟨rfl, rfl⟩ := Prod.mk.inj (Except.ok.inj (Prod.mk.inj h).2)
          rfl

/-- **The audience is accepted** exactly when the resource it was taken from is. -/
lemma audienceOk_orElse (σ : OAuth.Site) (resource : String) :
    audienceOk σ (orElse resource (resourceUrl σ)) = resourceAccepted σ resource := by
  unfold audienceOk resourceAccepted orElse
  by_cases h : resource = ""
  · have hne : resourceUrl σ ≠ "" := by
      unfold resourceUrl
      intro he
      have := congrArg String.length he
      rw [String.length_append] at this
      simp at this
    have hmem : rstrip '/' (resourceUrl σ) ∈ (acceptedResources σ).map (rstrip '/') :=
      List.mem_map_of_mem (by simp [acceptedResources, resourceUrl])
    simp only [h, if_true, hne, if_false, hmem, decide_true, Bool.true_or]
  · simp only [h, if_false, decide_false, Bool.false_or]

/-- What the step of an answered request leaves: the row, under the hash of the token returned. -/
lemma answered_spec (hσ : Function.Injective σ.sha256Hex) (hr : (machine σ).Reachable s) {a : Action}
    {x : String} {t : TokenRow} (hf : Fresh s a) (h : answered σ s a = some (x, t)) :
    t ∈ (step σ s a).store.tokens ∧ t.accessTokenHash = σ.sha256Hex x := by
  have hi := reachable_inv hσ hr
  cases a with
  | codeGrant client code req =>
    rcases pkceCodeGrant_cases σ s.store s.now client code req with
      ⟨-, e, hp⟩ | ⟨c, e, -, hp⟩ | ⟨c, audience, -, hp⟩
    · simp [answered, hp] at h
    · simp [answered, hp] at h
    · simp only [answered, hp, Option.some.injEq, Prod.mk.injEq] at h
      obtain ⟨rfl, rfl⟩ := h
      simp only [step, stepCode, hp]
      exact ⟨by simp, rfl⟩
  | refreshGrant client token req =>
    rcases rotatingRefreshGrant_cases σ s.store s.now client token req with
      ⟨-, e, hp⟩ | ⟨old, e, -, hp⟩ | ⟨old, hv, -, hp⟩
    · simp [answered, hp] at h
    · simp [answered, hp] at h
    · simp only [answered, hp, Option.some.injEq, Prod.mk.injEq] at h
      obtain ⟨rfl, rfl⟩ := h
      simp only [step, stepRefresh, hp]
      have hne : (successor σ s.store s.now client old req).id ≠ old.id :=
        Nat.ne_of_gt (hi.tokens old (getValidRefreshToken_spec hv).1).id_lt
      rw [rotate_eq hne]
      exact ⟨by simp, rfl⟩
  | register _ _ => cases h
  | authorize _ => cases h
  | actionRevoke _ _ => cases h
  | gcOauth => cases h
  | actionDeactivate _ _ => cases h
  | actionActivate _ _ => cases h
  | tick _ => cases h

/-! ### What is resolved -/

/-- A stored token that is neither revoked nor expired is resolved, if its audience is accepted and its
user and its client are active. -/
lemma resolveToken_stored (hσ : Function.Injective σ.sha256Hex) (hr : (machine σ).Reachable s)
    {x : String} {t : TokenRow} (ht : t ∈ s.store.tokens) (hx : t.accessTokenHash = σ.sha256Hex x)
    (hrev : t.revoked = false) (hexp : s.now < t.accessExpiresAt) {userActive : ℕ → Bool}
    (hu : userActive t.userId = true)
    (hcl : ∀ cl ∈ s.store.clients, cl.id = t.client → cl.active = true)
    (ha : audienceOk σ t.audience = true) :
    resolveToken σ s.store s.now true userActive x = some t := by
  have hfind : getValidAccessToken σ s.store s.now x = some t := by
    refine (reachable_lineage hσ hr).accessHash.find?_eq_some ht (by simp [hx, hrev, hexp])
      fun b _ hb => ?_
    simp only [Bool.and_eq_true, decide_eq_true_eq] at hb
    exact hb.1.1.trans hx.symm
  have hclient : (s.store.clients.find? (·.id = t.client)).any (·.active) = true := by
    obtain ⟨cl, hm, hid⟩ := (reachable_owned hσ hr).tokens t ht
    cases hf : s.store.clients.find? (·.id = t.client) with
    | none => exact absurd hid (by simpa using List.find?_eq_none.1 hf cl hm)
    | some cl' =>
      have hid' : cl'.id = t.client := by simpa using List.find?_some hf
      exact hcl cl' (List.mem_of_find?_eq_some hf) hid'
  unfold resolveToken
  simp only [Bool.not_true, Bool.false_eq_true, if_false, hfind, ha, hu, hclient]

/-- A token whose audience is not accepted is not resolved. -/
lemma resolveToken_audience {st : Store} {now : Time} {enabled : Bool} {userActive : ℕ → Bool}
    {x : String} {t : TokenRow} (h : resolveToken σ st now enabled userActive x = some t) :
    audienceOk σ t.audience = true := by
  unfold resolveToken at h
  split_ifs at h with hen
  split at h
  · cases h
  · split_ifs at h with ha _ _
    obtain rfl := Option.some.inj h
    simpa using ha

/-- A stored token with an accepted audience is usable. -/
lemma usable_of_audience (hσ : Function.Injective σ.sha256Hex) (hr : (machine σ).Reachable s)
    {x : String} {t : TokenRow} (ht : t ∈ s.store.tokens) (hx : t.accessTokenHash = σ.sha256Hex x)
    (ha : audienceOk σ t.audience = true) : Usable σ s x t := by
  intro as s' hrun hexp userActive hu hcl
  have ht' : t ∈ s'.store.tokens := row_kept hσ hrun hr ht hexp
  have hrev : t.revoked = false := hrun.first t ht rfl
  exact resolveToken_stored hσ (hrun.run.reachable hr) ht' hx hrev hexp hu hcl ha

/-! ### The tokens of a code -/

/-- A client that authlib let through is stored and active. -/
lemma authenticateClient_spec {st : Store} {clientId : String} {p : GrantParam} {client : ClientRow}
    (h : authenticateClient st clientId p = .ok client) :
    client ∈ st.clients ∧ client.active = true := by
  unfold authenticateClient at h
  cases hq : queryClient st clientId with
  | none => simp [hq] at h
  | some c =>
    simp only [hq] at h
    split_ifs at h
    obtain rfl := Except.ok.inj h
    have hp := List.find?_some hq
    simp only [Bool.and_eq_true] at hp
    exact ⟨List.mem_of_find?_eq_some hq, hp.2⟩

/-- An answered exchange: the row is the first token of the code, and is on the record. -/
lemma exchange_spec {client : ClientRow} {code : String} {req : TokenRequest} {st' : Store}
    {c : CodeRow} {t : TokenRow}
    (h : pkceCodeGrant σ s.store s.now client code req = (st', .ok (c, t))) :
    t.userId = c.userId ∧ t.client = client.id ∧ t.revoked = false ∧ s.now < t.accessExpiresAt ∧
      st'.clients = s.store.clients ∧
      answered σ s (.codeGrant client code req) = some (req.accessToken, t) ∧
      .exchanged c t ∈ (step σ s (.codeGrant client code req)).log := by
  rcases pkceCodeGrant_cases σ s.store s.now client code req with
    ⟨-, e, hp⟩ | ⟨c', e, -, hp⟩ | ⟨c', audience, -, hp⟩
  · rw [hp] at h
    cases h
  · rw [hp] at h
    cases h
  · rw [hp] at h
    obtain ⟨rfl, hct⟩ := Prod.mk.inj h
    obtain ⟨rfl, rfl⟩ := Prod.mk.inj (Except.ok.inj hct)
    refine ⟨rfl, rfl, rfl, ?_, rfl, ?_, ?_⟩
    · exact Int.lt_add_of_pos_right _ (by decide)
    · simp only [answered, hp]
    · simp [step, stepCode, hp]

/-- The tokens that descend from an exchanged code have the audience of its first token. -/
lemma issued_audience (hσ : Function.Injective σ.sha256Hex) (hr : (machine σ).Reachable s)
    {c : CodeRow} {t₁ t : TokenRow} (hi : .exchanged c t₁ ∈ s.log) (hd : Descends s.log c.id t) :
    t.audience = t₁.audience ∧ t.userId = c.userId := by
  have hl := (reachable_inv hσ hr).log
  obtain ⟨c', t', hi', hid, ha, hu⟩ := descends_origin hl (reachable_lineage hσ hr) hd
  have ht : t' = t₁ := hl.once c' t' c t₁ hi' hi hid
  have hc : c' = c := hl.codeId c' (hl.exchanged c' t' hi').1 c (hl.exchanged c t₁ hi).1 hid
  rw [ha, hu, ht, hc]
  exact ⟨rfl, rfl⟩

/-- **Issued tokens are usable**, in every reachable state and for every token request that is answered
for a code: the first token of the code and every token that a later refresh returns for it are the
user's and usable exactly when the resource of the code, or that of the token request if the code has
none, is empty or accepted. -/
theorem issued_usable (hσ : Function.Injective σ.sha256Hex) (hr : (machine σ).Reachable s)
    {clientId code : String} {client : ClientRow} {req : TokenRequest} {st' : Store} {c : CodeRow}
    {t₁ : TokenRow} (hf : Fresh s (.codeGrant client code req))
    (hcl : authenticateClient s.store clientId (.authorizationCode code) = .ok client)
    (hx : pkceCodeGrant σ s.store s.now client code req = (st', .ok (c, t₁))) :
    (t₁.userId = c.userId ∧ Usable σ (step σ s (.codeGrant client code req)) req.accessToken t₁ ∧
      IssuedUsable σ (step σ s (.codeGrant client code req)) c) ↔
    resourceAccepted σ (orElse c.resource req.resource) = true := by
  have hr₁ : (machine σ).Reachable (step σ s (.codeGrant client code req)) := hr.step ⟨hf, rfl⟩
  obtain ⟨huser, hclient, hrev, hexp, hclients, hans, hlog⟩ := exchange_spec hx
  obtain ⟨hm, hh⟩ := answered_spec hσ hr hf hans
  have haud : audienceOk σ t₁.audience = resourceAccepted σ (orElse c.resource req.resource) := by
    rw [pkceCodeGrant_audience hx, audienceOk_orElse]
  rw [← haud]
  constructor
  · rintro ⟨-, hus, -⟩
    have hrow : Unrevoked t₁.id (step σ s (.codeGrant client code req)) := by
      intro t ht hid
      rw [(reachable_inv hσ hr₁).tokenId t ht t₁ hm hid]
      exact hrev
    have hst : (step σ s (.codeGrant client code req)).store = st' := by
      simp only [step, stepCode, hx]
    have hactive : ∀ cl ∈ (step σ s (.codeGrant client code req)).store.clients, cl.id = t₁.client →
        cl.active = true := by
      intro cl hcl' hid
      obtain ⟨hmem, hact⟩ := authenticateClient_spec hcl
      rw [hst, hclients] at hcl'
      rw [List.inj_on_of_nodup_map (reachable_keyed hσ hr).clients hcl' hmem (hid.trans hclient)]
      exact hact
    exact resolveToken_audience (hus [] _ (.nil hrow) hexp (fun _ => true) rfl hactive)
  · intro ha
    refine ⟨huser, usable_of_audience hσ hr₁ hm hh ha, fun as s₁ a x t hrun hfa hansa hd => ?_⟩
    have hrs : (machine σ).Reachable s₁ := hrun.reachable hr₁
    have hrs' : (machine σ).Reachable (step σ s₁ a) := hrs.step ⟨hfa, rfl⟩
    obtain ⟨ht, hxt⟩ := answered_spec hσ hrs hfa hansa
    obtain ⟨haudt, hut⟩ := issued_audience hσ hrs' (step_log hfa _ (run_log hrun hr₁ hlog)) hd
    exact ⟨hut, usable_of_audience hσ hrs' ht hxt (by rw [haudt]; exact ha)⟩

/-- The state in which a client holds the code of its user. -/
def sampleLogin : State := [sampleRegister "", sampleAuthorize ""].foldl (step sampleSite) sampleInit

lemma sampleLogin_reachable : (machine sampleSite).Reachable sampleLogin :=
  reachable_foldl sampleInit_isInit (by decide)

/-- The client exchanges its code without naming a resource, and uses the token 3599 seconds later. -/
theorem issued_usable_default : ∃ t, t.userId = 2 ∧
    resolveToken sampleSite (sampleState "" "").store 1700003599 true (fun _ => true) "At1xACCESS" =
      some t := by
  obtain ⟨st', c, t, hcl, hx, hu, hid, hexp, hres, htok⟩ : ∃ st' c t,
      authenticateClient sampleLogin.store "mcp-client-1" (.authorizationCode "Sq1xCODE") =
        .ok (sampleClient "") ∧
      pkceCodeGrant sampleSite sampleLogin.store sampleLogin.now (sampleClient "") "Sq1xCODE"
        (sampleRequest "At1xACCESS" "Rt1xREFRESH" "8f14e45fceea467f9a4fd6b7f5a1c3d2") =
        (st', .ok (c, t)) ∧
      t.userId = 2 ∧ t.id = 3 ∧ t.accessExpiresAt = 1700003600 ∧ c.resource = "" ∧
      (sampleState "" "").store.tokens = [t] := ⟨_, _, _, by decide, rfl, rfl, rfl, rfl, rfl, rfl⟩
  have hus := ((issued_usable sampleSite_injective sampleLogin_reachable (by decide) hcl hx).2
    (by rw [hres]; decide)).2.1
  have hrev : Unrevoked t.id (sampleState "" "") := by
    rw [hid]
    unfold Unrevoked
    decide
  refine ⟨t, hu, hus [.tick 3599] _ (.cons hrev ⟨by decide, rfl⟩ (.nil hrev)) ?_ (fun _ => true) rfl ?_⟩
  · rw [hexp]
    decide
  · have hact : ∀ cl ∈ (sampleState "" "").store.clients, cl.active = true := by decide
    exact fun cl hm _ => hact cl hm

/-- A token request of that client that names another server. -/
def foreignRequest : TokenRequest :=
  { sampleRequest "At1xACCESS" "Rt1xREFRESH" "8f14e45fceea467f9a4fd6b7f5a1c3d2" with
    resource := "https://other.example/mcp" }

/-- The request of the client is answered, and the token it returns is refused at once. -/
theorem foreign_resource_unusable : (machine sampleSite).Reachable sampleLogin ∧
    Fresh sampleLogin (.codeGrant (sampleClient "") "Sq1xCODE" foreignRequest) ∧
    authenticateClient sampleLogin.store "mcp-client-1" (.authorizationCode "Sq1xCODE") =
      .ok (sampleClient "") ∧
    ∃ st' c t, pkceCodeGrant sampleSite sampleLogin.store sampleLogin.now (sampleClient "") "Sq1xCODE"
        foreignRequest = (st', .ok (c, t)) ∧
      t.revoked = false ∧ sampleLogin.now < t.accessExpiresAt ∧
      (∀ cl ∈ st'.clients, cl.active = true) ∧
      resolveToken sampleSite st' sampleLogin.now true (fun _ => true) "At1xACCESS" = none :=
  ⟨sampleLogin_reachable, by decide, by decide, _, _, _, rfl, rfl, by decide, by decide, by decide⟩

end AdvMcp.Server
