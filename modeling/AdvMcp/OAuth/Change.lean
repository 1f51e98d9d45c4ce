import AdvMcp.OAuth.Machine

/-!
# What a step can do

`step_change` says once, for every action, what a step does to codes, tokens and the record: it
leaves them alone, saves a code, revokes tokens, exchanges a code, rotates a token, or deletes rows.
The invariants are derived from it, and never look at an action again.

`getValidCode_spec`, `getValidRefreshToken_spec`, `pkceCodeGrant_cases` and
`rotatingRefreshGrant_cases` do the same for the functions under it.
-/

namespace AdvMcp.OAuth

open AdvMcp.Lib

variable {σ : Site} {st st' : Store} {now : Time}

/-! ### The searches -/

lemma getValidCode_spec {code : String} {client : ℕ} {c : CodeRow}
    (h : getValidCode σ st now code client = some c) :
    c ∈ st.codes ∧ c.codeHash = σ.sha256Hex code ∧ c.client = client ∧ c.used = false ∧
      now < c.expiresAt := by
  have hp := List.find?_some h
  simp only [Bool.and_eq_true, decide_eq_true_eq, Bool.not_eq_true'] at hp
  obtain ⟨⟨⟨h1, h2⟩, h3⟩, h4⟩ := hp
  exact ⟨List.mem_of_find?_eq_some h, h1, h2, h3, h4⟩

lemma getValidAccessToken_spec {token : String} {t : TokenRow}
    (h : getValidAccessToken σ st now token = some t) :
    t ∈ st.tokens ∧ t.accessTokenHash = σ.sha256Hex token ∧ t.revoked = false ∧
      now < t.accessExpiresAt := by
  have hp := List.find?_some h
  simp only [Bool.and_eq_true, decide_eq_true_eq, Bool.not_eq_true'] at hp
  obtain ⟨⟨h1, h2⟩, h3⟩ := hp
  exact ⟨List.mem_of_find?_eq_some h, h1, h2, h3⟩

lemma getValidRefreshToken_spec {token : String} {t : TokenRow}
    (h : getValidRefreshToken σ st now token = some t) :
    t ∈ st.tokens ∧ t.refreshTokenHash = some (σ.sha256Hex token) ∧ t.revoked = false ∧
      after t.refreshExpiresAt now = true := by
  have hp := List.find?_some h
  simp only [Bool.and_eq_true, decide_eq_true_eq, Bool.not_eq_true'] at hp
  obtain ⟨⟨h1, h2⟩, h3⟩ := hp
  exact ⟨List.mem_of_find?_eq_some h, h1, h2, h3⟩

/-! ### Revocation -/

/-- `st'` is `st` with some tokens revoked. -/
def Revokes (st st' : Store) : Prop := ∃ p, st' = revoke st p

lemma revoke_none (st : Store) : revoke st (fun _ => false) = st := by
  unfold revoke
  rw [updateWhere_of_none fun _ _ => rfl]

lemma Revokes.refl (st : Store) : Revokes st st := ⟨fun _ => false, (revoke_none st).symm⟩

lemma revokeFamily_revokes (st : Store) (familyId : String) : Revokes st (revokeFamily st familyId) := by
  unfold revokeFamily
  split_ifs
  · exact Revokes.refl st
  · exact ⟨_, rfl⟩

lemma detectReuse_revokes (σ : Site) (st : Store) (code : String) : Revokes st (detectReuse σ st code) := by
  unfold detectReuse
  split
  · split_ifs
    · exact revokeFamily_revokes st _
    · exact Revokes.refl st
  · exact Revokes.refl st

lemma detectRefreshReuse_revokes (σ : Site) (st : Store) (token : String) : Revokes st (detectRefreshReuse σ st token) := by
  unfold detectRefreshReuse
  split
  · exact revokeFamily_revokes st _
  · exact Revokes.refl st

/-! ### The grants -/

/-- The first token of a code. -/
def firstToken (σ : Site) (st : Store) (now : Time) (client : ClientRow) (c : CodeRow)
    (req : TokenRequest) (audience : String) : TokenRow :=
  let token := generateToken client req c.scope (client.checkGrantType "refresh_token")
  let refresh := token.refreshToken.filter (· ≠ "")
  { id := st.nextId
    accessTokenHash := σ.sha256Hex req.accessToken
    refreshTokenHash := refresh.map σ.sha256Hex
    client := client.id
    userId := c.userId
    scope := c.scope
    audience := audience
    accessExpiresAt := now + accessTokenExpiresIn
    refreshExpiresAt := refresh.map fun _ => now + refreshTokenTtlSeconds
    revoked := false
    refreshFamilyId := req.uuid }

/-- The successor of a token. -/
def successor (σ : Site) (st : Store) (now : Time) (client : ClientRow) (old : TokenRow)
    (req : TokenRequest) : TokenRow :=
  let refresh := (some req.refreshToken).filter (· ≠ "")
  { id := st.nextId
    accessTokenHash := σ.sha256Hex req.accessToken
    refreshTokenHash := refresh.map σ.sha256Hex
    client := client.id
    userId := old.userId
    scope := old.scope
    audience := old.audience
    accessExpiresAt := now + accessTokenExpiresIn
    refreshExpiresAt := refresh.map fun _ => now + refreshTokenTtlSeconds
    revoked := false
    refreshFamilyId := old.refreshFamilyId }

/-- The code `c` marked used, with its family. -/
def spendCode (codes : List CodeRow) (c : CodeRow) (familyId : String) : List CodeRow :=
  updateWhere (·.id = c.id) (fun r => { r with used := true, refreshFamilyId := familyId }) codes

/-- The token `old` revoked and its successor appended. -/
def rotate (tokens : List TokenRow) (old new : TokenRow) : List TokenRow :=
  updateWhere (·.id = old.id) (fun r => { r with revoked := true }) (tokens ++ [new])

lemma updateWhere_comp {α : Type*} (p : α → Bool) (f g : α → α) (hp : ∀ r, p (f r) = p r)
    (l : List α) : updateWhere p g (updateWhere p f l) = updateWhere p (g ∘ f) l := by
  unfold updateWhere
  rw [List.map_map]
  refine List.map_congr_left fun r _ => ?_
  by_cases h : p r = true
  · simp [h, hp]
  · simp [h]

lemma consume_spends (codes : List CodeRow) (c : CodeRow) (familyId : String) :
    updateWhere (·.id = c.id) (fun r => { r with used := true })
      (updateWhere (·.id = c.id) (fun r => { r with refreshFamilyId := familyId }) codes) =
    spendCode codes c familyId :=
  updateWhere_comp (fun r : CodeRow => decide (r.id = c.id))
    (fun r => { r with refreshFamilyId := familyId }) (fun r => { r with used := true })
    (fun _ => rfl) codes

/-- **The code grant**: a code that is not valid for the client is looked up for a replay; a valid
one is spent and yields its first token, or is left alone. -/
theorem pkceCodeGrant_cases (σ : Site) (st : Store) (now : Time) (client : ClientRow)
    (code : String) (req : TokenRequest) :
    (getValidCode σ st now code client.id = none ∧
      ∃ e, pkceCodeGrant σ st now client code req = (detectReuse σ st code, .error e)) ∨
    (∃ c e, getValidCode σ st now code client.id = some c ∧
      pkceCodeGrant σ st now client code req = (st, .error e)) ∨
    ∃ c audience, getValidCode σ st now code client.id = some c ∧
      pkceCodeGrant σ st now client code req =
        ({ st with
            codes := spendCode st.codes c req.uuid
            tokens := st.tokens ++ [firstToken σ st now client c req audience]
            nextId := st.nextId + 1 },
          .ok (c, firstToken σ st now client c req audience)) := by
  unfold pkceCodeGrant queryAuthorizationCode
  cases hv : getValidCode σ st now code client.id with
  | none => exact Or.inl ⟨rfl, _, rfl⟩
  | some c =>
    right
    by_cases hr : c.redirectUri ≠ "" ∧ req.redirectUri ≠ c.redirectUri
    · exact Or.inl ⟨c, _, rfl, if_pos hr⟩
    · simp only [if_neg hr]
      cases validateCodeVerifier c req with
      | error e => exact Or.inl ⟨c, _, rfl, rfl⟩
      | ok _ =>
        simp only
        split_ifs
        · exact Or.inl ⟨c, _, rfl, rfl⟩
        · unfold saveToken resolveAudienceAndFamily
          simp only
          split_ifs
          · exact Or.inl ⟨c, _, rfl, rfl⟩
          · refine Or.inr ⟨c, orElse (orElse c.resource req.resource) (resourceUrl σ), rfl, ?_⟩
            simp only [consume]
            rw [consume_spends]
            rfl

/-- **The refresh grant**: a token that is not valid is looked up for a replay; a valid one of the
client is rotated, or is left alone. -/
theorem rotatingRefreshGrant_cases (σ : Site) (st : Store) (now : Time) (client : ClientRow)
    (token : String) (req : TokenRequest) :
    (getValidRefreshToken σ st now token = none ∧
      ∃ e, rotatingRefreshGrant σ st now client token req =
        (detectRefreshReuse σ st token, .error e)) ∨
    (∃ old e, getValidRefreshToken σ st now token = some old ∧
      rotatingRefreshGrant σ st now client token req = (st, .error e)) ∨
    ∃ old, getValidRefreshToken σ st now token = some old ∧ old.client = client.id ∧
      rotatingRefreshGrant σ st now client token req =
        ({ st with
            tokens := rotate st.tokens old (successor σ st now client old req)
            nextId := st.nextId + 1 },
          .ok (old, successor σ st now client old req)) := by
  unfold rotatingRefreshGrant authenticateRefreshToken
  cases hv : getValidRefreshToken σ st now token with
  | none => exact Or.inl ⟨rfl, _, rfl⟩
  | some old =>
    right
    simp only
    split_ifs with hc
    · exact Or.inl ⟨old, _, rfl, rfl⟩
    · exact Or.inl ⟨old, _, rfl, rfl⟩
    · exact Or.inl ⟨old, _, rfl, rfl⟩
    · exact Or.inr ⟨old, rfl, not_not.1 hc, rfl⟩

/-! ### Steps -/

/-- What every step does: the drawn strings and the ids are only added to. -/
structure Grows (s s' : State) : Prop where
  minted : ∀ x ∈ s.minted, x ∈ s'.minted
  nextId : s.store.nextId ≤ s'.store.nextId

/-- **What a step can do** to codes, tokens and the record. -/
inductive Change (σ : Site) (s s' : State) : Prop
  | quiet : s'.store.codes = s.store.codes → s'.store.tokens = s.store.tokens → s'.log = s.log →
      Change σ s s'
  | authorized (req : AuthorizeRequest) (client : ClientRow) (c : CodeRow) :
      authorize σ s.store s.now req = .ok (s'.store, client, c) →
      c.id = s.store.nextId → s'.store.nextId = s.store.nextId + 1 →
      c.codeHash = σ.sha256Hex req.code → req.code ∉ s.minted → req.code ∈ s'.minted →
      c.used = false → c.refreshFamilyId = "" →
      s'.store.codes = s.store.codes ++ [c] → s'.store.tokens = s.store.tokens →
      s'.log = s.log ++ [.authorized req client c] → Change σ s s'
  | revoked (p : TokenRow → Bool) : s'.store.codes = s.store.codes →
      s'.store.tokens = (revoke s.store p).tokens → s'.log = s.log → Change σ s s'
  | exchanged (client : ClientRow) (req : TokenRequest) (audience : String) (c : CodeRow) :
      c ∈ s.store.codes → c.used = false → c.client = client.id →
      (∀ x ∈ [req.accessToken, req.refreshToken, req.uuid], x ≠ "" ∧ x ∉ s.minted ∧ x ∈ s'.minted) →
      s'.store.nextId = s.store.nextId + 1 →
      s'.store.codes = spendCode s.store.codes c req.uuid →
      s'.store.tokens = s.store.tokens ++ [firstToken σ s.store s.now client c req audience] →
      s'.log = s.log ++ [.exchanged c (firstToken σ s.store s.now client c req audience)] →
      Change σ s s'
  | refreshed (client : ClientRow) (req : TokenRequest) (old : TokenRow) :
      old ∈ s.store.tokens → old.revoked = false → old.client = client.id →
      (∀ x ∈ [req.accessToken, req.refreshToken], x ≠ "" ∧ x ∉ s.minted ∧ x ∈ s'.minted) →
      s'.store.nextId = s.store.nextId + 1 → s'.store.codes = s.store.codes →
      s'.store.tokens = rotate s.store.tokens old (successor σ s.store s.now client old req) →
      s'.log = s.log ++ [.refreshed old (successor σ s.store s.now client old req)] →
      Change σ s s'
  | deleted : s'.store.codes.Sublist s.store.codes → s'.store.tokens.Sublist s.store.tokens →
      s'.log = s.log → Change σ s s'

/-! ### Deleted rows -/

lemma gcOauth_deletes (st : Store) (now : Time) :
    (gcOauth st now).1.clients.Sublist st.clients ∧ (gcOauth st now).1.codes.Sublist st.codes ∧
      (gcOauth st now).1.tokens.Sublist st.tokens ∧ (gcOauth st now).1.nextId = st.nextId := by
  let I : Store → Prop := fun s => s.clients.Sublist st.clients ∧ s.codes.Sublist st.codes ∧
    s.tokens.Sublist st.tokens ∧ s.nextId = st.nextId
  have h₁ : ∀ s b, I s → I (unlinkCodes s b) := fun s b ⟨h1, h2, h3, h4⟩ =>
    ⟨h1, List.filter_sublist.trans h2, h3, h4⟩
  have h₂ : ∀ s b, I s → I (unlinkTokens s b) := fun s b ⟨h1, h2, h3, h4⟩ =>
    ⟨h1, h2, List.filter_sublist.trans h3, h4⟩
  have h₃ : ∀ s b, I s → I (unlinkClients s b) := fun s b ⟨h1, h2, h3, h4⟩ =>
    ⟨List.filter_sublist.trans h1, List.filter_sublist.trans h2, List.filter_sublist.trans h3, h4⟩
  have h0 : I st := ⟨List.Sublist.refl _, List.Sublist.refl _, List.Sublist.refl _, rfl⟩
  unfold gcOauth
  exact drain_inv h₃ _ _ (drain_inv h₂ _ _ (sweep_inv h₁ _ _ _ h0))

/-! ### The step -/

/-- A registration adds a client row under a new id. -/
lemma saveClient_spec {clientId : String} {data : ClientMetadata} {c : ClientRow}
    (h : saveClient σ st now clientId data = .ok (st', c)) :
    st'.codes = st.codes ∧ st'.tokens = st.tokens ∧ c.id = st.nextId ∧
      st'.clients = st.clients ++ [c] ∧ st'.nextId = st.nextId + 1 := by
  unfold saveClient at h
  cases hu : data.redirectUris.forM (checkRedirectUri σ) with
  | error e =>
    rw [hu] at h
    split_ifs at h
  | ok _ =>
    rw [hu] at h
    simp only at h
    split_ifs at h
    obtain ⟨rfl, rfl⟩ := Prod.mk.inj (Except.ok.inj h)
    exact ⟨rfl, rfl, rfl, rfl, rfl⟩

/-- The row that `authorize` saves. -/
lemma authorize_spec {req : AuthorizeRequest} {client : ClientRow} {c : CodeRow}
    (h : authorize σ st now req = .ok (st', client, c)) :
    ∃ uri granted, getConsentGrant σ st req = .ok (client, uri) ∧
      grantedScope client req.http = some granted ∧
      (st', c) = saveCode σ st now req.code client.id req.user (req.http.field "redirect_uri")
        (orElse granted (req.http.field "scope")) (req.http.field "code_challenge")
        (req.http.field "code_challenge_method") (req.http.field "resource") := by
  unfold authorize at h
  cases hc : getConsentGrant σ st req with
  | error e => simp [hc] at h
  | ok r =>
    obtain ⟨cl, uri⟩ := r
    rw [hc] at h
    simp only at h
    split_ifs at h
    cases hg : grantedScope cl req.http with
    | none => simp [hg] at h
    | some granted =>
      rw [hg] at h
      simp only [Except.ok.injEq, Prod.mk.injEq] at h
      obtain ⟨rfl, rfl, rfl⟩ := h
      exact ⟨uri, granted, rfl, hg, rfl⟩

/-- **What a step can do**, when the strings it draws are fresh. -/
theorem step_change {s : State} {a : Action} (hf : Fresh s a) : Change σ s (step σ s a) := by
  obtain ⟨-, hf⟩ := hf
  cases a with
  | register clientId data =>
    simp only [step, stepRegister]
    split
    · rename_i st r hr
      have := saveClient_spec hr
      exact .quiet this.1 this.2.1 rfl
    · exact .quiet rfl rfl rfl
  | authorize req =>
    simp only [step, stepAuthorize]
    split
    · rename_i st client c hr
      obtain ⟨uri, granted, -, -, he⟩ := authorize_spec hr
      obtain ⟨rfl, rfl⟩ := Prod.mk.inj he
      obtain ⟨-, hn⟩ := hf req.code (by simp [drawn])
      exact .authorized req client _ hr rfl rfl rfl hn (by simp) rfl rfl rfl rfl rfl
    · exact .quiet rfl rfl rfl
  | codeGrant client code req =>
    have hx : ∀ x ∈ [req.accessToken, req.refreshToken, req.uuid],
        x ≠ "" ∧ x ∉ s.minted ∧ x ∈ s.minted ++ [req.accessToken, req.refreshToken, req.uuid] :=
      fun x hx => ⟨(hf x hx).1, (hf x hx).2, List.mem_append_right _ hx⟩
    simp only [step, stepCode]
    rcases pkceCodeGrant_cases σ s.store s.now client code req with
      ⟨-, e, h⟩ | ⟨c, e, -, h⟩ | ⟨c, audience, hv, h⟩ <;> simp only [h]
    · obtain ⟨p, hp⟩ := detectReuse_revokes σ s.store code
      exact .revoked p (by simp [hp, revoke]) (by simp [hp]) rfl
    · exact .quiet rfl rfl rfl
    · obtain ⟨hc, -, hcl, hu, -⟩ := getValidCode_spec hv
      exact .exchanged client req audience c hc hu hcl hx rfl rfl rfl rfl
  | refreshGrant client token req =>
    have hx : ∀ x ∈ [req.accessToken, req.refreshToken],
        x ≠ "" ∧ x ∉ s.minted ∧ x ∈ s.minted ++ [req.accessToken, req.refreshToken] :=
      fun x hx => ⟨(hf x hx).1, (hf x hx).2, List.mem_append_right _ hx⟩
    simp only [step, stepRefresh]
    rcases rotatingRefreshGrant_cases σ s.store s.now client token req with
      ⟨-, e, h⟩ | ⟨old, e, -, h⟩ | ⟨old, hv, hcl, h⟩ <;> simp only [h]
    · obtain ⟨p, hp⟩ := detectRefreshReuse_revokes σ s.store token
      exact .revoked p (by simp [hp, revoke]) (by simp [hp]) rfl
    · exact .quiet rfl rfl rfl
    · obtain ⟨ho, -, hr, -⟩ := getValidRefreshToken_spec hv
      exact .refreshed client req old ho hr hcl hx rfl rfl rfl rfl
  | actionRevoke isAdmin ids =>
    cases isAdmin with
    | true => exact .revoked (·.id ∈ ids) rfl rfl rfl
    | false => exact .quiet rfl rfl rfl
  | gcOauth =>
    obtain ⟨-, h2, h3, -⟩ := gcOauth_deletes s.store s.now
    exact .deleted h2 h3 rfl
  | actionDeactivate isAdmin ids => cases isAdmin <;> exact .quiet rfl rfl rfl
  | actionActivate isAdmin ids => cases isAdmin <;> exact .quiet rfl rfl rfl
  | tick seconds => exact .quiet rfl rfl rfl

/-- **What a step can do** to the clients. -/
inductive ClientChange (s s' : State) : Prop
  | same : s'.store.clients = s.store.clients → ClientChange s s'
  | added (c : ClientRow) : c.id = s.store.nextId → s'.store.nextId = s.store.nextId + 1 →
      s'.store.clients = s.store.clients ++ [c] → s'.store.codes = s.store.codes →
      s'.store.tokens = s.store.tokens → ClientChange s s'
  | switched (ids : List ℕ) (b : Bool) : s'.store = setActive s.store ids b → ClientChange s s'
  | collected : s'.store = (gcOauth s.store s.now).1 → ClientChange s s'

/-- **What a step can do** to the clients, by cases on the action. -/
theorem step_clients (s : State) (a : Action) : ClientChange s (step σ s a) := by
  cases a with
  | register clientId data =>
    cases hr : saveClient σ s.store s.now clientId data with
    | error e =>
      refine .same ?_
      simp only [step, stepRegister, hr]
    | ok r =>
      obtain ⟨st, c⟩ := r
      obtain ⟨hc, ht, hid, hcl, hn⟩ := saveClient_spec hr
      have hst : (step σ s (.register clientId data)).store = st := by
        simp only [step, stepRegister, hr]
      refine .added c hid ?_ ?_ ?_ ?_
      · rw [hst, hn]
      · rw [hst, hcl]
      · rw [hst, hc]
      · rw [hst, ht]
  | authorize req =>
    refine .same ?_
    simp only [step, stepAuthorize]
    split
    · rename_i st client c hr
      obtain ⟨_, _, -, -, he⟩ := authorize_spec hr
      rw [(Prod.mk.inj he).1]
    · rfl
  | codeGrant client code req =>
    refine .same ?_
    rcases pkceCodeGrant_cases σ s.store s.now client code req with
      ⟨-, e, hp⟩ | ⟨c, e, -, hp⟩ | ⟨c, audience, -, hp⟩
    · obtain ⟨p, hd⟩ := detectReuse_revokes σ s.store code
      simp only [step, stepCode, hp, hd]
      rfl
    · simp only [step, stepCode, hp]
    · simp only [step, stepCode, hp]
  | refreshGrant client token req =>
    refine .same ?_
    rcases rotatingRefreshGrant_cases σ s.store s.now client token req with
      ⟨-, e, hp⟩ | ⟨old, e, -, hp⟩ | ⟨old, -, -, hp⟩
    · obtain ⟨p, hd⟩ := detectRefreshReuse_revokes σ s.store token
      simp only [step, stepRefresh, hp, hd]
      rfl
    · simp only [step, stepRefresh, hp]
    · simp only [step, stepRefresh, hp]
  | actionRevoke isAdmin ids => cases isAdmin <;> exact .same rfl
  | gcOauth => exact .collected rfl
  | actionDeactivate isAdmin ids =>
    cases isAdmin
    · exact .same rfl
    · exact .switched ids false rfl
  | actionActivate isAdmin ids =>
    cases isAdmin
    · exact .same rfl
    · exact .switched ids true rfl
  | tick seconds => exact .same rfl

/-- Ids and drawn strings are only added to. -/
theorem step_grows (s : State) (a : Action) : Grows s (step σ s a) := by
  cases a with
  | register clientId data =>
    simp only [step, stepRegister]
    split
    · rename_i st r hr
      exact ⟨fun _ h => h, by simp only [(saveClient_spec hr).2.2.2.2]; omega⟩
    · exact ⟨fun _ h => h, le_rfl⟩
  | authorize req =>
    simp only [step, stepAuthorize]
    split
    · rename_i st client c hr
      obtain ⟨uri, granted, -, -, he⟩ := authorize_spec hr
      obtain ⟨rfl, rfl⟩ := Prod.mk.inj he
      exact ⟨fun _ h => List.mem_append_left _ h, Nat.le_succ _⟩
    · exact ⟨fun _ h => List.mem_append_left _ h, le_rfl⟩
  | codeGrant client code req =>
    refine ⟨fun _ h => List.mem_append_left _ h, ?_⟩
    simp only [step, stepCode]
    rcases pkceCodeGrant_cases σ s.store s.now client code req with
      ⟨-, e, h⟩ | ⟨c, e, -, h⟩ | ⟨c, audience, hv, h⟩ <;> simp only [h]
    · obtain ⟨p, hp⟩ := detectReuse_revokes σ s.store code
      exact le_of_eq (by rw [hp]; rfl)
    · exact le_rfl
    · exact Nat.le_succ _
  | refreshGrant client token req =>
    refine ⟨fun _ h => List.mem_append_left _ h, ?_⟩
    simp only [step, stepRefresh]
    rcases rotatingRefreshGrant_cases σ s.store s.now client token req with
      ⟨-, e, h⟩ | ⟨old, e, -, h⟩ | ⟨old, hv, hcl, h⟩ <;> simp only [h]
    · obtain ⟨p, hp⟩ := detectRefreshReuse_revokes σ s.store token
      exact le_of_eq (by rw [hp]; rfl)
    · exact le_rfl
    · exact Nat.le_succ _
  | actionRevoke isAdmin ids => cases isAdmin <;> exact ⟨fun _ h => h, le_rfl⟩
  | gcOauth => exact ⟨fun _ h => h, (gcOauth_deletes s.store s.now).2.2.2.ge⟩
  | actionDeactivate isAdmin ids => cases isAdmin <;> exact ⟨fun _ h => h, le_rfl⟩
  | actionActivate isAdmin ids => cases isAdmin <;> exact ⟨fun _ h => h, le_rfl⟩
  | tick seconds => exact ⟨fun _ h => h, le_rfl⟩

end AdvMcp.OAuth
