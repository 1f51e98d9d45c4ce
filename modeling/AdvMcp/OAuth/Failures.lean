import AdvMcp.Lib.Faults
import AdvMcp.OAuth.Machine
import AdvMcp.Py.Exc

/-!
# The token endpoint when something is raised

`AdvOAuthController.token` step by step: the reads and writes of the grants in their order, with an exception
that may be raised between any two of them.

* `tokenEndpoint` — the reply, and the tables as Odoo commits them: a response commits, and an exception that
  leaves the controller does not;
* `tokenEndpoint_undisturbed` — when nothing is raised, it is `createTokenResponse`;
* `Atomic` — a reply without a token comes with the tables of before, or with a family revoked for a replay;
* `tokenEndpoint_atomic_iff` — it does unless an exception that is answered is raised behind the insert of the token.
-/

namespace AdvMcp.OAuth

open AdvMcp.Lib AdvMcp.Py

/-- What is raised: an exception, or an error of authlib. -/
inductive Failure where
  | exc (e : PyExc)
  | oauth (e : OAuth2Error)

/-- The places at which an exception may be raised. -/
inductive Point where
  /-- in front of the `try` -/
  | guard
  | limiter
  /-- at the query of the client -/
  | client
  /-- at the query of the code or of the refresh token -/
  | credential
  /-- behind the revocation of a family -/
  | replayed
  /-- at the checks of the grant -/
  | checks
  | user
  /-- in `_save_token`, before `create` -/
  | saving
  /-- in `_save_token`, behind `create` -/
  | created
  /-- behind `_save_token`, at the spending of the credential -/
  | saved
  /-- behind the spending, at the making of the reply -/
  | spent
  /-- at the making of an error reply -/
  | refusing
  deriving DecidableEq

/-- The places behind the insert of the token. -/
def latePoints : List Point := [.created, .saved, .spent]

/-- An exception is answered, and what was done is committed, unless it is an `OperationalError` or no
`Exception`. -/
def Failure.answered : Failure → Bool
  | .oauth _ => true
  | .exc e => e.cls ≠ .operationalError && e.cls ≠ .baseException

inductive TokenReply where
  | token (t : TokenRow)
  | refused (e : OAuth2Error)
  | serverError
  | notFound
  | rateLimited
  /-- the exception leaves the controller -/
  | aborted
  deriving DecidableEq

/-! ### The steps of `_save_token` -/

section Save

variable (σ : Site) (st : Store) (now : Time)

/-- The row of `_save_token`. -/
def newToken (token : BearerToken) (req : OAuth2Request) (audience familyId : String) : TokenRow :=
  let scope := match req.authorizationCode, req.refreshToken with
    | some authCode, _ => authCode.scope
    | none, some old => old.scope
    | none, none => token.scope
  let refresh := token.refreshToken.filter (· ≠ "")
  { id := st.nextId
    accessTokenHash := σ.sha256Hex token.accessToken
    refreshTokenHash := refresh.map σ.sha256Hex
    client := req.client.id
    userId := req.user
    scope := scope
    audience := audience
    accessExpiresAt := now + token.expiresIn.getD 0
    refreshExpiresAt := refresh.map fun _ => now + refreshTokenTtlSeconds
    revoked := false
    refreshFamilyId := familyId }

/-- `self.create(vals)` -/
def insertToken (row : TokenRow) : Store :=
  { st with tokens := st.tokens ++ [row], nextId := st.nextId + 1 }

/-- `auth_code.refresh_family_id = family_id`, if there is a code. -/
def linkFamily (authCode : Option CodeRow) (familyId : String) : Store :=
  match authCode with
  | some c =>
    { st with codes := updateWhere (·.id = c.id) (fun r => { r with refreshFamilyId := familyId }) st.codes }
  | none => st

/-- `_save_token` is its two writes. -/
lemma saveToken_eq (token : BearerToken) (req : OAuth2Request) (uuid : String) :
    saveToken σ st now token req uuid =
      match resolveAudienceAndFamily σ req uuid with
      | .error e => .error e
      | .ok r =>
        let row := newToken σ st now token req r.1 r.2
        .ok (linkFamily (insertToken st row) req.authorizationCode r.2, row) := by
  unfold saveToken
  cases resolveAudienceAndFamily σ req uuid with
  | error e => rfl
  | ok r =>
    unfold linkFamily insertToken newToken
    cases req.authorizationCode <;> rfl

end Save

/-! ### The steps of a request -/

section Steps

variable (fault : Option (Fault Point Failure)) (σ : Site) (now : Time)

/-- Raise the error of authlib, if there is one. -/
def orRefuse {α : Type} (x : Except OAuth2Error α) : EStateM Failure Store α :=
  peek fun _ => x.mapError .oauth

/-- `save_token`, then `delete_authorization_code` or `revoke_old_credential`. -/
def issueSteps (token : BearerToken) (req : OAuth2Request) (uuid : String) (spend : Store → Store) :
    EStateM Failure Store TokenRow := do
  pass fault .saving
  let r ← orRefuse (resolveAudienceAndFamily σ req uuid)
  let row ← peek fun st => .ok (newToken σ st now token req r.1 r.2)
  writing (insertToken · row)
  pass fault .created
  writing (linkFamily · req.authorizationCode r.2)
  pass fault .saved
  writing spend
  pass fault .spent
  return row

/-- The checks of authlib and of `S256Verifier` on a code. -/
def checkCode (c : CodeRow) (req : TokenRequest) : Except OAuth2Error Unit :=
  if c.redirectUri ≠ "" ∧ req.redirectUri ≠ c.redirectUri then
    .error (.invalidGrant "Invalid 'redirect_uri' in request.")
  else validateCodeVerifier c req

/-- `authenticate_user` -/
def checkUser (req : TokenRequest) (userId : ℕ) (error : OAuth2Error) : Except OAuth2Error Unit :=
  if req.userActive userId then .ok () else .error error

/-- A grant: the query of its credential, with the detection of a replay where it finds none, the checks, and the
token. -/
def redeemSteps {α : Type} (find : Store → Option α) (detect : Store → Store) (invalid : OAuth2Error)
    (check user : α → Except OAuth2Error Unit) (issue : α → EStateM Failure Store TokenRow) :
    EStateM Failure Store TokenRow := do
  pass fault .credential
  let found ← peek fun st => .ok (find st)
  match found with
  | none =>
    writing detect
    pass fault .replayed
    orRefuse (.error invalid)
  | some a =>
    pass fault .checks
    orRefuse (check a)
    pass fault .user
    orRefuse (user a)
    issue a

/-- `PKCECodeGrant` -/
def codeSteps (client : ClientRow) (code : String) (req : TokenRequest) : EStateM Failure Store TokenRow :=
  redeemSteps fault (fun st => getValidCode σ st now code client.id) (detectReuse σ · code)
    (.invalidGrant "Invalid 'code' in request.") (checkCode · req)
    (fun c => checkUser req c.userId (.invalidGrant "There is no 'user' for this code."))
    fun c => issueSteps fault σ now
      (generateToken client req c.scope (client.checkGrantType "refresh_token"))
      ⟨client, c.userId, some c, none, req.resource⟩ req.uuid (consume · c)

/-- The checks of authlib on a refresh token. -/
def checkRefresh (client : ClientRow) (old : TokenRow) (req : TokenRequest) : Except OAuth2Error Unit :=
  if old.client ≠ client.id then .error (.invalidGrant "")
  else if !validateTokenScope old req.scope then .error .invalidScope
  else .ok ()

/-- `RotatingRefreshGrant` -/
def refreshSteps (client : ClientRow) (refreshToken : String) (req : TokenRequest) :
    EStateM Failure Store TokenRow :=
  redeemSteps fault (fun st => getValidRefreshToken σ st now refreshToken) (detectRefreshReuse σ · refreshToken)
    (.invalidGrant "") (checkRefresh client · req)
    (fun old => checkUser req old.userId (.invalidRequest "There is no 'user' for this token."))
    fun old => issueSteps fault σ now (generateToken client req (orElse req.scope old.scope) true)
      ⟨client, old.userId, none, some old, req.resource⟩ req.uuid (revoke · (·.id = old.id))

/-- The body of `create_token_response`. -/
def grantSteps (clientId : String) (p : GrantParam) (req : TokenRequest) : EStateM Failure Store TokenRow := do
  pass fault .client
  let found ← peek fun st => (authenticateClient st clientId p).mapError .oauth
  match p with
  | .authorizationCode code => codeSteps fault σ now found code req
  | .refreshToken token => refreshSteps fault σ now found token req

/-- The `except` clauses of `token`, for what `create_token_response` raises; Odoo commits behind a response. -/
def answered (st st' : Store) (f : Failure) : TokenReply × Store :=
  if f.answered then (.serverError, st') else (.aborted, st)

/-- `create_token_response` answers an error of authlib itself. -/
def respond (st : Store) : EStateM.Result Failure Store TokenRow → TokenReply × Store
  | .ok t st' => (.token t, st')
  | .error (.oauth e) st' =>
    match pass fault .refusing st' with
    | .ok _ _ => (.refused e, st')
    | .error f _ => answered st st' f
  | .error f st' => answered st st' f

/-- `token`, under `oauth_guard`.  `enabled` and `limited` are what the guard and the limiter answer. -/
def tokenEndpoint (enabled limited : Bool) (clientId : String) (p : GrantParam) (req : TokenRequest)
    (st : Store) : TokenReply × Store :=
  match pass fault .guard st with
  | .error _ _ => (.aborted, st)
  | .ok _ _ =>
    if !enabled then (.notFound, st)
    else
      match pass fault .limiter st with
      | .error _ _ => (.aborted, st)
      | .ok _ _ =>
        if limited then (.rateLimited, st)
        else respond fault st (grantSteps fault σ now clientId p req st)

end Steps

/-! ### Behind the insert, and before -/

section Ends

variable {fault : Option (Fault Point Failure)} {σ : Site} {now : Time} {st st' : Store} {f : Failure}
  {t : TokenRow}

lemma orRefuse_ok {α : Type} {x : Except OAuth2Error α} {a : α} :
    orRefuse x st = .ok a st' ↔ x = .ok a ∧ st = st' := by
  unfold orRefuse
  rw [peek_ok]
  cases x <;> simp [Except.mapError]

lemma orRefuse_error {α : Type} {x : Except OAuth2Error α} :
    orRefuse x st = .error f st' ↔ (∃ e, x = .error e ∧ f = .oauth e) ∧ st = st' := by
  unfold orRefuse
  rw [peek_error]
  cases x <;> simp [Except.mapError, eq_comm]

lemma linkFamily_tokens (st : Store) (authCode : Option CodeRow) (familyId : String) :
    (linkFamily st authCode familyId).tokens = st.tokens := by
  unfold linkFamily
  cases authCode <;> rfl

/-- What was raised is the exception that waited at a place behind the insert. -/
def RaisedLate (fault : Option (Fault Point Failure)) (f : Failure) : Prop :=
  ∃ i, fault = some i ∧ i.point ∈ latePoints ∧ i.exc = f

/-- A place behind the insert: the exception that waits there, or what comes behind it. -/
lemma late_bind {α : Type} {p : Point} {k : Unit → EStateM Failure Store α} (hp : p ∈ latePoints)
    (h : (pass fault p >>= k) st = .error f st') : (RaisedLate fault f ∧ st' = st) ∨ k () st = .error f st' := by
  rcases bind_error.1 h with hf | ⟨u, s, hf, h⟩
  · obtain ⟨⟨i, hi, hip, hie⟩, rfl⟩ := pass_error.1 hf
    exact Or.inl ⟨⟨i, hi, hip ▸ hp, hie⟩, rfl⟩
  · obtain ⟨-, rfl⟩ := pass_ok.1 hf
    exact Or.inr h

section Issue

variable {token : BearerToken} {req : OAuth2Request} {uuid : String} {spend : Store → Store}

/-- **What is raised while a token is issued** is raised before the insert, or behind it. -/
lemma issueSteps_error (hs : ∀ st, (spend st).tokens.length = st.tokens.length)
    (h : issueSteps fault σ now token req uuid spend st = .error f st') :
    st' = st ∨ ((∃ r, resolveAudienceAndFamily σ req uuid = .ok r) ∧ RaisedLate fault f ∧
      st'.tokens.length = st.tokens.length + 1) := by
  rcases bind_error.1 h with hp | ⟨u, s, hp, h⟩
  · obtain ⟨-, rfl⟩ := pass_error.1 hp
    exact Or.inl rfl
  obtain ⟨-, rfl⟩ := pass_ok.1 hp
  rcases bind_error.1 h with hr | ⟨r, s, hr, h⟩
  · obtain ⟨-, rfl⟩ := orRefuse_error.1 hr
    exact Or.inl rfl
  obtain ⟨hres, rfl⟩ := orRefuse_ok.1 hr
  refine Or.inr ⟨⟨r, hres⟩, ?_⟩
  rw [bind_of_ok (peek_pure _), bind_of_ok (writing_eq _ _)] at h
  have hinsert : ∀ row, (insertToken st row).tokens.length = st.tokens.length + 1 := by
    intro row
    simp [insertToken]
  rcases late_bind (by simp [latePoints]) h with ⟨hlate, rfl⟩ | h
  · exact ⟨hlate, hinsert _⟩
  rw [bind_of_ok (writing_eq _ _)] at h
  have hlink : ∀ row, (linkFamily (insertToken st row) req.authorizationCode r.2).tokens.length =
      st.tokens.length + 1 := by
    intro row
    rw [linkFamily_tokens, hinsert]
  rcases late_bind (by simp [latePoints]) h with ⟨hlate, rfl⟩ | h
  · exact ⟨hlate, hlink _⟩
  rw [bind_of_ok (writing_eq _ _)] at h
  rcases late_bind (by simp [latePoints]) h with ⟨hlate, rfl⟩ | h
  · exact ⟨hlate, (hs _).trans (hlink _)⟩
  · cases h

/-- An exception that waits behind the insert is raised there. -/
lemma issueSteps_raised {i : Fault Point Failure} {r : String × String} (hi : i.point ∈ latePoints)
    (hr : resolveAudienceAndFamily σ req uuid = .ok r) (hs : ∀ st, (spend st).tokens.length = st.tokens.length)
    (st : Store) : ∃ st', issueSteps (some i) σ now token req uuid spend st = .error i.exc st' ∧
      st'.tokens.length = st.tokens.length + 1 := by
  have hne : ∀ p, p ∉ latePoints → i.point ≠ p := fun p hp he => hp (he ▸ hi)
  have hinsert : ∀ row, (insertToken st row).tokens.length = st.tokens.length + 1 := by
    intro row
    simp [insertToken]
  unfold issueSteps
  rw [bind_of_ok (pass_of_ne (hne .saving (by decide))), bind_of_ok (orRefuse_ok.2 ⟨hr, rfl⟩),
    bind_of_ok (peek_pure _), bind_of_ok (writing_eq _ _)]
  by_cases hc : i.point = .created
  · exact ⟨_, bind_of_error (pass_at hc), hinsert _⟩
  rw [bind_of_ok (pass_of_ne hc), bind_of_ok (writing_eq _ _)]
  by_cases hsaved : i.point = .saved
  · refine ⟨_, bind_of_error (pass_at hsaved), ?_⟩
    rw [linkFamily_tokens, hinsert]
  rw [bind_of_ok (pass_of_ne hsaved), bind_of_ok (writing_eq _ _)]
  have hspent : i.point = .spent := by simpa [latePoints, hc, hsaved] using hi
  refine ⟨_, bind_of_error (pass_at hspent), ?_⟩
  rw [hs, linkFamily_tokens, hinsert]

/-- When nothing is raised, it is `save_token` and the spending of the credential. -/
lemma issueSteps_undisturbed (st : Store) : issueSteps none σ now token req uuid spend st =
    match saveToken σ st now token req uuid with
    | .error e => .error (.oauth e) st
    | .ok r => .ok r.2 (spend r.1) := by
  rw [saveToken_eq]
  unfold issueSteps orRefuse
  cases resolveAudienceAndFamily σ req uuid <;> rfl

end Issue

section Redeem

variable {α : Type} {find : Store → Option α} {detect : Store → Store} {invalid : OAuth2Error}
  {check user : α → Except OAuth2Error Unit} {issue : α → EStateM Failure Store TokenRow}

/-- **What is raised in a grant** is raised before anything is written, after the detection of a replay, or while
the token is issued. -/
lemma redeemSteps_error (h : redeemSteps fault find detect invalid check user issue st = .error f st') :
    st' = st ∨ (find st = none ∧ st' = detect st) ∨
      ∃ a, find st = some a ∧ check a = .ok () ∧ user a = .ok () ∧ issue a st = .error f st' := by
  rcases bind_error.1 h with hp | ⟨u, s, hp, h⟩
  · obtain ⟨-, rfl⟩ := pass_error.1 hp
    exact Or.inl rfl
  obtain ⟨-, rfl⟩ := pass_ok.1 hp
  rw [bind_of_ok (peek_pure _)] at h
  cases hf : find st with
  | none =>
    rw [hf] at h
    simp only at h
    rw [bind_of_ok (writing_eq _ _)] at h
    refine Or.inr (Or.inl ⟨rfl, ?_⟩)
    rcases bind_error.1 h with hp | ⟨u, s, hp, h⟩
    · exact (pass_error.1 hp).2.symm
    · obtain ⟨-, rfl⟩ := pass_ok.1 hp
      exact (orRefuse_error.1 h).2.symm
  | some a =>
    rw [hf] at h
    simp only at h
    rcases bind_error.1 h with hp | ⟨u, s, hp, h⟩
    · exact Or.inl (pass_error.1 hp).2.symm
    obtain ⟨-, rfl⟩ := pass_ok.1 hp
    rcases bind_error.1 h with hc | ⟨⟨⟩, s, hc, h⟩
    · exact Or.inl (orRefuse_error.1 hc).2.symm
    obtain ⟨hcheck, rfl⟩ := orRefuse_ok.1 hc
    rcases bind_error.1 h with hp | ⟨u, s, hp, h⟩
    · exact Or.inl (pass_error.1 hp).2.symm
    obtain ⟨-, rfl⟩ := pass_ok.1 hp
    rcases bind_error.1 h with hu | ⟨⟨⟩, s, hu, h⟩
    · exact Or.inl (orRefuse_error.1 hu).2.symm
    obtain ⟨huser, rfl⟩ := orRefuse_ok.1 hu
    exact Or.inr (Or.inr ⟨a, rfl, hcheck, huser, h⟩)

/-- A credential that passes the checks gets to the token when the exception waits further on. -/
lemma redeemSteps_late {i : Fault Point Failure} (hi : i.point ∈ latePoints) {a : α} (hf : find st = some a)
    (hc : check a = .ok ()) (hu : user a = .ok ()) :
    redeemSteps (some i) find detect invalid check user issue st = issue a st := by
  have hne : ∀ p, p ∉ latePoints → i.point ≠ p := fun p hp he => hp (he ▸ hi)
  unfold redeemSteps
  rw [bind_of_ok (pass_of_ne (hne .credential (by decide))), bind_of_ok (peek_pure _), hf]
  simp only
  rw [bind_of_ok (pass_of_ne (hne .checks (by decide))), bind_of_ok (orRefuse_ok.2 ⟨hc, rfl⟩),
    bind_of_ok (pass_of_ne (hne .user (by decide))), bind_of_ok (orRefuse_ok.2 ⟨hu, rfl⟩)]

lemma redeemSteps_undisturbed (st : Store) : redeemSteps none find detect invalid check user issue st =
    match find st with
    | none => .error (.oauth invalid) (detect st)
    | some a =>
      match check a with
      | .error e => .error (.oauth e) st
      | .ok _ =>
        match user a with
        | .error e => .error (.oauth e) st
        | .ok _ => issue a st := by
  unfold redeemSteps orRefuse
  rw [bind_of_ok (pass_none _ _), bind_of_ok (peek_pure _)]
  cases find st with
  | none => rfl
  | some a =>
    cases hc : check a with
    | error e => simp only [hc]; rfl
    | ok u =>
      cases hu : user a with
      | error e => simp only [hc, hu]; rfl
      | ok u => simp only [hc, hu]; rfl

end Redeem

/-! ### Nothing is raised -/

/-- What a grant comes to, as a computation. -/
def toResult {α : Type} : Store × Except OAuth2Error (α × TokenRow) → EStateM.Result Failure Store TokenRow
  | (st', .ok r) => .ok r.2 st'
  | (st', .error e) => .error (.oauth e) st'

lemma codeSteps_undisturbed (client : ClientRow) (code : String) (req : TokenRequest) (st : Store) :
    codeSteps none σ now client code req st = toResult (pkceCodeGrant σ st now client code req) := by
  unfold codeSteps pkceCodeGrant queryAuthorizationCode
  rw [redeemSteps_undisturbed]
  cases getValidCode σ st now code client.id with
  | none => rfl
  | some c =>
    simp only
    unfold checkCode
    by_cases hr : c.redirectUri ≠ "" ∧ req.redirectUri ≠ c.redirectUri
    · rw [if_pos hr, if_pos hr]
      rfl
    · rw [if_neg hr, if_neg hr]
      cases validateCodeVerifier c req with
      | error e => rfl
      | ok u =>
        simp only
        unfold checkUser
        cases req.userActive c.userId with
        | false => rfl
        | true =>
          simp only [if_true, Bool.not_true, Bool.false_eq_true, if_false]
          rw [issueSteps_undisturbed]
          cases saveToken σ st now _ _ req.uuid <;> rfl

lemma refreshSteps_undisturbed (client : ClientRow) (token : String) (req : TokenRequest) (st : Store) :
    refreshSteps none σ now client token req st = toResult (rotatingRefreshGrant σ st now client token req) := by
  unfold refreshSteps rotatingRefreshGrant authenticateRefreshToken
  rw [redeemSteps_undisturbed]
  cases getValidRefreshToken σ st now token with
  | none => rfl
  | some old =>
    simp only
    unfold checkRefresh
    by_cases hc : old.client ≠ client.id
    · rw [if_pos hc, if_pos hc]
      rfl
    rw [if_neg hc, if_neg hc]
    by_cases hs : (!validateTokenScope old req.scope) = true
    · rw [if_pos hs, if_pos hs]
      rfl
    · rw [if_neg hs, if_neg hs]
      unfold checkUser
      cases req.userActive old.userId with
      | false => rfl
      | true =>
        simp only [if_true, Bool.not_true, Bool.false_eq_true, if_false]
        rw [issueSteps_undisturbed]
        cases saveToken σ st now _ _ req.uuid <;> rfl

/-! ### Requests -/

/-- The request is good for a token: the client, the credential and the resource pass every check. -/
inductive Accepted (σ : Site) (st : Store) (now : Time) (clientId : String) (req : TokenRequest) : GrantParam → Prop
  | code {client : ClientRow} {code : String} {c : CodeRow} {r : String × String}
    (hclient : authenticateClient st clientId (.authorizationCode code) = .ok client)
    (hfound : getValidCode σ st now code client.id = some c) (hcheck : checkCode c req = .ok ())
    (huser : req.userActive c.userId = true)
    (hresource : resolveAudienceAndFamily σ ⟨client, c.userId, some c, none, req.resource⟩ req.uuid = .ok r) :
    Accepted σ st now clientId req (.authorizationCode code)
  | refresh {client : ClientRow} {token : String} {old : TokenRow}
    (hclient : authenticateClient st clientId (.refreshToken token) = .ok client)
    (hfound : getValidRefreshToken σ st now token = some old) (hcheck : checkRefresh client old req = .ok ())
    (huser : req.userActive old.userId = true) : Accepted σ st now clientId req (.refreshToken token)

/-- The credential is no valid one, and the tables are those behind the detection of its replay. -/
inductive Replayed (σ : Site) (st : Store) (now : Time) (clientId : String) : GrantParam → Store → Prop
  | code {client : ClientRow} {code : String}
    (hclient : authenticateClient st clientId (.authorizationCode code) = .ok client)
    (hnone : getValidCode σ st now code client.id = none) :
    Replayed σ st now clientId (.authorizationCode code) (detectReuse σ st code)
  | refresh {client : ClientRow} {token : String}
    (hclient : authenticateClient st clientId (.refreshToken token) = .ok client)
    (hnone : getValidRefreshToken σ st now token = none) :
    Replayed σ st now clientId (.refreshToken token) (detectRefreshReuse σ st token)

variable {clientId : String} {p : GrantParam} {req : TokenRequest}

lemma not_replayed (h : Accepted σ st now clientId req p) : ¬ Replayed σ st now clientId p st' := by
  intro hr
  cases h with
  | code hclient hfound =>
    cases hr with
    | code hclient' hnone =>
      obtain rfl := Except.ok.inj (hclient.symm.trans hclient')
      rw [hfound] at hnone
      cases hnone
  | refresh hclient hfound =>
    cases hr with
    | refresh hclient' hnone =>
      rw [hfound] at hnone
      cases hnone

lemma checkUser_ok {userId : ℕ} {error : OAuth2Error} :
    checkUser req userId error = .ok () ↔ req.userActive userId = true := by
  unfold checkUser
  split_ifs with h <;> simp [h]

lemma consume_length (c : CodeRow) (st : Store) : (consume st c).tokens.length = st.tokens.length := rfl

lemma revoke_length (q : TokenRow → Bool) (st : Store) : (revoke st q).tokens.length = st.tokens.length := by
  simp [revoke, updateWhere]

/-- **What is raised in `create_token_response`** leaves the tables as they were, or as a replay leaves them, or it
is raised behind the insert of a token. -/
lemma grantSteps_error (h : grantSteps fault σ now clientId p req st = .error f st') :
    st' = st ∨ Replayed σ st now clientId p st' ∨
      (Accepted σ st now clientId req p ∧ RaisedLate fault f ∧ st'.tokens.length = st.tokens.length + 1) := by
  rcases bind_error.1 h with hp | ⟨u, s, hp, h⟩
  · exact Or.inl (pass_error.1 hp).2.symm
  obtain ⟨-, rfl⟩ := pass_ok.1 hp
  rcases bind_error.1 h with hc | ⟨client, s, hc, h⟩
  · exact Or.inl (peek_error.1 hc).2.symm
  obtain ⟨hclient, rfl⟩ := peek_ok.1 hc
  replace hclient : authenticateClient st clientId p = .ok client := by
    cases ha : authenticateClient st clientId p with
    | error e =>
      rw [ha] at hclient
      cases hclient
    | ok client' =>
      rw [ha] at hclient
      rw [Except.ok.inj (show (Except.ok client' : Except Failure ClientRow) = .ok client from hclient)]
  cases p with
  | authorizationCode code =>
    rcases redeemSteps_error h with hs | ⟨hn, rfl⟩ | ⟨c, hf, hcheck, huser, h⟩
    · exact Or.inl hs
    · exact Or.inr (Or.inl (.code hclient hn))
    · rcases issueSteps_error (consume_length c) h with hs | ⟨⟨r, hr⟩, hlate, hl⟩
      · exact Or.inl hs
      · exact Or.inr (Or.inr ⟨.code hclient hf hcheck (checkUser_ok.1 huser) hr, hlate, hl⟩)
  | refreshToken token =>
    rcases redeemSteps_error h with hs | ⟨hn, rfl⟩ | ⟨old, hf, hcheck, huser, h⟩
    · exact Or.inl hs
    · exact Or.inr (Or.inl (.refresh hclient hn))
    · rcases issueSteps_error (revoke_length _) h with hs | ⟨-, hlate, hl⟩
      · exact Or.inl hs
      · exact Or.inr (Or.inr ⟨.refresh hclient hf hcheck (checkUser_ok.1 huser), hlate, hl⟩)

/-- A request that is good for a token gets to an exception behind the insert. -/
lemma grantSteps_raised {i : Fault Point Failure} (hi : i.point ∈ latePoints)
    (h : Accepted σ st now clientId req p) : ∃ st', grantSteps (some i) σ now clientId p req st =
      .error i.exc st' ∧ st'.tokens.length = st.tokens.length + 1 := by
  have hne : i.point ≠ .client := by
    rintro he
    rw [he] at hi
    exact absurd hi (by decide)
  unfold grantSteps
  rw [bind_of_ok (pass_of_ne hne)]
  cases h with
  | @code client code c r hclient hfound hcheck huser hresource =>
    have hfind : (peek fun st => (authenticateClient st clientId (.authorizationCode code)).mapError .oauth :
        EStateM Failure Store ClientRow) st = .ok client st := peek_ok.2 ⟨by rw [hclient]; rfl, rfl⟩
    rw [bind_of_ok hfind]
    simp only
    unfold codeSteps
    obtain ⟨st', he, hl⟩ := issueSteps_raised hi hresource (consume_length c) st
    refine ⟨st', Eq.trans ?_ he, hl⟩
    exact redeemSteps_late hi hfound hcheck (checkUser_ok.2 huser)
  | @refresh client token old hclient hfound hcheck huser =>
    have hfind : (peek fun st => (authenticateClient st clientId (.refreshToken token)).mapError .oauth :
        EStateM Failure Store ClientRow) st = .ok client st := peek_ok.2 ⟨by rw [hclient]; rfl, rfl⟩
    rw [bind_of_ok hfind]
    simp only
    unfold refreshSteps
    have hresource : resolveAudienceAndFamily σ ⟨client, old.userId, none, some old, req.resource⟩ req.uuid =
      .ok (old.audience, old.refreshFamilyId) := rfl
    obtain ⟨st', he, hl⟩ := issueSteps_raised hi hresource (revoke_length (·.id = old.id)) st
    refine ⟨st', Eq.trans ?_ he, hl⟩
    exact redeemSteps_late hi hfound hcheck (checkUser_ok.2 huser)

end Ends

/-! ### The endpoint -/

section Endpoint

variable (fault : Option (Fault Point Failure)) (σ : Site) (now : Time) (enabled limited : Bool) (clientId : String)
  (p : GrantParam) (req : TokenRequest) (st : Store)

/-- No token row was created, and no code or token changed. -/
def Kept (st st' : Store) : Prop := st'.codes = st.codes ∧ st'.tokens = st.tokens

/-- A reply without a token comes with the rows of before, or with those behind the detection of a replay. -/
def Atomic (a : TokenReply × Store) : Prop :=
  (∀ t, a.1 ≠ .token t) → Kept st a.2 ∨ Replayed σ st now clientId p a.2

/-- An exception that is answered waits behind the insert of the token that the request is good for. -/
def Late : Prop :=
  enabled = true ∧ limited = false ∧ Accepted σ st now clientId req p ∧
    ∃ i, fault = some i ∧ i.point ∈ latePoints ∧ i.exc.answered = true

variable {fault σ now enabled limited clientId p req st}

/-- When nothing is raised, the endpoint is `create_token_response`. -/
theorem tokenEndpoint_undisturbed : tokenEndpoint none σ now true false clientId p req st =
    match createTokenResponse σ st now clientId p req with
    | (st', .ok t) => (.token t, st')
    | (st', .error e) => (.refused e, st') := by
  show respond none st (grantSteps none σ now clientId p req st) = _
  unfold grantSteps createTokenResponse
  rw [bind_of_ok (pass_none _ _)]
  cases ha : authenticateClient st clientId p with
  | error e =>
    have hfind : (peek fun st => (authenticateClient st clientId p).mapError .oauth :
        EStateM Failure Store ClientRow) st = .error (.oauth e) st := peek_error.2 ⟨by rw [ha]; rfl, rfl⟩
    rw [bind_of_error hfind]
    rfl
  | ok client =>
    have hfind : (peek fun st => (authenticateClient st clientId p).mapError .oauth :
        EStateM Failure Store ClientRow) st = .ok client st := peek_ok.2 ⟨by rw [ha]; rfl, rfl⟩
    rw [bind_of_ok hfind]
    cases p with
    | authorizationCode code =>
      simp only
      rw [codeSteps_undisturbed]
      generalize pkceCodeGrant σ st now client code req = r
      obtain ⟨st', x⟩ := r
      cases x <;> rfl
    | refreshToken token =>
      simp only
      rw [refreshSteps_undisturbed]
      generalize rotatingRefreshGrant σ st now client token req = r
      obtain ⟨st', x⟩ := r
      cases x <;> rfl

/-- What was raised is no token, and comes with the tables of before or with those that it left. -/
lemma respond_error (f : Failure) (st' : Store) : (∀ t, (respond fault st (.error f st')).1 ≠ .token t) ∧
    ((respond fault st (.error f st')).2 = st ∨ (respond fault st (.error f st')).2 = st') := by
  have ha : ∀ f, (∀ t, (answered st st' f).1 ≠ .token t) ∧
      ((answered st st' f).2 = st ∨ (answered st st' f).2 = st') := by
    intro f
    unfold answered
    split_ifs
    · exact ⟨by simp, Or.inr rfl⟩
    · exact ⟨by simp, Or.inl rfl⟩
  unfold respond
  cases f with
  | exc e => exact ha _
  | oauth e =>
    simp only
    split
    · exact ⟨by simp, Or.inr rfl⟩
    · exact ha _

/-- An exception that is not answered is rolled back. -/
lemma respond_aborted {f : Failure} (h : f.answered = false) (st' : Store) :
    (respond fault st (.error f st')).2 = st := by
  cases f with
  | oauth e => cases h
  | exc e =>
    unfold respond answered
    simp [h]

/-- What was raised behind the insert and is answered is committed. -/
lemma respond_late {i : Fault Point Failure} (hi : i.point ∈ latePoints) (h : i.exc.answered = true)
    (st' : Store) : (respond (some i) st (.error i.exc st')).2 = st' := by
  have hne : i.point ≠ .refusing := by
    intro he
    rw [he] at hi
    exact absurd hi (by decide)
  unfold respond
  cases he : i.exc with
  | oauth e =>
    simp only
    rw [pass_of_ne hne]
  | exc e =>
    rw [he] at h
    unfold answered
    simp [h]

/-- The grant is called behind the guard and the limiter, unless the exception waits there. -/
lemma tokenEndpoint_cases : (∀ t, (tokenEndpoint fault σ now enabled limited clientId p req st).1 ≠ .token t) ∧
      (tokenEndpoint fault σ now enabled limited clientId p req st).2 = st ∨
    enabled = true ∧ limited = false ∧ tokenEndpoint fault σ now enabled limited clientId p req st =
      respond fault st (grantSteps fault σ now clientId p req st) := by
  unfold tokenEndpoint
  split
  · exact Or.inl ⟨by simp, rfl⟩
  · cases enabled with
    | false => exact Or.inl ⟨by simp, rfl⟩
    | true =>
      simp only [Bool.not_true, Bool.false_eq_true, if_false]
      split
      · exact Or.inl ⟨by simp, rfl⟩
      · cases limited with
        | true => exact Or.inl ⟨by simp, rfl⟩
        | false => exact Or.inr ⟨trivial, rfl, rfl⟩

/-- **The token endpoint** is atomic, whatever is raised on the way, if and only if it is not an exception that is
answered behind the insert of a token. -/
theorem tokenEndpoint_atomic_iff : Atomic σ now clientId p st (tokenEndpoint fault σ now enabled limited clientId p req st) ↔
    ¬ Late fault σ now enabled limited clientId p req st := by
  constructor
  · rintro hat ⟨rfl, rfl, hacc, i, rfl, hi, hans⟩
    have hne : ∀ q, q ∉ latePoints → i.point ≠ q := fun q hq he => hq (he ▸ hi)
    obtain ⟨st', hg, hl⟩ := grantSteps_raised hi hacc
    have he : tokenEndpoint (some i) σ now true false clientId p req st =
        respond (some i) st (.error i.exc st') := by
      unfold tokenEndpoint
      rw [pass_of_ne (hne .guard (by decide)), hg]
      simp only [Bool.not_true, Bool.false_eq_true, if_false]
      rw [pass_of_ne (hne .limiter (by decide))]
    rw [he] at hat
    rcases hat (respond_error _ _).1 with ⟨-, ht⟩ | hr
    · rw [respond_late hi hans] at ht
      rw [ht] at hl
      omega
    · exact not_replayed hacc hr
  · intro hlate ht
    have hcases : _ ∨ enabled = true ∧ limited = false ∧ tokenEndpoint fault σ now enabled limited clientId p req st =
      respond fault st (grantSteps fault σ now clientId p req st) := tokenEndpoint_cases
    rcases hcases with ⟨-, hst⟩ | ⟨he, hlim, hresp⟩
    · rw [hst]
      exact Or.inl ⟨rfl, rfl⟩
    rw [hresp] at ht ⊢
    cases hg : grantSteps fault σ now clientId p req st with
    | ok t st' =>
      rw [hg] at ht
      exact absurd rfl (ht t)
    | error f st' =>
      have hresp : _ ∧ ((respond fault st (.error f st')).2 = st ∨ (respond fault st (.error f st')).2 = st') :=
        respond_error f st'
      rcases hresp.2 with hs | hs
      · rw [hs]
        exact Or.inl ⟨rfl, rfl⟩
      rcases grantSteps_error hg with rfl | hr | ⟨hacc, ⟨i, hi, hip, rfl⟩, hl⟩
      · rw [hs]
        exact Or.inl ⟨rfl, rfl⟩
      · rw [hs]
        exact Or.inr hr
      · cases hans : i.exc.answered with
        | true => exact absurd ⟨he, hlim, hacc, i, hi, hip, hans⟩ hlate
        | false =>
          rw [respond_aborted hans]
          exact Or.inl ⟨rfl, rfl⟩

end Endpoint

/-- A code of user 2 has been issued. -/
def codeState : State := [sampleRegister "", sampleAuthorize ""].foldl (step sampleSite) sampleInit

/-- Its exchange, when the write that marks the code used raises. -/
def brokenExchange : TokenReply × Store :=
  tokenEndpoint (some ⟨.saved, .exc (.of .userError "The record is locked.")⟩) sampleSite codeState.now true false
    "mcp-client-1" (.authorizationCode "Sq1xCODE")
    (sampleRequest "At1xACCESS" "Rt1xREFRESH" "8f14e45fceea467f9a4fd6b7f5a1c3d2") codeState.store

/-- The reply is an error, the token is committed, and the code can be exchanged again. -/
theorem half_done_exchange : brokenExchange.1 = .serverError ∧
    brokenExchange.2.tokens.map (·.accessTokenHash) =
      ["676acc472ee1d5046a49631333b50643a75295ed90b6ec9b11e0ed672edb5082"] ∧
    (getValidCode sampleSite brokenExchange.2 codeState.now "Sq1xCODE" (sampleClient "").id).isSome = true ∧
    ¬ Atomic sampleSite codeState.now "mcp-client-1" (.authorizationCode "Sq1xCODE") codeState.store
      brokenExchange := by
  have hreply : brokenExchange.1 = .serverError := by decide +kernel
  have htokens : brokenExchange.2.tokens.length = 1 := by decide +kernel
  refine ⟨hreply, by decide +kernel, by decide +kernel, fun hat => ?_⟩
  have hnot : ∀ t, brokenExchange.1 ≠ .token t := by
    intro t
    rw [hreply]
    simp
  rcases hat hnot with ⟨-, ht⟩ | hr
  · rw [ht] at htokens
    exact absurd htokens (by decide +kernel)
  · have hcode : (getValidCode sampleSite codeState.store codeState.now "Sq1xCODE" (sampleClient "").id).isSome =
      true := by decide +kernel
    generalize brokenExchange.2 = st' at hr
    cases hr with
    | code hclient hnone =>
      have hid : ∀ client, authenticateClient codeState.store "mcp-client-1" (.authorizationCode "Sq1xCODE") =
          .ok client → client.id = (sampleClient "").id := by
        intro client h
        obtain rfl := Except.ok.inj (show Except.ok (sampleClient "") = .ok client from h)
        rfl
      rw [← hid _ hclient, hnone] at hcode
      cases hcode

end AdvMcp.OAuth
