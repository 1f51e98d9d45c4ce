import AdvMcp.Lib.Locking
import AdvMcp.OAuth.Change
import AdvMcp.OAuth.Failures

/-!
# Racing token requests

Any number of requests at the token endpoint at once, each a transaction under row locks.  The queries of the
grants take `FOR UPDATE` on the row that they find, and every write takes the row that it changes.

* `tokenProg` — the reads, the locks and the writes of `token` in their order;
* `run_tokenProg`, `race_alone` — by itself it does what `createTokenResponse` does;
* `race` — the requests, in any order of their steps;
* `retry_replayed` — who comes when the credential is spent falls into the replay branch;
* `single_use` — from a code, and from a refresh token, at most one committed transaction creates a token, and who
  loses the race replies with none.
-/

namespace AdvMcp.OAuth

open AdvMcp.Lib AdvMcp.Lib.Locking AdvMcp.Py

/-- A row of `adv.oauth.code` or of `adv.oauth.token`. -/
inductive RowKey where
  | code (id : ℕ)
  | token (id : ℕ)
  deriving DecidableEq

/-- The writes of the grants, each to one row. -/
inductive RowWrite where
  /-- `self.create(vals)` -/
  | insert (t : TokenRow)
  /-- `auth_code.refresh_family_id = family_id` -/
  | link (id : ℕ) (familyId : String)
  /-- `_consume` -/
  | consume (id : ℕ)
  /-- `_revoke` -/
  | revoke (id : ℕ)
  deriving DecidableEq

def RowWrite.key : RowWrite → RowKey
  | .insert t => .token t.id
  | .link id _ => .code id
  | .consume id => .code id
  | .revoke id => .token id

def RowWrite.apply : RowWrite → Store → Store
  | .insert t, st => insertToken st t
  | .link id familyId, st =>
    { st with codes := updateWhere (·.id = id) (fun r => { r with refreshFamilyId := familyId }) st.codes }
  | .consume id, st => { st with codes := updateWhere (·.id = id) (fun r => { r with used := true }) st.codes }
  | .revoke id, st => OAuth.revoke st (·.id = id)

/-- The primary keys of codes and tokens. -/
def primaryKeys (st : Store) : Bool := (st.codes.map (·.id)).Nodup ∧ (st.tokens.map (·.id)).Nodup

def oauthTables : Tables Store RowKey RowWrite := ⟨RowWrite.apply, RowWrite.key, primaryKeys⟩

/-- The reply to a token request: a new token, with the row of the credential it was issued for, or an error. -/
inductive RaceReply where
  | token (source : RowKey) (t : TokenRow)
  | refused (e : OAuth2Error)
  deriving DecidableEq

/-! ### The transaction of a request -/

section Programs

abbrev TokenProg := Prog Store RowKey RowWrite RaceReply

/-- Go on, or reply with the error: what was written is committed behind it. -/
def orRefused {α : Type} (x : Except OAuth2Error α) (rest : α → TokenProg) : TokenProg :=
  match x with
  | .error e => .done (.refused e)
  | .ok a => rest a

/-- `_revoke` on these rows, one after the other. -/
def revokeEach (ids : List ℕ) (rest : TokenProg) : TokenProg := ids.foldr (fun id p => .write (.revoke id) p) rest

variable (σ : Site) (st : Store) (now : Time)

/-- The rows that `_revoke_family` searches. -/
def familyIds (familyId : String) : List ℕ :=
  if familyId = "" then []
  else (st.tokens.filter fun t => t.refreshFamilyId = familyId && !t.revoked).map (·.id)

/-- The rows that `_detect_reuse` revokes. -/
def reusedIds (code : String) : List ℕ :=
  match st.codes.find? fun c => c.codeHash = σ.sha256Hex code && c.used with
  | some spent => if spent.refreshFamilyId ≠ "" then familyIds st spent.refreshFamilyId else []
  | none => []

/-- The rows that `_detect_refresh_reuse` revokes. -/
def refreshReusedIds (refreshToken : String) : List ℕ :=
  match st.tokens.find? fun t => t.refreshTokenHash = some (σ.sha256Hex refreshToken) && t.revoked with
  | some spent => familyIds st spent.refreshFamilyId
  | none => []

/-- `auth_code.refresh_family_id = family_id`, if there is a code. -/
def linkProg (authCode : Option CodeRow) (familyId : String) (rest : TokenProg) : TokenProg :=
  match authCode with
  | some c => .write (.link c.id familyId) rest
  | none => rest

/-- `save_token`, then `spend`, which is `delete_authorization_code` or `revoke_old_credential`, and the reply.
The id of the new row is drawn from its sequence. -/
def issueProg (token : BearerToken) (req : OAuth2Request) (uuid : String) (source : RowKey) (spend : RowWrite) :
    TokenProg :=
  orRefused (resolveAudienceAndFamily σ req uuid) fun r =>
    .read fun st => .draw fun id =>
      let row := newToken σ { st with nextId := id } now token req r.1 r.2
      .write (.insert row) (linkProg req.authorizationCode r.2 (.write spend (.done (.token source row))))

/-- A grant: the query of its credential, which locks the row that it finds; where it finds none, the revocation of
the replayed family; else the checks, and the token. -/
def redeemProg {α : Type} (find : Store → Option α) (replayed : Store → List ℕ) (invalid : OAuth2Error)
    (key : α → RowKey) (check user : α → Except OAuth2Error Unit) (issue : α → TokenProg) : TokenProg :=
  .read fun st =>
    match find st with
    | none => revokeEach (replayed st) (.done (.refused invalid))
    | some a => .lock (key a) (orRefused (check a) fun _ => orRefused (user a) fun _ => issue a)

/-- `PKCECodeGrant` -/
def codeProg (client : ClientRow) (code : String) (req : TokenRequest) : TokenProg :=
  redeemProg (fun st => getValidCode σ st now code client.id) (reusedIds σ · code)
    (.invalidGrant "Invalid 'code' in request.") (fun c => .code c.id) (checkCode · req)
    (fun c => checkUser req c.userId (.invalidGrant "There is no 'user' for this code."))
    fun c => issueProg σ now (generateToken client req c.scope (client.checkGrantType "refresh_token"))
      ⟨client, c.userId, some c, none, req.resource⟩ req.uuid (.code c.id) (.consume c.id)

/-- `RotatingRefreshGrant` -/
def refreshProg (client : ClientRow) (refreshToken : String) (req : TokenRequest) : TokenProg :=
  redeemProg (fun st => getValidRefreshToken σ st now refreshToken) (refreshReusedIds σ · refreshToken)
    (.invalidGrant "") (fun old => .token old.id) (checkRefresh client · req)
    (fun old => checkUser req old.userId (.invalidRequest "There is no 'user' for this token."))
    fun old => issueProg σ now (generateToken client req (orElse req.scope old.scope) true)
      ⟨client, old.userId, none, some old, req.resource⟩ req.uuid (.token old.id) (.revoke old.id)

/-- `create_token_response` -/
def tokenProg (clientId : String) (p : GrantParam) (req : TokenRequest) : TokenProg :=
  .read fun st => orRefused (authenticateClient st clientId p) fun client =>
    match p with
    | .authorizationCode code => codeProg σ now client code req
    | .refreshToken token => refreshProg σ now client token req

end Programs

/-! ### By itself -/

section Solo

variable {σ : Site} {st : Store} {now : Time} {n : ℕ}

/-- The reply without the row of the credential. -/
def RaceReply.result : RaceReply → Except OAuth2Error TokenRow
  | .token _ t => .ok t
  | .refused e => .error e

/-- What a request does by itself: the tables behind it, and its reply. -/
def TokenProg.run (p : TokenProg) (st : Store) (n : ℕ) : Store × Except OAuth2Error TokenRow :=
  ((p.solo oauthTables st n).1, (p.solo oauthTables st n).2.result)

lemma run_orRefused {α : Type} (x : Except OAuth2Error α) (rest : α → TokenProg) :
    (orRefused x rest).run st n =
      match x with
      | .error e => (st, .error e)
      | .ok a => (rest a).run st n := by
  cases x <;> rfl

lemma revoke_nil (st : Store) : revoke st (·.id ∈ ([] : List ℕ)) = st := by
  unfold revoke
  rw [updateWhere_of_none fun _ _ => by simp]

lemma revoke_cons (st : Store) (id : ℕ) (ids : List ℕ) :
    revoke (revoke st (·.id = id)) (·.id ∈ ids) = revoke st (·.id ∈ id :: ids) := by
  unfold revoke
  simp only [List.mem_cons, Bool.decide_or]
  rw [updateWhere_or (f := fun r : TokenRow => { r with revoked := true }) _ fun _ => rfl]

/-- Rows that are revoked one after the other are revoked. -/
lemma run_revokeEach (ids : List ℕ) (rest : TokenProg) :
    (revokeEach ids rest).run st n = rest.run (revoke st (·.id ∈ ids)) n := by
  induction ids generalizing st with
  | nil =>
    rw [revoke_nil]
    rfl
  | cons id ids ih =>
    have hstep : (revokeEach (id :: ids) rest).run st n = (revokeEach ids rest).run (revoke st (·.id = id)) n := rfl
    rw [hstep, ih, revoke_cons]

/-- The rows of a family are those that `_revoke_family` revokes. -/
lemma revoke_familyIds (h : primaryKeys st = true) (familyId : String) :
    revoke st (·.id ∈ familyIds st familyId) = revokeFamily st familyId := by
  unfold familyIds revokeFamily
  split_ifs with hf
  · exact revoke_nil st
  · unfold revoke
    have hap : Apart (fun a b : TokenRow => a.id = b.id) st.tokens := .of_nodup (of_decide_eq_true h).2
    congr 1
    refine updateWhere_congr fun t ht => ?_
    rw [Bool.eq_iff_iff, decide_eq_true_eq, List.mem_map]
    constructor
    · rintro ⟨t', ht', he⟩
      obtain ⟨hm, hp⟩ := List.mem_filter.1 ht'
      rw [← hap t' hm t ht he]
      exact hp
    · exact fun hp => ⟨t, List.mem_filter.2 ⟨ht, hp⟩, rfl⟩

lemma revoke_reusedIds (h : primaryKeys st = true) (code : String) :
    revoke st (·.id ∈ reusedIds σ st code) = detectReuse σ st code := by
  unfold reusedIds detectReuse
  cases st.codes.find? fun c => c.codeHash = σ.sha256Hex code && c.used with
  | none => exact revoke_nil st
  | some spent =>
    simp only
    split_ifs
    · exact revoke_familyIds h _
    · exact revoke_nil st

lemma revoke_refreshReusedIds (h : primaryKeys st = true) (refreshToken : String) :
    revoke st (·.id ∈ refreshReusedIds σ st refreshToken) = detectRefreshReuse σ st refreshToken := by
  unfold refreshReusedIds detectRefreshReuse
  cases st.tokens.find? fun t => t.refreshTokenHash = some (σ.sha256Hex refreshToken) && t.revoked with
  | none => exact revoke_nil st
  | some spent => exact revoke_familyIds h _

/-- `save_token` and the spending of the credential. -/
lemma run_issueProg (token : BearerToken) (req : OAuth2Request) (uuid : String) (source : RowKey) (spend : RowWrite) :
    (issueProg σ now token req uuid source spend).run st st.nextId =
      match saveToken σ st now token req uuid with
      | .error e => (st, .error e)
      | .ok r => (spend.apply r.1, .ok r.2) := by
  rw [saveToken_eq]
  unfold issueProg
  rw [run_orRefused]
  cases resolveAudienceAndFamily σ req uuid with
  | error e => rfl
  | ok r =>
    unfold linkProg linkFamily
    cases req.authorizationCode <;> rfl

/-- **A grant by itself.** -/
lemma run_redeemProg {α : Type} {find : Store → Option α} {replayed : Store → List ℕ} {invalid : OAuth2Error}
    {key : α → RowKey} {check user : α → Except OAuth2Error Unit} {issue : α → TokenProg} :
    (redeemProg find replayed invalid key check user issue).run st n =
      match find st with
      | none => (revoke st (·.id ∈ replayed st), .error invalid)
      | some a =>
        match check a with
        | .error e => (st, .error e)
        | .ok _ =>
          match user a with
          | .error e => (st, .error e)
          | .ok _ => (issue a).run st n := by
  have hread : (redeemProg find replayed invalid key check user issue).run st n =
      TokenProg.run (match find st with
        | none => revokeEach (replayed st) (.done (.refused invalid))
        | some a => .lock (key a) (orRefused (check a) fun _ => orRefused (user a) fun _ => issue a)) st n := rfl
  rw [hread]
  cases find st with
  | none =>
    simp only
    rw [run_revokeEach]
    rfl
  | some a =>
    have hlock : TokenProg.run (.lock (key a) (orRefused (check a) fun _ => orRefused (user a) fun _ => issue a)) st n =
      (orRefused (check a) fun _ => orRefused (user a) fun _ => issue a).run st n := rfl
    simp only
    rw [hlock, run_orRefused]
    cases check a with
    | error e => rfl
    | ok _ =>
      simp only
      rw [run_orRefused]
      cases user a <;> rfl

lemma checkUser_cases {req : TokenRequest} {userId : ℕ} {error : OAuth2Error} :
    checkUser req userId error = if !req.userActive userId then .error error else .ok () := by
  unfold checkUser
  cases req.userActive userId <;> rfl

/-- **The code grant by itself** is `pkceCodeGrant`. -/
lemma run_codeProg (h : primaryKeys st = true) (client : ClientRow) (code : String) (req : TokenRequest) :
    (codeProg σ now client code req).run st st.nextId =
      ((pkceCodeGrant σ st now client code req).1, (pkceCodeGrant σ st now client code req).2.map Prod.snd) := by
  unfold codeProg pkceCodeGrant queryAuthorizationCode
  rw [run_redeemProg, revoke_reusedIds h]
  cases getValidCode σ st now code client.id with
  | none => rfl
  | some c =>
    simp only [checkUser_cases]
    rw [run_issueProg]
    unfold checkCode
    by_cases hr : c.redirectUri ≠ "" ∧ req.redirectUri ≠ c.redirectUri
    · rw [if_pos hr, if_pos hr]
      rfl
    rw [if_neg hr, if_neg hr]
    cases validateCodeVerifier c req with
    | error e => rfl
    | ok _ =>
      cases req.userActive c.userId with
      | false => rfl
      | true =>
        simp only [Bool.not_true, Bool.false_eq_true, if_false]
        cases saveToken σ st now (generateToken client req c.scope (client.checkGrantType "refresh_token"))
          ⟨client, c.userId, some c, none, req.resource⟩ req.uuid <;> rfl

/-- **The refresh grant by itself** is `rotatingRefreshGrant`. -/
lemma run_refreshProg (h : primaryKeys st = true) (client : ClientRow) (refreshToken : String) (req : TokenRequest) :
    (refreshProg σ now client refreshToken req).run st st.nextId =
      ((rotatingRefreshGrant σ st now client refreshToken req).1,
        (rotatingRefreshGrant σ st now client refreshToken req).2.map Prod.snd) := by
  unfold refreshProg rotatingRefreshGrant authenticateRefreshToken
  rw [run_redeemProg, revoke_refreshReusedIds h]
  cases getValidRefreshToken σ st now refreshToken with
  | none => rfl
  | some old =>
    simp only [checkUser_cases]
    rw [run_issueProg]
    unfold checkRefresh
    by_cases hc : old.client ≠ client.id
    · rw [if_pos hc, if_pos hc]
      rfl
    rw [if_neg hc, if_neg hc]
    cases validateTokenScope old req.scope with
    | false => rfl
    | true =>
      cases req.userActive old.userId with
      | false => rfl
      | true =>
        simp only [Bool.not_true, Bool.false_eq_true, if_false]
        cases saveToken σ st now (generateToken client req (orElse req.scope old.scope) true)
          ⟨client, old.userId, none, some old, req.resource⟩ req.uuid <;> rfl

/-- **A request by itself** is `create_token_response`. -/
theorem run_tokenProg (h : primaryKeys st = true) (clientId : String) (p : GrantParam) (req : TokenRequest) :
    (tokenProg σ now clientId p req).run st st.nextId = createTokenResponse σ st now clientId p req := by
  have hread : (tokenProg σ now clientId p req).run st st.nextId =
      (orRefused (authenticateClient st clientId p) fun client => match p with
        | .authorizationCode code => codeProg σ now client code req
        | .refreshToken token => refreshProg σ now client token req).run st st.nextId := rfl
  rw [hread, run_orRefused]
  unfold createTokenResponse
  cases authenticateClient st clientId p with
  | error e => rfl
  | ok client =>
    cases p with
    | authorizationCode code => exact run_codeProg h client code req
    | refreshToken token => exact run_refreshProg h client token req

/-- A request keeps the primary keys, when the ids come from the sequence. -/
lemma createTokenResponse_keys (h : primaryKeys st = true) (hfresh : ∀ t ∈ st.tokens, t.id < st.nextId)
    (clientId : String) (p : GrantParam) (req : TokenRequest) :
    primaryKeys (createTokenResponse σ st now clientId p req).1 = true := by
  obtain ⟨hcodes, htokens⟩ := of_decide_eq_true h
  have hrevoke : ∀ st', Revokes st st' → primaryKeys st' = true := by
    rintro st' ⟨q, rfl⟩
    have hids : (revoke st q).tokens.map (·.id) = st.tokens.map (·.id) := map_updateWhere TokenRow.id fun _ => rfl
    exact decide_eq_true ⟨hcodes, by rw [hids]; exact htokens⟩
  have happend : ∀ t : TokenRow, t.id = st.nextId → ((st.tokens ++ [t]).map (·.id)).Nodup := by
    intro t ht
    refine nodup_key_append htokens fun t' ht' => ?_
    have := hfresh t' ht'
    omega
  unfold createTokenResponse
  cases authenticateClient st clientId p with
  | error e => exact h
  | ok client =>
    cases p with
    | authorizationCode code =>
      rcases pkceCodeGrant_cases σ st now client code req with ⟨-, e, he⟩ | ⟨c, e, -, he⟩ | ⟨c, audience, -, he⟩
      · simp only [he]
        exact hrevoke _ (detectReuse_revokes σ st code)
      · simp only [he]
        exact h
      · simp only [he]
        have hids : (spendCode st.codes c req.uuid).map (·.id) = st.codes.map (·.id) :=
          map_updateWhere CodeRow.id fun _ => rfl
        exact decide_eq_true ⟨by rw [hids]; exact hcodes, happend _ rfl⟩
    | refreshToken token =>
      rcases rotatingRefreshGrant_cases σ st now client token req with ⟨-, e, he⟩ | ⟨old, e, -, he⟩ | ⟨old, -, -, he⟩
      · simp only [he]
        exact hrevoke _ (detectRefreshReuse_revokes σ st token)
      · simp only [he]
        exact h
      · simp only [he]
        have hids : ∀ new, (rotate st.tokens old new).map (·.id) = (st.tokens ++ [new]).map (·.id) :=
          fun new => map_updateWhere TokenRow.id fun _ => rfl
        exact decide_eq_true ⟨hcodes, by rw [hids]; exact happend _ rfl⟩

end Solo

/-! ### Spent rows -/

section Spent

variable {σ : Site} {st : Store} {now : Time} {k : RowKey}

/-- Whether the row is spent: a code that is used, a token that is revoked. -/
def spentMark (st : Store) : RowKey → Option Bool
  | .code id => (st.codes.find? (·.id = id)).map (·.used)
  | .token id => (st.tokens.find? (·.id = id)).map (·.revoked)

inductive Spends : RowWrite → RowKey → Prop
  | code (id : ℕ) : Spends (.consume id) (.code id)
  | token (id : ℕ) : Spends (.revoke id) (.token id)

/-- A column of the row with an id, behind the rewriting of a row. -/
lemma column_updateWhere {α : Type*} (key : α → ℕ) (f : α → α) (hf : ∀ r, key (f r) = key r) (column : α → Bool)
    (id id' : ℕ) (l : List α) : ((updateWhere (key · = id') f l).find? (key · = id)).map column =
      (l.find? (key · = id)).map fun r => if id = id' then column (f r) else column r := by
  have hkey : (fun r => decide (key r = id)) ∘ (fun r => if decide (key r = id') then f r else r) =
      fun r => decide (key r = id) := by
    funext r
    simp only [Function.comp]
    split_ifs <;> simp [hf]
  unfold updateWhere
  rw [List.find?_map, hkey]
  cases hr : l.find? fun r => decide (key r = id) with
  | none => rfl
  | some r =>
    have hid : key r = id := by simpa using List.find?_some hr
    by_cases he : id = id' <;> simp [hid, he]

/-- **What a write does to the marks.** -/
lemma spentMark_apply (w : RowWrite) (st : Store) (k : RowKey) : spentMark (w.apply st) k =
    match w with
    | .insert t => (spentMark st k).or (if RowKey.token t.id = k then some t.revoked else none)
    | .link _ _ => spentMark st k
    | .consume id => if RowKey.code id = k then (spentMark st k).map fun _ => true else spentMark st k
    | .revoke id => if RowKey.token id = k then (spentMark st k).map fun _ => true else spentMark st k := by
  cases w with
  | insert t =>
    cases k with
    | code id => simp [spentMark, RowWrite.apply, insertToken]
    | token id =>
      simp only [spentMark, RowWrite.apply, insertToken, List.find?_append, RowKey.token.injEq]
      by_cases hid : t.id = id
      · simp [hid]
      · simp [hid]
  | link id familyId =>
    cases k with
    | code id' =>
      have hcol := column_updateWhere CodeRow.id (fun r => { r with refreshFamilyId := familyId }) (fun _ => rfl)
        CodeRow.used id' id st.codes
      exact hcol.trans (by simp [spentMark])
    | token id' => rfl
  | consume id =>
    cases k with
    | code id' =>
      have hcol := column_updateWhere CodeRow.id (fun r => { r with used := true }) (fun _ => rfl)
        CodeRow.used id' id st.codes
      refine hcol.trans ?_
      by_cases hid : id = id'
      · simp [spentMark, hid, Function.comp_def]
      · simp [spentMark, hid, Ne.symm hid]
    | token id' => simp [spentMark, RowWrite.apply]
  | revoke id =>
    cases k with
    | code id' => simp [spentMark, RowWrite.apply, revoke]
    | token id' =>
      have hcol := column_updateWhere TokenRow.id (fun r => { r with revoked := true }) (fun _ => rfl)
        TokenRow.revoked id' id st.tokens
      refine hcol.trans ?_
      by_cases hid : id = id'
      · simp [spentMark, hid, Function.comp_def]
      · simp [spentMark, hid, Ne.symm hid]

/-- **A row is spent once and for all.** -/
lemma spentMark_marks : Marks oauthTables spentMark Spends := by
  refine ⟨fun w st k hne => ?_, fun w st k b h => ?_, fun w st k b hs h => ?_⟩
  · refine (spentMark_apply w st k).trans ?_
    cases w with
    | insert t => simp [show RowKey.token t.id ≠ k from hne]
    | link id familyId => rfl
    | consume id => exact if_neg hne
    | revoke id => exact if_neg hne
  · have ha : spentMark (oauthTables.apply w st) k = _ := spentMark_apply w st k
    rw [ha, h]
    cases w with
    | insert t => exact ⟨b, rfl, fun hb => hb⟩
    | link id familyId => exact ⟨b, rfl, fun hb => hb⟩
    | consume id =>
      simp only
      split_ifs
      · exact ⟨true, rfl, fun _ => rfl⟩
      · exact ⟨b, rfl, fun hb => hb⟩
    | revoke id =>
      simp only
      split_ifs
      · exact ⟨true, rfl, fun _ => rfl⟩
      · exact ⟨b, rfl, fun hb => hb⟩
  · have ha : spentMark (oauthTables.apply w st) k = _ := spentMark_apply w st k
    rw [ha, h]
    cases hs with
    | code id => exact if_pos rfl
    | token id => exact if_pos rfl

/-- The row is one of the credential that is presented: it bears its hash. -/
inductive Bears (σ : Site) (st : Store) : GrantParam → RowKey → Prop
  | code {code : String} {c : CodeRow} (hc : c ∈ st.codes) (hhash : c.codeHash = σ.sha256Hex code) :
    Bears σ st (.authorizationCode code) (.code c.id)
  | token {token : String} {t : TokenRow} (ht : t ∈ st.tokens)
    (hhash : t.refreshTokenHash = some (σ.sha256Hex token)) : Bears σ st (.refreshToken token) (.token t.id)

/-- A row that is rewritten keeps the columns that the rewriting leaves alone. -/
lemma exists_updateWhere {α κ : Type*} (column : α → κ) (p : α → Bool) {f : α → α}
    (hf : ∀ r, column (f r) = column r) {l : List α} {r : α} (hr : r ∈ l) : ∃ r' ∈ updateWhere p f l, column r' = column r := by
  refine ⟨_, mem_updateWhere.2 ⟨r, hr, rfl⟩, ?_⟩
  split_ifs
  · exact hf r
  · rfl

/-- No write takes a row away from its credential. -/
lemma bears_apply {p : GrantParam} (w : RowWrite) (h : Bears σ st p k) : Bears σ (w.apply st) p k := by
  have hcode : ∀ (q : CodeRow → Bool) f, (∀ r, ((f r).id, (f r).codeHash) = (r.id, r.codeHash)) →
      Bears σ { st with codes := updateWhere q f st.codes } p k := by
    intro q f hf
    cases h with
    | @code code c hc hhash =>
      obtain ⟨c', hc', he⟩ := exists_updateWhere (fun r : CodeRow => (r.id, r.codeHash)) q hf hc
      obtain ⟨hid, hh⟩ := Prod.mk.inj he
      rw [← hid]
      exact .code hc' (hh.trans hhash)
    | token ht hhash => exact .token ht hhash
  cases w with
  | insert t =>
    cases h with
    | code hc hhash => exact .code hc hhash
    | token ht hhash => exact .token (List.mem_append_left _ ht) hhash
  | link id familyId => exact hcode _ _ fun _ => rfl
  | consume id => exact hcode _ _ fun _ => rfl
  | revoke id =>
    cases h with
    | code hc hhash => exact .code hc hhash
    | @token token t ht hhash =>
      obtain ⟨t', ht', he⟩ := exists_updateWhere (fun r : TokenRow => (r.id, r.refreshTokenHash))
        (fun r => decide (r.id = id)) (f := fun r => { r with revoked := true }) (fun _ => rfl) ht
      obtain ⟨hid, hh⟩ := Prod.mk.inj he
      rw [← hid]
      exact .token ht' (hh.trans hhash)

/-- What the query of a code finds is unspent, and is a row of the code. -/
lemma code_found (h : primaryKeys st = true) {code : String} {client : ℕ} {c : CodeRow}
    (hc : getValidCode σ st now code client = some c) :
    spentMark st (.code c.id) = some false ∧ Bears σ st (.authorizationCode code) (.code c.id) := by
  obtain ⟨hm, hhash, -, hused, -⟩ := getValidCode_spec hc
  have hfind : st.codes.find? (fun r => decide (r.id = c.id)) = some c := find?_key (of_decide_eq_true h).1 hm
  refine ⟨?_, .code hm hhash⟩
  show (st.codes.find? fun r => decide (r.id = c.id)).map (·.used) = some false
  rw [hfind, Option.map_some, hused]

/-- What the query of a refresh token finds is unspent, and is a row of the token. -/
lemma refresh_found (h : primaryKeys st = true) {token : String} {t : TokenRow}
    (ht : getValidRefreshToken σ st now token = some t) :
    spentMark st (.token t.id) = some false ∧ Bears σ st (.refreshToken token) (.token t.id) := by
  obtain ⟨hm, hhash, hrev, -⟩ := getValidRefreshToken_spec ht
  have hfind : st.tokens.find? (fun r => decide (r.id = t.id)) = some t := find?_key (of_decide_eq_true h).2 hm
  refine ⟨?_, .token hm hhash⟩
  show (st.tokens.find? fun r => decide (r.id = t.id)).map (·.revoked) = some false
  rw [hfind, Option.map_some, hrev]

/-- **A retry falls into the replay branch**: a credential whose rows are all spent is refused, and its family is
revoked. -/
theorem retry_replayed (h : primaryKeys st = true) {clientId : String} {p : GrantParam} {client : ClientRow}
    (hclient : authenticateClient st clientId p = .ok client)
    (hspent : ∀ k, Bears σ st p k → spentMark st k = some true) (req : TokenRequest) :
    Replayed σ st now clientId p (createTokenResponse σ st now clientId p req).1 ∧
      ∀ t, (createTokenResponse σ st now clientId p req).2 ≠ .ok t := by
  cases p with
  | authorizationCode code =>
    have hnone : getValidCode σ st now code client.id = none := by
      refine Option.eq_none_iff_forall_ne_some.2 fun c hc => ?_
      obtain ⟨hfalse, hb⟩ := code_found h hc
      rw [hspent _ hb] at hfalse
      cases hfalse
    have he : createTokenResponse σ st now clientId (.authorizationCode code) req =
        (detectReuse σ st code, .error (.invalidGrant "Invalid 'code' in request.")) := by
      unfold createTokenResponse pkceCodeGrant queryAuthorizationCode
      rw [hclient]
      simp only [hnone]
      rfl
    rw [he]
    exact ⟨.code hclient hnone, by simp⟩
  | refreshToken token =>
    have hnone : getValidRefreshToken σ st now token = none := by
      refine Option.eq_none_iff_forall_ne_some.2 fun t ht => ?_
      obtain ⟨hfalse, hb⟩ := refresh_found h ht
      rw [hspent _ hb] at hfalse
      cases hfalse
    have he : createTokenResponse σ st now clientId (.refreshToken token) req =
        (detectRefreshReuse σ st token, .error (.invalidGrant "")) := by
      unfold createTokenResponse rotatingRefreshGrant authenticateRefreshToken
      rw [hclient]
      simp only [hnone]
      rfl
    rw [he]
    exact ⟨.refresh hclient hnone, by simp⟩

end Spent

/-! ### What a transaction guarantees -/

section Guarantee

/-- Of a transaction that ends with these locks, these writes and this reply, on tables that were `st` at its start:
it has inserted the token of its reply and no other, for a row of its credential that was not spent, that it has
locked, and that it has spent. -/
structure Guarantee (σ : Site) (p : GrantParam) (st : Store) (locks : List RowKey) (ws : List RowWrite)
    (r : RaceReply) : Prop where
  inserts : ∀ t, .insert t ∈ ws ↔ ∃ k, r = .token k t
  claims : ∀ k t, r = .token k t →
    k ∈ locks ∧ spentMark st k = some false ∧ (∃ w ∈ ws, Spends w k) ∧ Bears σ st p k

variable {σ : Site} {p : GrantParam} {st view : Store} {now : Time} {locks : List RowKey} {ws : List RowWrite}

/-- A refusal guarantees nothing but that no token was inserted. -/
lemma guarantee_refused {e : OAuth2Error} (h : ∀ t, .insert t ∉ ws) : Guarantee σ p st locks ws (.refused e) :=
  ⟨fun t => ⟨fun ht => absurd ht (h t), fun ⟨_, hk⟩ => nomatch hk⟩, fun _ _ hr => nomatch hr⟩

lemma wp_orRefused {α : Type} {x : Except OAuth2Error α} {rest : α → TokenProg} (hws : ∀ t, .insert t ∉ ws)
    (h : ∀ a, x = .ok a → (rest a).wp oauthTables (Guarantee σ p) st view locks ws) :
    (orRefused x rest).wp oauthTables (Guarantee σ p) st view locks ws := by
  cases x with
  | error e => exact guarantee_refused hws
  | ok a => exact h a rfl

lemma wp_revokeEach (ids : List ℕ) {rest : TokenProg} (hws : ∀ t, .insert t ∉ ws)
    (h : ∀ view locks ws, (∀ t, .insert t ∉ ws) → rest.wp oauthTables (Guarantee σ p) st view locks ws) :
    (revokeEach ids rest).wp oauthTables (Guarantee σ p) st view locks ws := by
  induction ids generalizing view locks ws with
  | nil => exact h view locks ws hws
  | cons id ids ih =>
    have hws' : ∀ t, .insert t ∉ ws ++ [RowWrite.revoke id] := by
      intro t ht
      rcases List.mem_append.1 ht with ht | ht
      · exact hws t ht
      · cases List.mem_singleton.1 ht
    exact ih hws'

/-- **The issue of a token** for a row that is locked, and that it spends. -/
lemma wp_issueProg {token : BearerToken} {req : OAuth2Request} {uuid : String} {source : RowKey} {spend : RowWrite}
    (hlock : source ∈ locks) (hmark : spentMark st source = some false) (hspend : Spends spend source)
    (hbears : Bears σ st p source) :
    (issueProg σ now token req uuid source spend).wp oauthTables (Guarantee σ p) st view locks [] := by
  refine wp_orRefused (by simp) fun r _ id => ?_
  have hnot : ∀ t, spend ≠ .insert t := by
    rintro t rfl
    cases hspend
  -- the reply, behind the insert and whatever is written between it and the spending
  have hdone : ∀ (row : TokenRow) (locks' : List RowKey) (mid : List RowWrite), source ∈ locks' →
      (∀ w ∈ mid, ∀ t, w ≠ .insert t) →
      Guarantee σ p st locks' ((RowWrite.insert row :: mid) ++ [spend]) (.token source row) := by
    intro row locks' mid hlock' hmid
    refine ⟨fun t => ⟨fun ht => ?_, ?_⟩, fun k t hk => ?_⟩
    · rcases List.mem_append.1 ht with ht | ht
      · rcases List.mem_cons.1 ht with ht | ht
        · obtain rfl := RowWrite.insert.inj ht
          exact ⟨source, rfl⟩
        · exact absurd rfl (hmid _ ht t)
      · exact absurd (List.mem_singleton.1 ht).symm (hnot t)
    · rintro ⟨k, hk⟩
      obtain ⟨-, rfl⟩ := RaceReply.token.inj hk
      exact List.mem_append_left _ List.mem_cons_self
    · obtain ⟨rfl, -⟩ := RaceReply.token.inj hk
      exact ⟨hlock', hmark, ⟨spend, by simp, hspend⟩, hbears⟩
  cases req.authorizationCode with
  | none =>
    exact hdone _ _ [] (List.mem_cons_of_mem _ (List.mem_cons_of_mem _ hlock)) (by simp)
  | some c =>
    exact hdone _ _ [.link c.id r.2] (List.mem_cons_of_mem _ (List.mem_cons_of_mem _ (List.mem_cons_of_mem _ hlock)))
      (by simp)

/-- **A grant** whose query finds rows of its credential that are not spent. -/
lemma wp_redeemProg {α : Type} {find : Store → Option α} {replayed : Store → List ℕ} {invalid : OAuth2Error}
    {key : α → RowKey} {check user : α → Except OAuth2Error Unit} {issue : α → TokenProg}
    (hissue : ∀ a, find st = some a → (issue a).wp oauthTables (Guarantee σ p) st st [key a] []) :
    (redeemProg find replayed invalid key check user issue).wp oauthTables (Guarantee σ p) st st [] [] := by
  have hread : (match find st with
      | none => revokeEach (replayed st) (.done (.refused invalid))
      | some a => .lock (key a) (orRefused (check a) fun _ => orRefused (user a) fun _ => issue a)).wp
        oauthTables (Guarantee σ p) st st [] [] := by
    cases hf : find st with
    | none => exact wp_revokeEach _ (by simp) fun _ _ _ hws => guarantee_refused hws
    | some a => exact wp_orRefused (by simp) fun _ _ => wp_orRefused (by simp) fun _ _ => hissue a hf
  exact hread

/-- **Every request** keeps its guarantee, on tables with primary keys. -/
lemma wp_tokenProg (h : primaryKeys st = true) (clientId : String) (req : TokenRequest) :
    (tokenProg σ now clientId p req).wp oauthTables (Guarantee σ p) st st [] [] := by
  have hread : (orRefused (authenticateClient st clientId p) fun client => match p with
      | .authorizationCode code => codeProg σ now client code req
      | .refreshToken token => refreshProg σ now client token req).wp oauthTables (Guarantee σ p) st st [] [] := by
    refine wp_orRefused (by simp) fun client _ => ?_
    cases p with
    | authorizationCode code =>
      refine wp_redeemProg fun c hc => ?_
      obtain ⟨hmark, hbears⟩ := code_found h hc
      exact wp_issueProg List.mem_cons_self hmark (.code c.id) hbears
    | refreshToken token =>
      refine wp_redeemProg fun old hold => ?_
      obtain ⟨hmark, hbears⟩ := refresh_found h hold
      exact wp_issueProg List.mem_cons_self hmark (.token old.id) hbears
  exact hread

end Guarantee

section Race

variable {Q : Type}

/-- The transaction of a request `q`, from a client and with a credential.  It starts at a time, with the request as
it is served then: a retry draws its token anew. -/
def attempt (σ : Site) (ask : Q → String × GrantParam) (q : Q) (e : Time × TokenRequest) : TokenProg :=
  tokenProg σ e.1 (ask q).1 (ask q).2 e.2

variable [DecidableEq Q]

/-- The requests `Q`, their steps in any order. -/
def race (σ : Site) (ask : Q → String × GrantParam) (st : Store) :
    Sys (Locking.State Q Store RowKey RowWrite RaceReply) (Move Q (Time × TokenRequest)) :=
  system oauthTables (attempt σ ask) st

variable {σ : Site} {ask : Q → String × GrantParam} {st : Store}
  {s : Locking.State Q Store RowKey RowWrite RaceReply}

/-- **A request that nobody races with** can end as `create_token_response` does. -/
theorem race_alone {q : Q} (hphase : s.phase q = .idle) (howner : ∀ k, s.owner k = none)
    (hkeys : primaryKeys s.store = true) (hseq : s.seq = s.store.nextId)
    (hfresh : ∀ t ∈ s.store.tokens, t.id < s.store.nextId) (now : Time) (req : TokenRequest) :
    ∃ ms s' r, (race σ ask st).Run s ms s' ∧ s'.phase q = .ended r ∧
      (s'.store, r.result) = createTokenResponse σ s.store now (ask q).1 (ask q).2 req := by
  have hsolo : (attempt σ ask q (now, req)).run s.store s.seq =
      createTokenResponse σ s.store now (ask q).1 (ask q).2 req := by
    rw [hseq]
    exact run_tokenProg hkeys _ _ req
  have hvalid : primaryKeys ((attempt σ ask q (now, req)).run s.store s.seq).1 = true := by
    rw [hsolo]
    exact createTokenResponse_keys hkeys hfresh _ _ req
  have hrun : ∃ ms s', (race σ ask st).Run s ms s' ∧
      s'.store = ((attempt σ ask q (now, req)).solo oauthTables s.store s.seq).1 ∧
      s'.phase q = .ended ((attempt σ ask q (now, req)).solo oauthTables s.store s.seq).2 :=
    alone_run hphase howner (now, req) hvalid
  obtain ⟨ms, s', hrun, hstore, hend⟩ := hrun
  refine ⟨ms, s', _, hrun, hend, ?_⟩
  rw [← hsolo, hstore]
  rfl

/-- The reply is a token for this row. -/
def RaceReply.IsFor (r : RaceReply) (k : RowKey) : Prop := ∃ t, r = .token k t

/-- The committed transaction has inserted a token for this row. -/
def Creates (c : Commit Q RowWrite RaceReply) (k : RowKey) : Prop :=
  ∃ t, .insert t ∈ c.writes ∧ c.reply = .token k t

/-- **Single use**, in a state of the race. -/
structure SingleUse (σ : Site) (ask : Q → String × GrantParam)
    (s : Locking.State Q Store RowKey RowWrite RaceReply) : Prop where
  /-- A token is only inserted for a row of the credential of its request, and that row is spent. -/
  source : ∀ c ∈ s.log, ∀ t, .insert t ∈ c.writes →
    ∃ k, c.reply = .token k t ∧ Bears σ s.store (ask c.req).2 k ∧ spentMark s.store k = some true
  /-- No two committed transactions have inserted a token for the same row. -/
  once : s.log.Pairwise fun c c' => ∀ k, Creates c k → ¬ Creates c' k
  /-- Who replies with a token has committed it. -/
  winner : ∀ q k t, s.phase q = .ended (.token k t) → ∃ c ∈ s.log, c.req = q ∧ c.reply = .token k t ∧ Creates c k
  /-- No two requests reply with tokens for the same row. -/
  same : ∀ q q' k t t', s.phase q = .ended (.token k t) → s.phase q' = .ended (.token k t') → q = q'
  /-- A request whose credential is that row's alone replies with no token, when another has replied with one. -/
  loser : ∀ q q' k t, q ≠ q' → s.phase q = .ended (.token k t) →
    (∀ k', Bears σ s.store (ask q').2 k' → k' = k) → ∀ k' t', s.phase q' ≠ .ended (.token k' t')

/-- **A code and a refresh token are good for one token**, however many requests there are and in whatever order
their steps are taken. -/
theorem single_use (hkeys : primaryKeys st = true) (hr : (race σ ask st).Reachable s) : SingleUse σ ask s := by
  have hinv : Locking.Inv oauthTables (fun q => Guarantee σ (ask q).2) st s :=
    inv_reachable (fun q e st' h' => wp_tokenProg h' (ask q).1 e.2) hkeys hr
  have hclaims : ∀ (q : Q) st' locks ws r, Guarantee σ (ask q).2 st' locks ws r → ∀ k, r.IsFor k →
      k ∈ locks ∧ spentMark st' k = some false ∧ ∃ w ∈ ws, Spends w k := by
    rintro q st' locks ws r hg k ⟨t, ht⟩
    obtain ⟨hl, hm, hs, -⟩ := hg.claims k t ht
    exact ⟨hl, hm, hs⟩
  have hbears : ∀ q k t, s.phase q = .ended (.token k t) → Bears σ s.store (ask q).2 k := by
    intro q k t hq
    exact hinv.ended_kept (I := fun st' => Bears σ st' (ask q).2 k) (fun w st' h' => bears_apply w h') hq
      fun st' locks ws hg => (hg.claims k t rfl).2.2.2
  have hinserts : ∀ c ∈ s.log, ∀ t, .insert t ∈ c.writes ↔ ∃ k, c.reply = .token k t := by
    intro c hc
    obtain ⟨before, after, he⟩ := List.append_of_mem hc
    obtain ⟨n, locks, hg, -⟩ := hinv.log before c after he
    exact hg.inserts
  have hpair : s.log.Pairwise fun c c' => ∀ k, c.reply.IsFor k → ¬ c'.reply.IsFor k :=
    hinv.pairwise hclaims spentMark_marks
  have hsame : ∀ q q' k t t', s.phase q = .ended (.token k t) → s.phase q' = .ended (.token k t') → q = q' := by
    intro q q' k t t' hq hq'
    have hk : (RaceReply.token k t).IsFor k := ⟨t, rfl⟩
    have hk' : (RaceReply.token k t').IsFor k := ⟨t', rfl⟩
    exact hinv.ended_unique hpair hq hq' hk hk'
  refine ⟨fun c hc t ht => ?_, ?_, fun q k t hq => ?_, hsame, ?_⟩
  · obtain ⟨k, hk⟩ := (hinserts c hc t).1 ht
    obtain ⟨before, after, he⟩ := List.append_of_mem hc
    have hmark : spentMark (replay oauthTables st (before ++ c :: after)) k = some true :=
      hinv.marked hclaims spentMark_marks he ⟨t, hk⟩ after
    refine ⟨k, hk, hbears c.req k t (hk ▸ hinv.once c hc), ?_⟩
    rw [hinv.store, he]
    exact hmark
  · exact hpair.imp fun h k ⟨t, _, ht⟩ ⟨t', _, ht'⟩ => h k ⟨t, ht⟩ ⟨t', ht'⟩
  · obtain ⟨c, hc, hreq, hreply⟩ := hinv.ended q _ hq
    exact ⟨c, hc, hreq, hreply, t, (hinserts c hc t).2 ⟨k, hreply⟩, hreply⟩
  · intro q q' k t hne hq honly k' t' hq'
    obtain rfl := honly k' (hbears q' k' t' hq')
    exact hne (hsame q q' k' t t' hq hq')

end Race

/-- Two requests with one code.  Both find it; the first locks it and commits, the second cannot have it any more,
starts again, and finds it used. -/
def codeRace : Option (Locking.State ℕ Store RowKey RowWrite RaceReply) :=
  let first := sampleRequest "At2xACCESS" "Rt2xREFRESH" "1f0e3dad99908345f7439f8ffabdffc4"
  let second := sampleRequest "At3xACCESS" "Rt3xREFRESH" "98f13708210194c475687be6106a3b84"
  let find (q : ℕ) : List (Move ℕ (Time × TokenRequest)) := [.go q, .go q]
  moves oauthTables (.start codeState.store codeState.store.nextId)
    (attempt sampleSite fun _ => ("mcp-client-1", .authorizationCode "Sq1xCODE"))
    ([.start 0 (codeState.now, first), .start 1 (codeState.now, second)] ++ find 0 ++ find 1 ++
      List.replicate 7 (.go 0) ++ [.abort 1, .start 1 (codeState.now, second)] ++ find 1 ++ List.replicate 2 (.go 1))

/-- The first request replies with a token and the second with an error, which has revoked it. -/
theorem single_use_code : ∃ s, codeRace = some s ∧
    SingleUse sampleSite (fun _ => ("mcp-client-1", .authorizationCode "Sq1xCODE")) s ∧
    s.log.map (·.req) = [0, 1] ∧ ((s.phase 0).reply?.map (·.result.isOk)) = some true ∧
    (s.phase 1).reply? = some (.refused (.invalidGrant "Invalid 'code' in request.")) ∧
    s.store.tokens.map (·.revoked) = [true] := by
  have hkeys : primaryKeys codeState.store = true := by decide +kernel
  have hrun : (codeRace.map fun s => (s.log.map (·.req), (s.phase 0).reply?.map (·.result.isOk),
      (s.phase 1).reply?, s.store.tokens.map (·.revoked))) =
      some ([0, 1], some true, some (.refused (.invalidGrant "Invalid 'code' in request.")), [true]) := by
    decide +kernel
  obtain ⟨s, hs, he⟩ := Option.map_eq_some_iff.1 hrun
  simp only [Prod.mk.injEq] at he
  obtain ⟨hlog, hfirst, hsecond, htokens⟩ := he
  exact ⟨s, hs, single_use hkeys (reachable_moves (reachable_start _ _ _ _) hs), hlog, hfirst, hsecond, htokens⟩

end AdvMcp.OAuth
