import AdvMcp.Lib.Batched
import AdvMcp.Lib.Table
import AdvMcp.OAuth.Rows

/-!
# The store of codes and tokens

The methods of `models/oauth_code.py` and `models/oauth_token.py` as functions on the tables.
A request is one transaction, so a method maps the tables before it to the tables after it.
-/

namespace AdvMcp.OAuth

open AdvMcp.Lib AdvMcp.Py

/-! ### What authlib hands to the callbacks -/

/-- The errors of authlib that the token endpoint answers. -/
inductive OAuth2Error where
  | invalidClient
  | unauthorizedClient
  | invalidGrant (description : String)
  | invalidRequest (description : String)
  | invalidScope
  | accessDenied
  deriving DecidableEq

/-- The token that authlib's generator made. -/
structure BearerToken where
  accessToken : String
  refreshToken : Option String
  expiresIn : Option ℤ
  scope : String

/-- The request that authlib hands to `save_token`: the client, the user, the credential the grant
accepted, and the `resource` parameter. -/
structure OAuth2Request where
  client : ClientRow
  user : ℕ
  authorizationCode : Option CodeRow
  refreshToken : Option TokenRow
  resource : String

def codeTtlSeconds : ℤ := 60
def refreshTokenTtlSeconds : ℤ := 30 * 24 * 3600
def dcrClientTtlDays : ℤ := 30
def gcBatchSize : ℕ := 1000

def resourceUrl (σ : Site) : String := σ.baseUrl ++ "/mcp_server"

def acceptedResources (σ : Site) : List String :=
  [σ.baseUrl ++ "/mcp_server", σ.baseUrl ++ "/mcp_server/rpc"]

section Methods

variable (σ : Site) (st : Store) (now : Time)

/-! ### `adv.oauth.code` -/

/-- `_save_code`, on the values of its row. -/
def saveCode (code : String) (client user : ℕ) (redirectUri scope codeChallenge
    codeChallengeMethod resource : String) : Store × CodeRow :=
  let row : CodeRow :=
    { id := st.nextId
      codeHash := σ.sha256Hex code
      client := client
      userId := user
      redirectUri := redirectUri
      scope := scope
      codeChallenge := codeChallenge
      codeChallengeMethod := orElse codeChallengeMethod "S256"
      resource := resource
      expiresAt := now + codeTtlSeconds
      used := false
      refreshFamilyId := "" }
  ({ st with codes := st.codes ++ [row], nextId := st.nextId + 1 }, row)

def getValidCode (code : String) (client : ℕ) : Option CodeRow :=
  st.codes.find? fun c =>
    c.codeHash = σ.sha256Hex code && c.client = client && !c.used && decide (now < c.expiresAt)

/-- `_consume` -/
def consume (c : CodeRow) : Store :=
  { st with codes := updateWhere (·.id = c.id) (fun r => { r with used := true }) st.codes }

/-! ### `adv.oauth.token` -/

/-- `_revoke`, on the rows that satisfy `p`. -/
def revoke (p : TokenRow → Bool) : Store :=
  { st with tokens := updateWhere p (fun r => { r with revoked := true }) st.tokens }

def revokeFamily (familyId : String) : Store :=
  if familyId = "" then st
  else revoke st fun t => t.refreshFamilyId = familyId && !t.revoked

/-- `_detect_reuse` -/
def detectReuse (code : String) : Store :=
  match st.codes.find? fun c => c.codeHash = σ.sha256Hex code && c.used with
  | some spent => if spent.refreshFamilyId ≠ "" then revokeFamily st spent.refreshFamilyId else st
  | none => st

/-- `_resolve_audience_and_family`; `uuid` is what `uuid.uuid4().hex` returns. -/
def resolveAudienceAndFamily (req : OAuth2Request) (uuid : String) :
    Except OAuth2Error (String × String) :=
  let familyId := match req.refreshToken with
    | some old => old.refreshFamilyId
    | none => uuid
  match req.authorizationCode, req.refreshToken with
  | some authCode, _ =>
    if authCode.resource ≠ "" ∧ req.resource ≠ "" ∧
        rstrip '/' req.resource ≠ rstrip '/' authCode.resource then
      .error (.invalidRequest "The 'resource' does not match the authorization request.")
    else .ok (orElse (orElse authCode.resource req.resource) (resourceUrl σ), familyId)
  | none, some old => .ok (old.audience, familyId)
  | none, none => .ok (orElse req.resource (resourceUrl σ), familyId)

def saveToken (token : BearerToken) (req : OAuth2Request) (uuid : String) :
    Except OAuth2Error (Store × TokenRow) :=
  match resolveAudienceAndFamily σ req uuid with
  | .error e => .error e
  | .ok (audience, familyId) =>
    let scope := match req.authorizationCode, req.refreshToken with
      | some authCode, _ => authCode.scope
      | none, some old => old.scope
      | none, none => token.scope
    let refresh := token.refreshToken.filter (· ≠ "")
    let row : TokenRow :=
      { id := st.nextId
        accessTokenHash := σ.sha256Hex token.accessToken
        refreshTokenHash := refresh.map σ.sha256Hex
        client := req.client.id
        userId := req.user
        scope := scope
        audience := audience
        accessExpiresAt := now + token.expiresIn.getD 0
        refreshExpiresAt := refresh.map fun _ => now + refreshTokenTtlSeconds
        revoked := false
        refreshFamilyId := familyId }
    let codes := match req.authorizationCode with
      | some authCode => updateWhere (·.id = authCode.id)
          (fun c => { c with refreshFamilyId := familyId }) st.codes
      | none => st.codes
    .ok ({ st with codes := codes, tokens := st.tokens ++ [row], nextId := st.nextId + 1 }, row)

def getValidAccessToken (accessToken : String) : Option TokenRow :=
  st.tokens.find? fun t =>
    t.accessTokenHash = σ.sha256Hex accessToken && !t.revoked && decide (now < t.accessExpiresAt)

def getValidRefreshToken (refreshToken : String) : Option TokenRow :=
  st.tokens.find? fun t =>
    t.refreshTokenHash = some (σ.sha256Hex refreshToken) && !t.revoked &&
      after t.refreshExpiresAt now

def detectRefreshReuse (refreshToken : String) : Store :=
  match st.tokens.find? fun t =>
      t.refreshTokenHash = some (σ.sha256Hex refreshToken) && t.revoked with
  | some spent => revokeFamily st spent.refreshFamilyId
  | none => st

/-- `action_revoke`, on the selected ids; without the admin group it raises `AccessError`. -/
def actionRevoke (isAdmin : Bool) (ids : List ℕ) : Except String Store :=
  if isAdmin then .ok (revoke st (·.id ∈ ids))
  else .error "Only Adv MCP administrators may revoke OAuth tokens."

/-! ### Garbage collection -/

/-- A row that is not revoked and whose access or refresh expiry lies ahead. -/
def isLive (t : TokenRow) : Bool :=
  !t.revoked && (decide (now < t.accessExpiresAt) || after t.refreshExpiresAt now)

def liveTokens : List TokenRow := st.tokens.filter (isLive now)

def liveFamilyIds : List String := (liveTokens st now).map (·.refreshFamilyId)

/-- The filter of `_gc_oauth` on an expired code: used, and of a family with a live token. -/
def isProtected (live : List String) (c : CodeRow) : Bool :=
  c.used && c.refreshFamilyId ≠ "" && c.refreshFamilyId ∈ live

/-- The domain by which `_gc_oauth` searches tokens. -/
def isSpentToken (t : TokenRow) : Bool :=
  decide (t.accessExpiresAt < now) && (t.refreshExpiresAt.isNone || before t.refreshExpiresAt now)

/-- The domain by which `_gc_oauth` searches clients. -/
def isStaleClient (live : List ℕ) (c : ClientRow) : Bool :=
  c.createdVia = "dcr" && decide (c.createDate < now - dcrClientTtlDays * 24 * 3600) && c.id ∉ live

def unlinkCodes (rows : List CodeRow) : Store :=
  { st with codes := st.codes.filter fun c => c.id ∉ rows.map (·.id) }

def unlinkTokens (rows : List TokenRow) : Store :=
  { st with tokens := st.tokens.filter fun t => t.id ∉ rows.map (·.id) }

/-- Deleting a client deletes its codes and its tokens: `ondelete="cascade"`. -/
def unlinkClients (rows : List ClientRow) : Store :=
  { st with
    clients := st.clients.filter fun c => c.id ∉ rows.map (·.id)
    codes := st.codes.filter fun c => c.client ∉ rows.map (·.id)
    tokens := st.tokens.filter fun t => t.client ∉ rows.map (·.id) }

/-- The search of the first loop of `_gc_oauth`: the expired codes past a cursor, in the order of
their ids. -/
def expiredCodes (last : ℕ) : List CodeRow :=
  (st.codes.filter fun c => decide (c.expiresAt < now) && decide (last < c.id)).mergeSort
    fun a b => decide (a.id ≤ b.id)

/-- The first loop of `_gc_oauth`. -/
def gcCodes (live : List String) : Store × ℕ :=
  sweep (fun s last => expiredCodes s now last) CodeRow.id (fun c => !isProtected live c) unlinkCodes
    gcBatchSize st.codes.length 0 st

/-- `_gc_unlink_batched` on the tokens. -/
def gcTokens : Store × ℕ :=
  drain (fun s => s.tokens.filter (isSpentToken now)) unlinkTokens gcBatchSize st.tokens.length st

/-- `_gc_unlink_batched` on the clients. -/
def gcClients (live : List ℕ) : Store × ℕ :=
  drain (fun s => s.clients.filter (isStaleClient now live)) unlinkClients gcBatchSize
    st.clients.length st

/-- `_gc_oauth`: the tables after it, and the numbers of rows it counted. -/
def gcOauth : Store × ℕ × ℕ × ℕ :=
  let live := liveTokens st now
  let r₁ := gcCodes st now (live.map (·.refreshFamilyId))
  let r₂ := gcTokens r₁.1 now
  let r₃ := gcClients r₂.1 now (live.map (·.client))
  (r₃.1, r₁.2, r₂.2, r₃.2)

end Methods

end AdvMcp.OAuth
