import AdvMcp.OAuth.Store

/-!
# The grants and the endpoints

`server/oauth/grants.py` and `server/oauth/endpoints.py`: client registration, the authorize
endpoint, the two grants, and the token endpoint, in the order in which authlib runs the callbacks.

What authlib decides by itself enters as a value of the request: whether the PKCE verifier matches
the challenge, whether the other checks of an authorization request pass, and the random strings
drawn on the way.
-/

namespace AdvMcp.OAuth

open AdvMcp.Lib AdvMcp.Py

def accessTokenExpiresIn : ℤ := 3600

/-! ### Registration -/

def maxRedirectUris : ℕ := 5
def maxRedirectUriLength : ℕ := 2048
def maxClientStringLength : ℕ := 255

def loopbackHosts : List String := ["127.0.0.1", "::1", "localhost"]

def isAllowedRedirectUri (σ : Site) (uri : String) : Bool :=
  match σ.urlsplit uri with
  | none => false
  | some parts =>
    if parts.username.isSome then false
    else if parts.port.any fun p => !(decide (1 ≤ p) && decide (p ≤ 65535)) then false
    else if parts.fragment ≠ "" then false
    else if parts.scheme = "https" ∧ parts.hostname ≠ "" then true
    else decide (parts.scheme = "http" ∧ parts.hostname ∈ loopbackHosts)

/-- The metadata of a registration request, a missing member being empty. -/
structure ClientMetadata where
  redirectUris : List String
  clientName : String
  scope : String

/-- The check of one redirect URI of a registration. -/
def checkRedirectUri (σ : Site) (uri : String) : Except String Unit :=
  if maxRedirectUriLength < uri.length then
    .error "A redirect_uri is too long (max 2048 characters)."
  else if !isAllowedRedirectUri σ uri then
    .error "Each redirect_uri must use https, or http for loopback only 127.0.0.1 or localhost."
  else .ok ()

/-- `_register_client` -/
def registerClient (st : Store) (now : Time) (clientId : String) (data : ClientMetadata) :
    Store × ClientRow :=
  let row : ClientRow :=
    { id := st.nextId
      clientId := clientId
      clientName := data.clientName
      redirectUris := join "\n" data.redirectUris
      scope := data.scope
      grantTypes := "authorization_code refresh_token"
      responseTypes := "code"
      tokenEndpointAuthMethod := "none"
      createdVia := "dcr"
      active := true
      createDate := now }
  ({ st with clients := st.clients ++ [row], nextId := st.nextId + 1 }, row)

/-- `DynamicRegistration.save_client`.  The unique index on `client_id` refuses a second row. -/
def saveClient (σ : Site) (st : Store) (now : Time) (clientId : String) (data : ClientMetadata) :
    Except String (Store × ClientRow) :=
  if data.redirectUris = [] then .error "At least one redirect_uri is required."
  else if maxRedirectUris < data.redirectUris.length then .error "Too many redirect_uris (max 5)."
  else
    match data.redirectUris.forM (checkRedirectUri σ) with
    | .error e => .error e
    | .ok _ =>
      if maxClientStringLength < data.clientName.length then
        .error "client_name is too long (max 255 characters)."
      else if maxClientStringLength < data.scope.length then
        .error "scope is too long (max 255 characters)."
      else if st.clients.any (·.clientId = clientId) then
        .error "OAuth client_id must be unique."
      else .ok (registerClient st now clientId { data with scope := normalizeScope data.scope })

/-- `AdvAuthServer.query_client` -/
def queryClient (st : Store) (clientId : String) : Option ClientRow :=
  st.clients.find? fun c => c.clientId = clientId && c.active

/-! ### The authorize endpoint -/

inductive Method where
  | GET
  | POST
  deriving DecidableEq

/-- The parameters of a request: the query string and the form, each in order. -/
structure HttpRequest where
  method : Method
  args : List (String × String)
  form : List (String × String)

namespace HttpRequest

variable (r : HttpRequest)

/-- `_OdooOAuth2Payload.data` -/
def data : List (String × String) := if r.method = .POST then r.form else r.args

/-- `httprequest.values`: the query string, then the form. -/
def values : List (String × String) := r.args ++ r.form

/-- `request.params`: the form wins over the query string. -/
def params : List (String × String) := r.form ++ r.args

/-- A parameter of the payload, empty when it is missing. -/
def field (name : String) : String := (r.data.lookup name).getD ""

end HttpRequest

/-- `AdvAuthServer.validate_requested_scope` -/
def validateRequestedScope (σ : Site) (scope : String) : Bool :=
  σ.validateRequestedScope advScopes (normalizeScope scope)

/-- An authorization request of a signed-in user; `code` is the code authlib draws if it issues one,
and `consentOk` is whether authlib's other checks of the request pass. -/
structure AuthorizeRequest where
  http : HttpRequest
  user : ℕ
  code : String
  consentOk : ClientRow → Bool

/-- The redirect URI of authlib's authorization grant: the one asked for, if it is registered, else
the client's default. -/
def grantRedirectUri (client : ClientRow) (asked : String) : Option String :=
  if asked = "" then client.getDefaultRedirectUri
  else if client.checkRedirectUri asked then some asked else none

/-- `get_consent_grant`: the client and the redirect URI of an acceptable request. -/
def getConsentGrant (σ : Site) (st : Store) (req : AuthorizeRequest) :
    Except OAuth2Error (ClientRow × String) :=
  match queryClient st (req.http.field "client_id") with
  | none => .error .invalidClient
  | some client =>
    match grantRedirectUri client (req.http.field "redirect_uri") with
    | none => .error (.invalidRequest "Redirect URI is not supported by client.")
    | some uri =>
      if !client.checkResponseType (req.http.field "response_type") then
        .error .unauthorizedClient
      else if !validateRequestedScope σ (req.http.field "scope") then .error .invalidScope
      else if !req.consentOk client then .error (.invalidRequest "")
      else .ok (client, uri)

/-- `_pkce_s256_present` -/
def pkceS256Present (r : HttpRequest) : Bool :=
  (r.values.lookup "code_challenge").getD "" ≠ "" &&
    (r.values.lookup "code_challenge_method").getD "S256" = "S256"

/-- `_resource_accepted` -/
def resourceAccepted (σ : Site) (resource : String) : Bool :=
  resource = "" || rstrip '/' resource ∈ (acceptedResources σ).map (rstrip '/')

/-- The scope that the endpoint grants: on GET without a question, on POST if the user allows it. -/
def grantedScope (client : ClientRow) (r : HttpRequest) : Option String :=
  match r.method with
  | .GET =>
    some (if !readOnlyScope (r.field "scope") && clientWriteAllowed client then "adv:write"
      else "adv:read")
  | .POST =>
    if r.params.lookup "decision" = some "allow" then
      let granted :=
        if !readOnlyScope (r.field "scope") && (r.params.lookup "grant_write").getD "" ≠ "" then
          "adv:write" else "adv:read"
      some (if granted = "adv:write" ∧ !clientWriteAllowed client then "adv:read" else granted)
    else none

/-- `AdvOAuthController.authorize`: the code row it saves. -/
def authorize (σ : Site) (st : Store) (now : Time) (req : AuthorizeRequest) :
    Except OAuth2Error (Store × ClientRow × CodeRow) :=
  match getConsentGrant σ st req with
  | .error e => .error e
  | .ok (client, redirectUri) =>
    if !isAllowedRedirectUri σ redirectUri then
      .error (.invalidRequest "The redirect URI registered for this client is not allowed.")
    else if !pkceS256Present req.http then
      .error (.invalidRequest ("Proof Key for Code Exchange (PKCE) with the S256 method is " ++
        "required to authorize this request."))
    else if !resourceAccepted σ ((req.http.values.lookup "resource").getD "") then
      .error (.invalidRequest "The requested resource is not served by this server.")
    else
      match grantedScope client req.http with
      | none => .error .accessDenied
      | some granted =>
        let r := saveCode σ st now req.code client.id req.user (req.http.field "redirect_uri")
          (orElse granted (req.http.field "scope")) (req.http.field "code_challenge")
          (req.http.field "code_challenge_method") (req.http.field "resource")
        .ok (r.1, client, r.2)

/-! ### The grants -/

/-- A token request, and what is drawn while it is served. -/
structure TokenRequest where
  resource : String
  redirectUri : String
  scope : String
  verifierOk : CodeRow → Bool
  userActive : ℕ → Bool
  accessToken : String
  refreshToken : String
  uuid : String

/-- The token that authlib's `BearerTokenGenerator` makes for a client. -/
def generateToken (client : ClientRow) (req : TokenRequest) (scope : String)
    (includeRefreshToken : Bool) : BearerToken :=
  { accessToken := req.accessToken
    refreshToken := if includeRefreshToken then some req.refreshToken else none
    expiresIn := some accessTokenExpiresIn
    scope := client.getAllowedScope scope }

section Grants

variable (σ : Site) (st : Store) (now : Time) (client : ClientRow)

/-- `PKCECodeGrant.query_authorization_code` -/
def queryAuthorizationCode (code : String) : Store × Option CodeRow :=
  match getValidCode σ st now code client.id with
  | some c => (st, some c)
  | none => (detectReuse σ st code, none)

/-- `S256Verifier.validate_code_verifier` -/
def validateCodeVerifier (c : CodeRow) (req : TokenRequest) : Except OAuth2Error Unit :=
  if c.codeChallengeMethod ≠ "" ∧ c.codeChallengeMethod ≠ "S256" then
    .error (.invalidGrant "Unsupported code_challenge_method.")
  else if !req.verifierOk c then .error (.invalidGrant "Code challenge failed.")
  else .ok ()

/-- `PKCECodeGrant`, for a client that authlib let through: `query_authorization_code`, the checks,
`save_token`, `delete_authorization_code`. -/
def pkceCodeGrant (code : String) (req : TokenRequest) :
    Store × Except OAuth2Error (CodeRow × TokenRow) :=
  match queryAuthorizationCode σ st now client code with
  | (st', none) => (st', .error (.invalidGrant "Invalid 'code' in request."))
  | (st', some c) =>
    if c.redirectUri ≠ "" ∧ req.redirectUri ≠ c.redirectUri then
      (st', .error (.invalidGrant "Invalid 'redirect_uri' in request."))
    else match validateCodeVerifier c req with
      | .error e => (st', .error e)
      | .ok _ =>
        if !req.userActive c.userId then
          (st', .error (.invalidGrant "There is no 'user' for this code."))
        else
          let token := generateToken client req c.scope (client.checkGrantType "refresh_token")
          match saveToken σ st' now token ⟨client, c.userId, some c, none, req.resource⟩ req.uuid with
          | .error e => (st', .error e)
          | .ok (st'', t) => (consume st'' c, .ok (c, t))

/-- `RotatingRefreshGrant.authenticate_refresh_token` -/
def authenticateRefreshToken (refreshToken : String) : Store × Option TokenRow :=
  match getValidRefreshToken σ st now refreshToken with
  | some t => (st, some t)
  | none => (detectRefreshReuse σ st refreshToken, none)

/-- authlib's `_validate_token_scope`: the scope asked for is part of the token's. -/
def validateTokenScope (t : TokenRow) (scope : String) : Bool :=
  scope = "" || (t.scope ≠ "" && (split scope).all (· ∈ split t.scope))

/-- `RotatingRefreshGrant`, for a client that authlib let through: `authenticate_refresh_token`,
`check_client` and the other checks, `save_token`, `revoke_old_credential`. -/
def rotatingRefreshGrant (refreshToken : String) (req : TokenRequest) :
    Store × Except OAuth2Error (TokenRow × TokenRow) :=
  match authenticateRefreshToken σ st now refreshToken with
  | (st', none) => (st', .error (.invalidGrant ""))
  | (st', some old) =>
    if old.client ≠ client.id then (st', .error (.invalidGrant ""))
    else if !validateTokenScope old req.scope then (st', .error .invalidScope)
    else if !req.userActive old.userId then
      (st', .error (.invalidRequest "There is no 'user' for this token."))
    else
      let token := generateToken client req (orElse req.scope old.scope) true
      match saveToken σ st' now token ⟨client, old.userId, none, some old, req.resource⟩ req.uuid with
      | .error e => (st', .error e)
      | .ok (st'', t) => (revoke st'' (·.id = old.id), .ok (old, t))

end Grants

/-! ### The token endpoint -/

/-- The credential of a token request. -/
inductive GrantParam where
  | authorizationCode (code : String)
  | refreshToken (token : String)

/-- `grant_type` -/
def GrantParam.grantType : GrantParam → String
  | .authorizationCode _ => "authorization_code"
  | .refreshToken _ => "refresh_token"

/-- authlib's check of the client, before it calls the grant: the one authentication method the
grants allow, and the grant type. -/
def authenticateClient (st : Store) (clientId : String) (p : GrantParam) :
    Except OAuth2Error ClientRow :=
  match queryClient st clientId with
  | none => .error .invalidClient
  | some c =>
    if !c.checkEndpointAuthMethod "none" "token" then .error .invalidClient
    else if !c.checkGrantType p.grantType then .error .unauthorizedClient
    else .ok c

/-- `create_token_response`: the tables after the request, and the new token row of a reply 200. -/
def createTokenResponse (σ : Site) (st : Store) (now : Time) (clientId : String) (p : GrantParam)
    (req : TokenRequest) : Store × Except OAuth2Error TokenRow :=
  match authenticateClient st clientId p with
  | .error e => (st, .error e)
  | .ok client =>
    match p with
    | .authorizationCode code =>
      let r := pkceCodeGrant σ st now client code req
      (r.1, r.2.map Prod.snd)
    | .refreshToken token =>
      let r := rotatingRefreshGrant σ st now client token req
      (r.1, r.2.map Prod.snd)

end AdvMcp.OAuth
