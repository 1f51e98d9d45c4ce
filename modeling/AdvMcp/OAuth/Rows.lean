import AdvMcp.OAuth.Scope

/-!
# The OAuth tables

The rows of `adv.oauth.client`, `adv.oauth.code` and `adv.oauth.token`, with the columns that the
server reads, and the pure methods of the rows.

* A `Char` column that is unset reads as the empty string: the code only ever tests its truth.
* Times are whole seconds.  `refresh_expires_at` may be unset, and a comparison with an unset date
  is false, as in SQL.
* Row ids come from a sequence and are never used twice.
-/

namespace AdvMcp.OAuth

open AdvMcp.Py

abbrev Time := ℤ

/-- Python's `a or b` on strings. -/
def orElse (a b : String) : String := if a = "" then b else a

structure ClientRow where
  id : ℕ
  clientId : String
  clientName : String
  redirectUris : String
  grantTypes : String
  responseTypes : String
  tokenEndpointAuthMethod : String
  scope : String
  createdVia : String
  active : Bool
  createDate : Time
  deriving DecidableEq

structure CodeRow where
  id : ℕ
  codeHash : String
  client : ℕ
  userId : ℕ
  redirectUri : String
  scope : String
  codeChallenge : String
  codeChallengeMethod : String
  resource : String
  expiresAt : Time
  used : Bool
  refreshFamilyId : String
  deriving DecidableEq

structure TokenRow where
  id : ℕ
  accessTokenHash : String
  refreshTokenHash : Option String
  client : ℕ
  userId : ℕ
  scope : String
  audience : String
  accessExpiresAt : Time
  refreshExpiresAt : Option Time
  revoked : Bool
  refreshFamilyId : String
  deriving DecidableEq

/-- The three tables and the id sequence. -/
structure Store where
  clients : List ClientRow
  codes : List CodeRow
  tokens : List TokenRow
  nextId : ℕ

/-- `parts.scheme`, `parts.username`, `parts.hostname`, `parts.port`, `parts.fragment` of a URI that
`urlsplit` takes apart without a `ValueError`; a missing host name is the empty string. -/
structure SplitResult where
  scheme : String
  username : Option String
  hostname : String
  port : Option ℕ
  fragment : String

/-- What the server runs on: the hash, the base URL of its requests, `urllib.parse.urlsplit`, and
authlib's own `AuthorizationServer.validate_requested_scope` for the scopes the server supports. -/
structure Site where
  sha256Hex : String → String
  baseUrl : String
  urlsplit : String → Option SplitResult
  validateRequestedScope : List String → String → Bool

/-! ### `adv.oauth.client` -/

namespace ClientRow

variable (c : ClientRow)

def redirectUriList : List String := split c.redirectUris

def getDefaultRedirectUri : Option String := c.redirectUriList.head?

def checkRedirectUri (uri : String) : Bool := uri ∈ c.redirectUriList

def checkGrantType (grantType : String) : Bool := grantType ∈ split c.grantTypes

def checkResponseType (responseType : String) : Bool := responseType ∈ split c.responseTypes

def checkEndpointAuthMethod (method endpoint : String) : Bool :=
  if endpoint = "token" then method = c.tokenEndpointAuthMethod else true

def getAllowedScope (scope : String) : String :=
  if scope = "" then c.scope
  else if c.scope = "" then scope
  else orElse (join " " ((split scope).filter (· ∈ expandScopes c.scope))) c.scope

end ClientRow

/-- `client_write_allowed` -/
def clientWriteAllowed (client : ClientRow) : Bool :=
  client.scope = "" || grantsWrite client.scope

/-! ### Dates that may be unset -/

/-- `column > t` in SQL. -/
def after (d : Option Time) (t : Time) : Bool := d.any (t < ·)

/-- `column < t` in SQL. -/
def before (d : Option Time) (t : Time) : Bool := d.any (· < t)

end AdvMcp.OAuth
