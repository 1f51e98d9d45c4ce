import AdvMcp.OAuth.Possession
import AdvMcp.Rpc.Trail
import AdvMcp.Server.Executed
import AdvMcp.Server.Front
import AdvMcp.Server.Rest

/-!
# The doors of the gateway

All that a client can reach, as one system: `POST /mcp_server`, the REST endpoints, the three XML-RPC endpoints of
`server/rpc_proxy.py`, and the endpoints of `server/oauth`, with what else may happen beside them.

* `Deployment` — the configuration and the services of Odoo, which may differ from one request to the next;
* `serveVisit` — a request at its door: the reply, and the state after it; `serveUpkeep` — a change from elsewhere;
* `doors` — the system: requests and changes in any order;
* `serveVisit_change` — what a visit can do, once for all doors;
* `serve_oauth` — the part of OAuth moves as the machine of OAuth does, or stands still;
* `closed_run` — while the gateway is switched off, its visitors might as well not be there.
-/

namespace AdvMcp.Server

open AdvMcp.Access AdvMcp.Audit AdvMcp.Lib AdvMcp.OAuth AdvMcp.Py AdvMcp.Rpc

/-! ### What the doors stand on -/

inductive ServiceRoot where
  | common
  | db

/-- Odoo behind the proxy: the user that an event is stored for, the model service with the data after it, and the
other two services. -/
structure Backend (σ : Type) where
  storedUser : Value → Except PyExc (Option ℕ)
  serve : σ → String → List Value → Except PyExc Value
  served : σ → List Value → σ
  dispatch : ServiceRoot → σ → String → List Value → Except PyExc Value × σ

/-- The configuration and the services of a moment. -/
structure Deployment (σ : Type) where
  front : Front σ
  rest : RestSite
  backend : Backend σ
  durationMs : ℕ
  sameRegistry : rest.registry = front.endpoint.worker.gateway.registry

/-- A limiter of an endpoint, with the requests that it let pass: when, and by whom. -/
structure Counter where
  buckets : Throttle Peer
  passed : List (ℤ × Peer)

structure DoorState (σ : Type) where
  oauth : OAuth.State
  keys : List ApiKey
  auth : AuthState
  registrations : Counter
  tokenRequests : Counter
  flow : FlowState
  db : σ

/-- A request at a door. -/
inductive Visit where
  | post (rq : FrontRequest)
  | rest (rq : RestRequest) (route : RestRoute)
  | object (remoteAddr xmlrpcMethod : String) (params : List Value)
  | service (root : ServiceRoot) (method : String) (params : List Value)
  | protectedResourceMetadata
  | authorizationServerMetadata
  | authorize (req : AuthorizeRequest)
  | token (remoteAddr clientId : String) (p : GrantParam) (req : TokenRequest)
  | register (remoteAddr clientId : String) (data : ClientMetadata)

inductive DoorReply where
  | front (reply : FrontReply)
  | rest (reply : RestReply)
  | rpc (ended : Ended)
  | notFound
  | metadata (body : Dict)
  | tooMany (description : String)
  | authorized (r : Except OAuth2Error CodeRow)
  | issued (r : Except OAuth2Error TokenRow)
  | registered (r : Except String ClientRow)

/-- What administrators and the clock do to OAuth. -/
inductive Maintenance where
  | revoke (isAdmin : Bool) (ids : List ℕ)
  | gc
  | deactivate (isAdmin : Bool) (ids : List ℕ)
  | activate (isAdmin : Bool) (ids : List ℕ)
  | tick (seconds : ℕ)

def Maintenance.action : Maintenance → Action
  | .revoke isAdmin ids => .actionRevoke isAdmin ids
  | .gc => .gcOauth
  | .deactivate isAdmin ids => .actionDeactivate isAdmin ids
  | .activate isAdmin ids => .actionActivate isAdmin ids
  | .tick seconds => .tick seconds

/-- A change that is no request to the gateway. -/
inductive Upkeep (σ : Type) where
  | maintain (m : Maintenance)
  | generate (context scope : Option String) (userId : ℕ) (secret : String)
  | makeKey (mode : ScopeMode) (context : Option String) (userId : ℕ) (secret : String)
  | removeKeys (gone : ApiKey → Bool)
  | data (db : σ)

/-! ### The doors -/

def xmlrpcDisabled : Ended := .fault 403 "Advanced MCP Server is disabled globally."

def dcrMaxRegistrations : ℤ := 20
def dcrWindowSeconds : ℤ := 3600
def tokenMaxRequests : ℤ := 60
def tokenWindowSeconds : ℤ := 60

/-- A request asks the limiter. -/
def Counter.ask (window maxRequests now : ℤ) (peer : Peer) (c : Counter) : Bool × Counter :=
  let r := isLimited window c.buckets now peer maxRequests
  (r.1, ⟨r.2, if r.1 then c.passed else c.passed ++ [(now, peer)]⟩)

/-- `protected_resource_metadata` -/
def protectedResourceMetadata (O : OAuth.Site) : Dict :=
  [("resource", .str (resourceUrl O)), ("authorization_servers", .list [.str O.baseUrl]),
    ("bearer_methods_supported", .list [.str "header"]), ("scopes_supported", .list (advScopes.map .str))]

/-- `authorization_server_metadata` -/
def authorizationServerMetadata (O : OAuth.Site) : Dict :=
  [("issuer", .str O.baseUrl), ("authorization_endpoint", .str (O.baseUrl ++ "/mcp_server/oauth/authorize")),
    ("token_endpoint", .str (O.baseUrl ++ "/mcp_server/oauth/token")),
    ("registration_endpoint", .str (O.baseUrl ++ "/mcp_server/oauth/register")),
    ("response_types_supported", .list [.str "code"]),
    ("grant_types_supported", .list [.str "authorization_code", .str "refresh_token"]),
    ("code_challenge_methods_supported", .list [.str "S256"]),
    ("token_endpoint_auth_methods_supported", .list [.str "none"]),
    ("scopes_supported", .list (advScopes.map .str))]

section Doors

variable {σ : Type} (O : OAuth.Site) (D : Deployment σ)

def Deployment.enabled : Bool := D.front.endpoint.worker.gateway.registry.enabled

def Deployment.peer (remoteAddr : String) : Peer := ⟨D.front.endpoint.worker.gateway.db, remoteAddr⟩

/-- The user of a key at the doors that take no key of the scope `adv`. -/
def Deployment.rpcKey (keys : List ApiKey) (apiKey : String) : KeyCheck :=
  getUser D.front.service keys rpcScopes apiKey

def Deployment.services (s : DoorState σ) : Services where
  gateway := D.front.endpoint.worker.gateway
  loggingActive := D.front.loggingActive
  keyCheck := D.rpcKey s.keys
  storedUser := D.backend.storedUser
  serve := D.backend.serve s.db
  durationMs := D.durationMs

def DoorState.front (s : DoorState σ) : FrontState σ :=
  ⟨s.oauth.now, s.oauth.store, s.keys, s.auth, s.flow, s.db⟩

/-- `POST /mcp_server` -/
def visitPost (rq : FrontRequest) (s : DoorState σ) : DoorReply × DoorState σ :=
  let r := Server.front O D.front rq s.front
  (.front r.1, { s with auth := r.2.auth, flow := r.2.flow, db := r.2.db })

/-- A REST request, with what the lookup of its key comes to, and when it is served. -/
def DoorState.restRequest (s : DoorState σ) (rq : RestRequest) : RestRequest :=
  { rq with key := D.rpcKey s.keys rq.apiKey, peer := D.peer rq.peer.remoteAddr, now := s.flow.now }

def visitRest (rq : RestRequest) (route : RestRoute) (s : DoorState σ) : DoorReply × DoorState σ :=
  let r := restServe D.rest (s.restRequest D rq) s.auth route
  (.rest r.1, { s with auth := r.2 })

/-- The data after a call at the proxy: the model service has a transaction of its own. -/
def objectData (xmlrpcMethod : String) (params : List Value) (db : σ) : σ :=
  match advObjectDispatch D.front.endpoint.worker.gateway xmlrpcMethod params with
  | .forwarded ps _ => D.backend.served db ps
  | _ => db

/-- `AdvRpcController.index` -/
def visitObject (remoteAddr xmlrpcMethod : String) (params : List Value) (s : DoorState σ) :
    DoorReply × DoorState σ :=
  if !D.enabled then (.rpc xmlrpcDisabled, s)
  else
    let r := objectDispatch (D.services s) s.flow.now (D.peer remoteAddr) s.auth xmlrpcMethod params
    (.rpc r.1, { s with auth := r.2, db := objectData D xmlrpcMethod params s.db })

/-- `_dispatch_service_xmlrpc` -/
def visitService (root : ServiceRoot) (method : String) (params : List Value) (s : DoorState σ) :
    DoorReply × DoorState σ :=
  if !D.enabled then (.rpc xmlrpcDisabled, s)
  else
    let r := D.backend.dispatch root s.db method params
    (.rpc (match r.1 with
      | .ok result => .returned result
      | .error e => .raised e), { s with db := r.2 })

/-- `oauth_guard` -/
def oauthGuard (s : DoorState σ) (endpoint : DoorReply × DoorState σ) : DoorReply × DoorState σ :=
  if D.enabled && D.front.oauthEnabled then endpoint else (.notFound, s)

/-- `AdvOAuthController.authorize` -/
def visitAuthorize (req : AuthorizeRequest) (s : DoorState σ) : DoorReply × DoorState σ :=
  (.authorized ((OAuth.authorize O s.oauth.store s.oauth.now req).map fun r => r.2.2),
    { s with oauth := stepAuthorize O s.oauth req })

/-- `AdvOAuthController.token` -/
def visitToken (remoteAddr clientId : String) (p : GrantParam) (req : TokenRequest) (s : DoorState σ) :
    DoorReply × DoorState σ :=
  let r := s.tokenRequests.ask tokenWindowSeconds tokenMaxRequests s.flow.now (D.peer remoteAddr)
  if r.1 then (.tooMany "Too many token requests.", { s with tokenRequests := r.2 })
  else (.issued (createTokenResponse O s.oauth.store s.oauth.now clientId p req).2,
    { s with tokenRequests := r.2, oauth := tokenStep O s.oauth clientId p req })

/-- `AdvOAuthController.register` -/
def visitRegister (remoteAddr clientId : String) (data : ClientMetadata) (s : DoorState σ) :
    DoorReply × DoorState σ :=
  let r := s.registrations.ask dcrWindowSeconds dcrMaxRegistrations s.flow.now (D.peer remoteAddr)
  if r.1 then (.tooMany "Too many registration requests.", { s with registrations := r.2 })
  else (.registered ((saveClient O s.oauth.store s.oauth.now clientId data).map Prod.snd),
    { s with registrations := r.2, oauth := stepRegister O s.oauth clientId data })

/-- A request at its door. -/
def serveVisit (s : DoorState σ) : Visit → DoorReply × DoorState σ
  | .post rq => visitPost O D rq s
  | .rest rq route => visitRest D rq route s
  | .object remoteAddr xmlrpcMethod params => visitObject D remoteAddr xmlrpcMethod params s
  | .service root method params => visitService D root method params s
  | .protectedResourceMetadata => oauthGuard D s (.metadata (protectedResourceMetadata O), s)
  | .authorizationServerMetadata => oauthGuard D s (.metadata (authorizationServerMetadata O), s)
  | .authorize req => oauthGuard D s (visitAuthorize O req s)
  | .token remoteAddr clientId p req => oauthGuard D s (visitToken O D remoteAddr clientId p req s)
  | .register remoteAddr clientId data => oauthGuard D s (visitRegister O D remoteAddr clientId data s)

/-- A change from elsewhere. -/
def serveUpkeep (s : DoorState σ) : Upkeep σ → DoorState σ
  | .maintain m => { s with oauth := OAuth.step O s.oauth m.action }
  | .generate context scope userId secret => { s with keys := s.keys ++ [generate context scope userId secret] }
  | .makeKey mode context userId secret => { s with keys := s.keys ++ [makeKey mode context userId secret] }
  | .removeKeys gone => { s with keys := s.keys.filter fun k => !gone k }
  | .data db => { s with db := db }

end Doors

/-! ### The system -/

inductive Occurrence (σ : Type) where
  | visit (D : Deployment σ) (v : Visit)
  | upkeep (u : Upkeep σ)

section System

variable {σ : Type} (O : OAuth.Site)

def occur (s : DoorState σ) : Occurrence σ → DoorState σ
  | .visit D v => (serveVisit O D s v).2
  | .upkeep u => serveUpkeep O s u

/-- The step that the machine of OAuth makes. -/
def oauthAction (s : DoorState σ) : Occurrence σ → Option Action
  | .visit D (.authorize req) => if D.enabled && D.front.oauthEnabled then some (.authorize req) else none
  | .visit D (.token remoteAddr clientId p req) =>
    if (D.enabled && D.front.oauthEnabled) &&
        !(s.tokenRequests.ask tokenWindowSeconds tokenMaxRequests s.flow.now (D.peer remoteAddr)).1 then
      (authenticateClient s.oauth.store clientId p).toOption.map fun client => tokenAction client req p
    else none
  | .visit D (.register remoteAddr clientId data) =>
    if (D.enabled && D.front.oauthEnabled) &&
        !(s.registrations.ask dcrWindowSeconds dcrMaxRegistrations s.flow.now (D.peer remoteAddr)).1 then
      some (.register clientId data)
    else none
  | .upkeep (.maintain m) => some m.action
  | _ => none

/-- The state at a time. -/
def DoorState.at (s : DoorState σ) (now : ℤ) : DoorState σ := { s with flow := { s.flow with now := now } }

/-- Requests and changes, at times that do not go back; what the machine of OAuth draws is fresh. -/
def doors : Sys (DoorState σ) (ℤ × Occurrence σ) where
  init s := IsInit s.oauth ∧ s.registrations = ⟨fun _ => [], []⟩ ∧ s.tokenRequests = ⟨fun _ => [], []⟩
  step s l s' := s.flow.now ≤ l.1 ∧ (∀ a, oauthAction (s.at l.1) l.2 = some a → Fresh s.oauth a) ∧
    s' = occur O (s.at l.1) l.2

variable {O} {D : Deployment σ} {s s' t : DoorState σ} {v : Visit}

@[simp] lemma at_oauth (now : ℤ) : (s.at now).oauth = s.oauth := rfl

lemma oauthGuard_open (h : (D.enabled && D.front.oauthEnabled) = true) (endpoint : DoorReply × DoorState σ) :
    oauthGuard D s endpoint = endpoint := if_pos h

lemma oauthGuard_closed (h : (D.enabled && D.front.oauthEnabled) = false) (endpoint : DoorReply × DoorState σ) :
    oauthGuard D s endpoint = (.notFound, s) := if_neg (by simp [h])

/-- No request moves the clock. -/
lemma process_now (W : Worker) (f : FlowState) (uid : ℕ) (remoteAddr : String) (raw : Dict) :
    (process W f uid remoteAddr raw).2.now = f.now := by
  have hp : Processed W f uid remoteAddr raw (process W f uid remoteAddr raw) := process_processed raw
  generalize process W f uid remoteAddr raw = r at hp
  cases hp with
  | refused _ _ => rfl
  | stopped method p h => exact (applyFlowControl_frame uid remoteAddr method).1
  | handled method _ _ _ _ => exact (applyFlowControl_frame uid remoteAddr method).1

lemma dispatched_now (F : Front σ) (rq : FrontRequest) (q : Session) (fs : FrontState σ) :
    (dispatched F rq q fs).2.flow.now = fs.flow.now := by
  unfold dispatched dispatchState
  cases rq.body with
  | none => rfl
  | some body =>
    simp only
    split_ifs
    · rfl
    · exact process_now _ _ _ _ _

/-- **What a visit can do**: to the limiters of authentication, the flow and the data, with no step of OAuth; or
the step of an endpoint of OAuth, if its limiter lets it. -/
inductive VisitChange (O : OAuth.Site) (D : Deployment σ) (s : DoorState σ) : Visit → DoorState σ → Prop
  | behind {v : Visit} (auth : AuthState) (flow : FlowState) (db : σ) (quiet : oauthAction s (.visit D v) = none)
    (clock : flow.now = s.flow.now) : VisitChange O D s v { s with auth := auth, flow := flow, db := db }
  | authorized {req : AuthorizeRequest}
    (action : oauthAction s (.visit D (.authorize req)) = some (.authorize req)) :
    VisitChange O D s (.authorize req) { s with oauth := OAuth.step O s.oauth (.authorize req) }
  | token {remoteAddr clientId : String} {p : GrantParam} {req : TokenRequest} (limited : Bool) (c : Counter)
    (asked : s.tokenRequests.ask tokenWindowSeconds tokenMaxRequests s.flow.now (D.peer remoteAddr) = (limited, c))
    (action : oauthAction s (.visit D (.token remoteAddr clientId p req)) = if limited then none
      else (authenticateClient s.oauth.store clientId p).toOption.map fun client => tokenAction client req p) :
    VisitChange O D s (.token remoteAddr clientId p req)
      { s with tokenRequests := c, oauth := if limited then s.oauth else tokenStep O s.oauth clientId p req }
  | registered {remoteAddr clientId : String} {data : ClientMetadata} (limited : Bool) (c : Counter)
    (asked : s.registrations.ask dcrWindowSeconds dcrMaxRegistrations s.flow.now (D.peer remoteAddr) =
      (limited, c))
    (action : oauthAction s (.visit D (.register remoteAddr clientId data)) =
      if limited then none else some (.register clientId data)) :
    VisitChange O D s (.register remoteAddr clientId data) { s with
      registrations := c
      oauth := if limited then s.oauth else OAuth.step O s.oauth (.register clientId data) }

/-- A visit that changes nothing. -/
lemma VisitChange.none (h : oauthAction s (.visit D v) = none) : VisitChange O D s v s :=
  .behind s.auth s.flow s.db h rfl

theorem serveVisit_change (O : OAuth.Site) (D : Deployment σ) (s : DoorState σ) (v : Visit) :
    VisitChange O D s v (serveVisit O D s v).2 := by
  cases v with
  | post rq =>
    refine .behind _ _ _ rfl ?_
    rcases front_cases O D.front rq s.front with ⟨q, -, -, he⟩ | ⟨-, reply, auth, -, he⟩
    · rw [he]
      exact dispatched_now _ _ _ _
    · rw [he]
      rfl
  | rest rq route => exact .behind _ s.flow s.db rfl rfl
  | object remoteAddr xmlrpcMethod params =>
    simp only [serveVisit, visitObject]
    split_ifs
    · exact .none rfl
    · exact .behind _ s.flow _ rfl rfl
  | service root method params =>
    simp only [serveVisit, visitService]
    split_ifs
    · exact .none rfl
    · exact .behind s.auth s.flow _ rfl rfl
  | protectedResourceMetadata =>
    simp only [serveVisit, oauthGuard]
    split_ifs <;> exact .none rfl
  | authorizationServerMetadata =>
    simp only [serveVisit, oauthGuard]
    split_ifs <;> exact .none rfl
  | authorize req =>
    simp only [serveVisit, oauthGuard]
    split_ifs with hg
    · exact .authorized (if_pos hg)
    · exact .none (if_neg hg)
  | token remoteAddr clientId p req =>
    simp only [serveVisit]
    cases hg : D.enabled && D.front.oauthEnabled with
    | false =>
      rw [oauthGuard_closed hg]
      exact .none (by simp only [oauthAction, hg, Bool.false_and, Bool.false_eq_true, if_false])
    | true =>
      rw [oauthGuard_open hg]
      cases ha : s.tokenRequests.ask tokenWindowSeconds tokenMaxRequests s.flow.now (D.peer remoteAddr) with
      | mk limited c =>
        have haction : oauthAction s (.visit D (.token remoteAddr clientId p req)) = if limited then none
            else (authenticateClient s.oauth.store clientId p).toOption.map fun client =>
              tokenAction client req p := by
          cases limited <;> simp [oauthAction, hg, ha]
        have hchange := VisitChange.token (O := O) limited c ha haction
        unfold visitToken
        rw [ha]
        cases limited <;> exact hchange
  | register remoteAddr clientId data =>
    simp only [serveVisit]
    cases hg : D.enabled && D.front.oauthEnabled with
    | false =>
      rw [oauthGuard_closed hg]
      exact .none (by simp only [oauthAction, hg, Bool.false_and, Bool.false_eq_true, if_false])
    | true =>
      rw [oauthGuard_open hg]
      cases ha : s.registrations.ask dcrWindowSeconds dcrMaxRegistrations s.flow.now (D.peer remoteAddr) with
      | mk limited c =>
        have haction : oauthAction s (.visit D (.register remoteAddr clientId data)) =
            if limited then none else some (.register clientId data) := by
          cases limited <;> simp [oauthAction, hg, ha]
        have hchange := VisitChange.registered (O := O) limited c ha haction
        unfold visitRegister
        rw [ha]
        cases limited <;> exact hchange

/-- **Simulation**: the part of OAuth makes the step of its machine that `oauthAction` names, or stands still. -/
theorem serve_oauth (O : OAuth.Site) (s : DoorState σ) (e : Occurrence σ) :
    (occur O s e).oauth = match oauthAction s e with
      | some a => OAuth.step O s.oauth a
      | none => s.oauth := by
  cases e with
  | upkeep u => cases u <;> rfl
  | visit D v =>
    show (serveVisit O D s v).2.oauth = _
    have hchange := serveVisit_change O D s v
    generalize (serveVisit O D s v).2 = s' at hchange
    cases hchange with
    | behind auth flow db quiet _ => rw [quiet]
    | authorized action => rw [action]
    | @token remoteAddr clientId p req limited c asked action =>
      rw [action]
      cases limited with
      | true => rfl
      | false =>
        simp only [Bool.false_eq_true, if_false]
        unfold tokenStep
        cases authenticateClient s.oauth.store clientId p <;> rfl
    | registered limited c asked action =>
      rw [action]
      cases limited <;> rfl

/-! ### A gateway that is switched off -/

/-- The same but for the limiters and the log of authentication, and the time. -/
structure SameBehind (s t : DoorState σ) : Prop where
  oauth : s.oauth = t.oauth
  keys : s.keys = t.keys
  db : s.db = t.db
  registrations : s.registrations = t.registrations
  tokenRequests : s.tokenRequests = t.tokenRequests
  flow : { s.flow with now := 0 } = { t.flow with now := 0 }

lemma SameBehind.refl (s : DoorState σ) : SameBehind s s := ⟨rfl, rfl, rfl, rfl, rfl, rfl⟩

lemma SameBehind.trans {u : DoorState σ} (h : SameBehind s t) (h' : SameBehind t u) : SameBehind s u :=
  ⟨h.oauth.trans h'.oauth, h.keys.trans h'.keys, h.db.trans h'.db, h.registrations.trans h'.registrations,
    h.tokenRequests.trans h'.tokenRequests, h.flow.trans h'.flow⟩

lemma sameBehind_at (s : DoorState σ) (now : ℤ) : SameBehind (s.at now) s := ⟨rfl, rfl, rfl, rfl, rfl, rfl⟩

/-- The reply of a door that is closed. -/
def DoorReply.Refuses : DoorReply → Prop
  | .front (.replied _ (.json _ body)) => ∃ err, body.get "error" = .dict err
  | .front (.replied _ .acknowledged) => False
  | .front _ => True
  | .rest reply => reply.status = 401 ∨ reply.status = 503
  | .rpc ended => ended = xmlrpcDisabled
  | .notFound => True
  | _ => False

lemma refuses_of_refusal {F : Front σ} {rq : FrontRequest} {fs : FrontState σ} {reply : FrontReply}
    (h : Refusal O F rq fs reply) : (DoorReply.front reply).Refuses := by
  cases h <;> trivial

lemma restServe_disabled {S : RestSite} (h : S.registry.enabled = false) (rq : RestRequest) (a : AuthState)
    (route : RestRoute) : (restServe S rq a route).1.status = 401 ∨ (restServe S rq a route).1.status = 503 := by
  have hdisabled : ∀ reply, (requireAdvEnabled S rq reply).status = 503 := by
    intro reply
    unfold requireAdvEnabled
    rw [h]
    rfl
  unfold restServe
  cases route with
  | healthCheck => exact Or.inr (hdisabled _)
  | _ =>
    simp only
    split
    · exact Or.inl rfl
    · exact Or.inr (hdisabled _)

/-- **One visit** to a gateway that is switched off: the reply refuses, and nothing behind the door changes. -/
lemma closed_visit (hD : D.enabled = false) (s : DoorState σ) (v : Visit) :
    (serveVisit O D s v).1.Refuses ∧ SameBehind (serveVisit O D s v).2 s := by
  have hguard : ∀ endpoint : DoorReply × DoorState σ,
      (oauthGuard D s endpoint).1.Refuses ∧ SameBehind (oauthGuard D s endpoint).2 s := by
    intro endpoint
    rw [oauthGuard_closed (by rw [hD]; rfl)]
    exact ⟨trivial, .refl s⟩
  cases v with
  | post rq =>
    show (visitPost O D rq s).1.Refuses ∧ SameBehind (visitPost O D rq s).2 s
    unfold visitPost
    rcases front_cases O D.front rq s.front with ⟨q, -, -, he⟩ | ⟨-, reply, auth, hr, he⟩
    · obtain ⟨hs, status, body, err, hreply, herr⟩ : (dispatched D.front rq q s.front).2 = s.front ∧
          ∃ status body err,
            (dispatched D.front rq q s.front).1 = .replied (corsHeaders D.front rq) (.json status body) ∧
              body.get "error" = .dict err :=
        dispatched_disabled hD q s.front
      simp only [he, hs, hreply]
      exact ⟨⟨err, herr⟩, rfl, rfl, rfl, rfl, rfl, rfl⟩
    · simp only [he]
      exact ⟨refuses_of_refusal hr, rfl, rfl, rfl, rfl, rfl, rfl⟩
  | rest rq route =>
    have hrest : D.rest.registry.enabled = false := by
      rw [D.sameRegistry]
      exact hD
    exact ⟨restServe_disabled hrest _ _ _, rfl, rfl, rfl, rfl, rfl, rfl⟩
  | object remoteAddr xmlrpcMethod params =>
    simp only [serveVisit, visitObject, hD, Bool.not_false, if_true]
    exact ⟨rfl, .refl s⟩
  | service root method params =>
    simp only [serveVisit, visitService, hD, Bool.not_false, if_true]
    exact ⟨rfl, .refl s⟩
  | protectedResourceMetadata => exact hguard _
  | authorizationServerMetadata => exact hguard _
  | authorize req => exact hguard _
  | token remoteAddr clientId p req => exact hguard _
  | register remoteAddr clientId data => exact hguard _

/-- The changes of a run. -/
def upkeeps (ls : List (ℤ × Occurrence σ)) : List (Upkeep σ) :=
  ls.filterMap fun l => match l.2 with
    | .visit _ _ => none
    | .upkeep u => some u

/-- Every visit finds the gateway switched off. -/
def Occurrence.Closed : Occurrence σ → Prop
  | .visit D _ => D.enabled = false
  | .upkeep _ => True

lemma SameBehind.upkeep (h : SameBehind s t) (u : Upkeep σ) :
    SameBehind (serveUpkeep O s u) (serveUpkeep O t u) := by
  obtain ⟨ho, hk, hdb, hr, ht, hf⟩ := h
  cases u with
  | maintain m => exact ⟨by simp only [serveUpkeep, ho], hk, hdb, hr, ht, hf⟩
  | generate context scope userId secret => exact ⟨ho, by simp only [serveUpkeep, hk], hdb, hr, ht, hf⟩
  | makeKey mode context userId secret => exact ⟨ho, by simp only [serveUpkeep, hk], hdb, hr, ht, hf⟩
  | removeKeys gone => exact ⟨ho, by simp only [serveUpkeep, hk], hdb, hr, ht, hf⟩
  | data db => exact ⟨ho, hk, rfl, hr, ht, hf⟩

/-- **The switch.**  However the gateway is configured otherwise, and whatever its visitors ask for, at which door
and in which order: while it is switched off every reply refuses, and behind the doors the state is the one that
the other changes alone would have made. -/
theorem closed_run (O : OAuth.Site) {ls : List (ℤ × Occurrence σ)}
    (hrun : (doors O).RunBy (fun _ l => l.2.Closed) s ls s') :
    SameBehind s' ((upkeeps ls).foldl (serveUpkeep O) s) ∧
      ∀ now D v, (now, .visit D v) ∈ ls → ∀ t : DoorState σ, (serveVisit O D t v).1.Refuses := by
  have hsame : ∀ t : DoorState σ, SameBehind s t → SameBehind s' ((upkeeps ls).foldl (serveUpkeep O) t) := by
    induction hrun with
    | nil s => exact fun t h => h
    | @cons s u s' l ls hclosed hstep hrun ih =>
      intro t h
      obtain ⟨now, e⟩ := l
      obtain ⟨-, -, rfl⟩ := hstep
      have hat := (sameBehind_at s now).trans h
      cases e with
      | visit D v => exact ih t ((closed_visit hclosed _ v).2.trans hat)
      | upkeep u => exact ih (serveUpkeep O t u) (hat.upkeep u)
  refine ⟨hsame s (.refl s), ?_⟩
  clear hsame
  induction hrun with
  | nil s => exact fun now D v h => absurd h List.not_mem_nil
  | @cons s u s' l ls hclosed hstep hrun ih =>
    intro now D v h t
    rcases List.mem_cons.1 h with rfl | h
    · exact (closed_visit hclosed t v).1
    · exact ih now D v h t

end System

/-! ### A gateway for sales orders -/

/-- Keys that are found by their rows, and users who are all active. -/
def tableService : KeyService where
  checkCredentials keys scope apiKey :=
    .ok ((keys.find? fun k => k.secret = apiKey && (k.scope = none || k.scope = some scope)).map (·.userId))
  userActive _ := true
  finds h := by
    obtain ⟨k, hf, hu⟩ := Option.map_eq_some_iff.1 (Except.ok.inj h)
    have hp := List.find?_some hf
    simp only [Bool.and_eq_true, Bool.or_eq_true, decide_eq_true_eq] at hp
    exact ⟨k, List.mem_of_find?_eq_some hf, hp.1, hu, hp.2⟩

/-- The gateway for the sales orders, on or off. -/
def saleDeployment (enabled : Bool) : Deployment (Journal ℕ Tools.Performed) where
  front :=
    { endpoint :=
        { worker := { meteredWorker with
            gateway := { saleGateway with registry := { saleRegistry with enabled := enabled } } }
          site := saleTools
          catalog := deskCatalog
          version := "19.0.1.0.0"
          instructions := none }
      service := tableService
      oauthEnabled := true
      allowedOrigins := "https://chat.example.com"
      loggingActive := true
      seconds := rfl }
  rest := { saleRest with registry := { saleRegistry with enabled := enabled } }
  backend :=
    { storedUser := fun _ => .ok none
      serve := fun _ _ _ => .ok (.list [])
      served := fun db _ => db
      dispatch := fun _ db _ _ => (.ok .none, db) }
  durationMs := 3
  sameRegistry := rfl

/-- User 2 has a key that the wizard made for the scope `adv`. -/
def saleStart : DoorState (Journal ℕ Tools.Performed) where
  oauth := sampleInit
  keys := [makeKey .adv none 2 "k3f9a1"]
  auth := quietAuth
  registrations := ⟨fun _ => [], []⟩
  tokenRequests := ⟨fun _ => [], []⟩
  flow := idle
  db := (0, [])

/-- The update of an order with that key. -/
def editVisit : Visit := .post
  { httpMethod := .post
    remoteAddr := "203.0.113.7"
    authorization := "Bearer k3f9a1"
    origin := "https://chat.example.com"
    mcpProtocolVersion := "2025-06-18"
    userAgent := none
    mcpSessionId := none
    body := some (.dict [("jsonrpc", .str "2.0"), ("id", .int 1), ("method", .str "tools/call"),
      ("params", .dict editOrder)])
    durationMs := 3 }

/-- Switched off, the gateway refuses the update, and keeps the data. -/
theorem closed_run_edit : (serveVisit sampleSite (saleDeployment false) (saleStart.at 1) editVisit).1.Refuses ∧
    (serveVisit sampleSite (saleDeployment false) (saleStart.at 1) editVisit).2.db = (0, []) := by
  have hrun : (doors sampleSite).RunBy (fun _ l => l.2.Closed) saleStart
      [(1, .visit (saleDeployment false) editVisit)] _ :=
    .cons rfl ⟨by decide, (fun a h => by cases h), rfl⟩ (.nil _)
  have h := closed_run sampleSite hrun
  exact ⟨h.2 1 _ _ List.mem_cons_self _, h.1.db⟩

end AdvMcp.Server
