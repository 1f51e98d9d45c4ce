import AdvMcp.Access.Cache
import AdvMcp.Server.Ceiling
import AdvMcp.Server.Credential
import AdvMcp.Server.Wire

/-!
# The front of `POST /mcp_server`

What a request passes before `process`: `_auth_method_adv_gateway` of `models/http_layer.py`, and `pre_dispatch` of
`server/dispatcher.py`; and what it leaves.

* `authenticate`, `preDispatch` — the session that is bound, and the reply of a request that goes no further;
* `front` — a request: the reply, and the data and the limiters after it;
* `Admits` — the requests that are dispatched, and as whom; `Refusal` — the replies of the others;
* `front_cases` — every request is dispatched as `Admits` says, or has its refusal, which leaves everything but the
  limiters and the log as it was;
* `front_exact` — what follows for the replies, and for the origins that they name.

A preflight is not authenticated: Odoo takes `OPTIONS` on a route with CORS for `auth="none"`.
-/

namespace AdvMcp.Server

open AdvMcp.Access AdvMcp.Audit AdvMcp.Lib AdvMcp.OAuth AdvMcp.Py

/-! ### The request -/

inductive FrontMethod where
  | post
  | options
  deriving DecidableEq

/-- A request: headers that are missing are empty, and `body` is what `get_json_data` returns if it does not
raise. -/
structure FrontRequest where
  httpMethod : FrontMethod
  remoteAddr : String
  authorization : String
  origin : String
  mcpProtocolVersion : String
  userAgent : Option String
  mcpSessionId : Option String
  body : Option Value
  durationMs : ℕ

/-- What the front reads: the endpoint behind it, the lookup of keys, and the configuration.  The limiters of
authentication have the clock of the worker, in seconds. -/
structure Front (σ : Type) where
  endpoint : Endpoint σ
  service : KeyService
  oauthEnabled : Bool
  allowedOrigins : String
  loggingActive : Bool
  seconds : endpoint.worker.tick = 1

/-- The state of a worker and its database: the time, the tables of OAuth and of the keys, the limiters, data. -/
structure FrontState (σ : Type) where
  time : Time
  store : Store
  keys : List ApiKey
  auth : AuthState
  flow : FlowState
  db : σ

/-- The headers that `pre_dispatch` sets. -/
abbrev Headers := List (String × String)

/-- A reply of the front. -/
inductive FrontReply where
  | unauthorized
  | refused (status : ℕ) (body : Dict)
  | preflight (headers : Headers)
  | replied (headers : Headers) (wire : Wire)

section Front

variable {σ : Type} (O : OAuth.Site) (F : Front σ) (rq : FrontRequest)

def Front.lo : Lower := F.endpoint.worker.gateway.lo

def Front.peer : Peer := ⟨F.endpoint.worker.gateway.db, rq.remoteAddr⟩

/-- The session of a request that nobody has authenticated. -/
def anonymous : Session := ⟨0, rq.remoteAddr, none, none, none, rq.userAgent, rq.mcpSessionId, rq.durationMs⟩

/-- What `_auth_method_adv_gateway` puts on a request with an API key. -/
def keySession (q : Session) (uid : ℕ) : Session := { q with uid := uid, authMethod := some "api_key" }

/-- `_auth_method_adv_gateway`: the session that is bound, and the limiters and the log after it. -/
def authenticate (s : FrontState σ) : Option Session × AuthState :=
  let token := extractBearerToken F.lo rq.authorization
  let key := match token with
    | some t => getUser F.service s.keys bearerScopes t
    | none => .invalid
  let row := token.bind (resolveToken O s.store s.time F.oauthEnabled F.service.userActive)
  let r := authMethodAdvGateway F.loggingActive s.flow.now (F.peer rq) s.auth rq.authorization token key
    (row.map (·.userId))
  let session := match token, key, row with
    | some _, .user uid, _ => some (keySession (anonymous rq) uid)
    | some _, _, some row => some (oauthSession (anonymous rq) row)
    | _, _, _ => none
  (session, r.2.2)

/-- The `Origin` is in the list, if there are both. -/
def originAllowed : Bool :=
  let origins := allowedOriginSet F.lo F.allowedOrigins
  origins.isEmpty || rq.origin = "" || F.lo.lower (rstrip '/' rq.origin) ∈ origins

/-- The protocol version is supported, if there is one. -/
def versionSupported : Bool := rq.mcpProtocolVersion = "" || rq.mcpProtocolVersion ∈ supportedProtocolVersions

def corsHeaders : Headers :=
  if (allowedOriginSet F.lo F.allowedOrigins).isEmpty then [("Access-Control-Allow-Origin", "*")]
  else (if rq.origin = "" then [] else [("Access-Control-Allow-Origin", rq.origin)]) ++ [("Vary", "Origin")]

def originRefused : FrontReply := .refused 403 (wrapErr "forbidden" "Origin not allowed." .none)

def versionRefused : FrontReply := .refused 400 (wrapErr "bad_request" "Unsupported MCP-Protocol-Version." .none)

/-- `pre_dispatch`: the reply with which it aborts, or the headers that it sets. -/
def preDispatch : Except FrontReply Headers :=
  if !originAllowed F rq then .error originRefused
  else if !versionSupported rq then .error versionRefused
  else if rq.httpMethod = .options then .error (.preflight (corsHeaders F rq))
  else .ok (corsHeaders F rq)

/-- The data after a handler. -/
def handlerData (p : Endpoint σ) (q : Session) (route : Route) (args : Value) (db : σ) : σ :=
  match route, args with
  | .toolsCall, .dict a => committed p.site db (invokeTool p.site q a db)
  | .resourcesRead, .dict a => committed p.site db (fetchResource p.site q a db)
  | _, _ => db

/-- The data and the throttle after a body that is dispatched. -/
def dispatchState (p : Endpoint σ) (q : Session) (s : FlowState) (body : Value) (db : σ) : FlowState × σ :=
  if (bodyParams body).has "self" then (s, db)
  else
    let r := process p.worker s q.uid q.remoteAddr (bodyParams body)
    (r.2, match r.1 with
      | .handled route args => handlerData p q route args db
      | _ => db)

/-- A body that is no JSON is answered before the endpoint is called. -/
def parseFailure : Wire := .json 200 (wrapErr "bad_request" "Parse error" .none)

/-- A request that is dispatched as a session. -/
def dispatched (q : Session) (s : FrontState σ) : FrontReply × FrontState σ :=
  match rq.body with
  | none => (.replied (corsHeaders F rq) parseFailure, s)
  | some body =>
    let r := dispatchState F.endpoint q s.flow body s.db
    (.replied (corsHeaders F rq) (dispatch F.endpoint q s.flow body s.db), { s with flow := r.1, db := r.2 })

/-- A request at the endpoint. -/
def front (s : FrontState σ) : FrontReply × FrontState σ :=
  if rq.httpMethod = .options then
    match preDispatch F rq with
    | .error reply => (reply, s)
    | .ok headers => (.preflight headers, s)
  else
    let r := authenticate O F rq s
    match r.1 with
    | none => (.unauthorized, { s with auth := r.2 })
    | some q =>
      match preDispatch F rq with
      | .error reply => (reply, { s with auth := r.2 })
      | .ok _ => dispatched F rq q { s with auth := r.2 }

/-! ### Who is admitted -/

/-- The session that a token is good for: the one of an API key, or else that of an access token. -/
inductive Credit (s : FrontState σ) (token : String) : Session → Prop
  | apiKey {uid : ℕ} (known : getUser F.service s.keys bearerScopes token = .user uid) :
    Credit s token (keySession (anonymous rq) uid)
  | oauth {row : TokenRow} (unknown : ∀ uid, getUser F.service s.keys bearerScopes token ≠ .user uid)
    (resolved : resolveToken O s.store s.time F.oauthEnabled F.service.userActive token = some row) :
    Credit s token (oauthSession (anonymous rq) row)

/-- The header has a token that is good for the session. -/
def Credited (s : FrontState σ) (q : Session) : Prop :=
  ∃ token, Bears F.lo rq.authorization token ∧ Credit O F rq s token q

/-- The request is dispatched as the session. -/
structure Admits (s : FrontState σ) (q : Session) : Prop where
  post : rq.httpMethod = .post
  credit : Credited O F rq s q
  origin : originAllowed F rq = true
  version : versionSupported rq = true

/-- The replies of the requests that are not dispatched.  Credentials come first, then the origin, then the
version. -/
inductive Refusal (s : FrontState σ) : FrontReply → Prop
  | unauthorized (post : rq.httpMethod = .post) (nobody : ∀ q, ¬ Credited O F rq s q) : Refusal s .unauthorized
  | origin (known : rq.httpMethod = .post → ∃ q, Credited O F rq s q) (refused : originAllowed F rq = false) :
    Refusal s originRefused
  | version (known : rq.httpMethod = .post → ∃ q, Credited O F rq s q) (allowed : originAllowed F rq = true)
    (refused : versionSupported rq = false) : Refusal s versionRefused
  | preflight (options : rq.httpMethod = .options) (allowed : originAllowed F rq = true)
    (supported : versionSupported rq = true) : Refusal s (.preflight (corsHeaders F rq))

variable {O F rq} {s : FrontState σ} {q : Session}

/-- A token that is good for a session binds it, and the limiters are not asked. -/
lemma authenticate_credit {token : String} (hb : Bears F.lo rq.authorization token)
    (hc : Credit O F rq s token q) :
    authenticate O F rq s = (some q, s.auth) := by
  have ht := (bears_iff _ _ _).2 hb
  unfold authenticate
  cases hc with
  | apiKey known =>
    simp only [ht, known]
    rfl
  | oauth unknown resolved =>
    cases hk : getUser F.service s.keys bearerScopes token with
    | user uid => exact absurd hk (unknown uid)
    | _ =>
      simp only [ht, hk, Option.bind_some, resolved]
      rfl

/-- **Authentication** binds just the sessions that the header has a token for. -/
lemma authenticate_iff : (authenticate O F rq s).1 = some q ↔ Credited O F rq s q := by
  constructor
  · intro h
    unfold authenticate at h
    cases ht : extractBearerToken F.lo rq.authorization with
    | none =>
      simp only [ht] at h
      cases h
    | some token =>
      refine ⟨token, (bears_iff _ _ _).1 ht, ?_⟩
      simp only [ht, Option.bind_some] at h
      cases hr : resolveToken O s.store s.time F.oauthEnabled F.service.userActive token with
      | none =>
        cases hk : getUser F.service s.keys bearerScopes token with
        | user uid =>
          rw [hk, hr] at h
          obtain rfl := Option.some.inj h
          exact .apiKey hk
        | _ =>
          rw [hk, hr] at h
          cases h
      | some row =>
        cases hk : getUser F.service s.keys bearerScopes token with
        | user uid =>
          rw [hk, hr] at h
          obtain rfl := Option.some.inj h
          exact .apiKey hk
        | _ =>
          rw [hk, hr] at h
          obtain rfl := Option.some.inj h
          exact .oauth (by simp [hk]) hr
  · rintro ⟨token, hb, hc⟩
    rw [authenticate_credit hb hc]

/-- Nobody is credited twice. -/
lemma Credited.unique {q' : Session} (h : Credited O F rq s q) (h' : Credited O F rq s q') : q = q' :=
  Option.some.inj ((authenticate_iff.2 h).symm.trans (authenticate_iff.2 h'))

lemma preDispatch_refused {reply : FrontReply} (h : preDispatch F rq = .error reply) :
    (originAllowed F rq = false ∧ reply = originRefused) ∨
      (originAllowed F rq = true ∧ versionSupported rq = false ∧ reply = versionRefused) ∨
        (originAllowed F rq = true ∧ versionSupported rq = true ∧ rq.httpMethod = .options ∧
          reply = .preflight (corsHeaders F rq)) := by
  unfold preDispatch at h
  split_ifs at h with ho hv hm
  · exact Or.inl ⟨by simpa using ho, (Except.error.inj h).symm⟩
  · exact Or.inr (Or.inl ⟨by simpa using ho, by simpa using hv, (Except.error.inj h).symm⟩)
  · exact Or.inr (Or.inr ⟨by simpa using ho, by simpa using hv, hm, (Except.error.inj h).symm⟩)

lemma preDispatch_passed {headers : Headers} (h : preDispatch F rq = .ok headers) :
    originAllowed F rq = true ∧ versionSupported rq = true ∧ rq.httpMethod ≠ .options := by
  unfold preDispatch at h
  split_ifs at h with ho hv hm
  exact ⟨by simpa using ho, by simpa using hv, hm⟩

/-- What `pre_dispatch` replies is the refusal of a request that is known, or is a preflight. -/
lemma refusal_of_preDispatch {reply : FrontReply} (h : preDispatch F rq = .error reply)
    (known : rq.httpMethod = .post → ∃ q, Credited O F rq s q) : Refusal O F rq s reply := by
  rcases preDispatch_refused h with ⟨ho, rfl⟩ | ⟨ho, hv, rfl⟩ | ⟨ho, hv, hm, rfl⟩
  · exact .origin known ho
  · exact .version known ho hv
  · exact .preflight hm ho hv

/-- **The front.**  Every request is dispatched as just the session that `Admits` says, with the state as it was; or
it has the reply of its refusal, and the data, the tables and the throttle are as they were. -/
theorem front_cases (O : OAuth.Site) (F : Front σ) (rq : FrontRequest) (s : FrontState σ) :
    (∃ q, Admits O F rq s q ∧ (∀ q', Admits O F rq s q' → q' = q) ∧ front O F rq s = dispatched F rq q s) ∨
      ((∀ q, ¬ Admits O F rq s q) ∧ ∃ reply auth, Refusal O F rq s reply ∧
        front O F rq s = (reply, { s with auth := auth })) := by
  unfold front
  cases hm : rq.httpMethod with
  | options =>
    refine Or.inr ⟨fun q h => ?_, ?_⟩
    · rw [h.post] at hm
      cases hm
    · rw [if_pos rfl]
      cases hp : preDispatch F rq with
      | ok headers => exact absurd hm (preDispatch_passed hp).2.2
      | error reply => exact ⟨reply, s.auth, refusal_of_preDispatch hp (by simp [hm]), rfl⟩
  | post =>
    rw [if_neg (by simp)]
    simp only
    cases hq : (authenticate O F rq s).1 with
    | none =>
      have hnobody : ∀ q, ¬ Credited O F rq s q := by
        intro q h
        rw [authenticate_iff.2 h] at hq
        cases hq
      exact Or.inr ⟨fun q h => hnobody q h.credit, _, _, .unauthorized hm hnobody, rfl⟩
    | some q =>
      have hcredit := authenticate_iff.1 hq
      have hauth : (authenticate O F rq s).2 = s.auth := by
        obtain ⟨token, hb, hc⟩ := hcredit
        rw [authenticate_credit hb hc]
      simp only [hauth]
      cases hp : preDispatch F rq with
      | ok headers =>
        obtain ⟨ho, hv, -⟩ := preDispatch_passed hp
        exact Or.inl ⟨q, ⟨hm, hcredit, ho, hv⟩, fun q' h' => h'.credit.unique hcredit, rfl⟩
      | error reply =>
        refine Or.inr ⟨fun q' h' => ?_, reply, s.auth, refusal_of_preDispatch hp fun _ => ⟨q, hcredit⟩, rfl⟩
        rcases preDispatch_refused hp with ⟨ho, -⟩ | ⟨-, hv, -⟩ | ⟨-, -, hopt, -⟩
        · rw [h'.origin] at ho
          cases ho
        · rw [h'.version] at hv
          cases hv
        · rw [hm] at hopt
          cases hopt

/-! ### The replies -/

def FrontReply.isDispatched : FrontReply → Bool
  | .replied _ _ => true
  | _ => false

def FrontReply.headers : FrontReply → Headers
  | .preflight headers | .replied headers _ => headers
  | _ => []

@[simp] lemma headers_replied (headers : Headers) (wire : Wire) :
    (FrontReply.replied headers wire).headers = headers := rfl

@[simp] lemma headers_preflight (headers : Headers) : (FrontReply.preflight headers).headers = headers := rfl

/-- The list of origins has a part, after commas are split and white space is stripped, and none of its parts is
that of the text. -/
def Unlisted (F : Front σ) (origin : String) : Prop :=
  (∃ part ∈ splitOn ',' (strip F.allowedOrigins), strip part ≠ "") ∧
    ∀ part ∈ splitOn ',' (strip F.allowedOrigins), strip part ≠ "" →
      F.lo.lower (rstrip '/' (strip part)) ≠ F.lo.lower (rstrip '/' origin)

lemma mem_allowedOriginSet {lo : Lower} {text x : String} : x ∈ allowedOriginSet lo text ↔
    ∃ part ∈ splitOn ',' (strip text), strip part ≠ "" ∧ lo.lower (rstrip '/' (strip part)) = x := by
  unfold allowedOriginSet
  simp only [List.mem_map, List.mem_filter, decide_eq_true_eq, and_assoc]

lemma unlisted_iff {origin : String} : Unlisted F origin ↔ allowedOriginSet F.lo F.allowedOrigins ≠ [] ∧
    F.lo.lower (rstrip '/' origin) ∉ allowedOriginSet F.lo F.allowedOrigins := by
  unfold Unlisted
  refine and_congr ?_ ?_
  · constructor
    · rintro ⟨part, hp, hne⟩
      exact List.ne_nil_of_mem (mem_allowedOriginSet.2 ⟨part, hp, hne, rfl⟩)
    · intro h
      obtain ⟨x, hx⟩ := List.exists_mem_of_ne_nil _ h
      obtain ⟨part, hp, hne, -⟩ := mem_allowedOriginSet.1 hx
      exact ⟨part, hp, hne⟩
  · rw [mem_allowedOriginSet]
    simp only [not_exists, not_and]

lemma originAllowed_iff : originAllowed F rq = true ↔ rq.origin = "" ∨ ¬ Unlisted F rq.origin := by
  rw [unlisted_iff, not_and_or, not_not, not_not]
  unfold originAllowed
  generalize allowedOriginSet F.lo F.allowedOrigins = origins
  simp only [Bool.or_eq_true, List.isEmpty_iff, decide_eq_true_eq]
  rw [or_right_comm, or_comm]

/-- The headers name no origin but the one that is allowed. -/
lemma corsHeaders_named (ho : originAllowed F rq = true) {o : String}
    (h : ("Access-Control-Allow-Origin", o) ∈ corsHeaders F rq) :
    (o = "*" ∧ ∀ origin, ¬ Unlisted F origin) ∨ (o = rq.origin ∧ ¬ Unlisted F o) := by
  unfold corsHeaders at h
  split_ifs at h with he hr
  · obtain rfl := (Prod.mk.inj (List.mem_singleton.1 h)).2
    exact Or.inl ⟨rfl, fun origin hu => (unlisted_iff.1 hu).1 (List.isEmpty_iff.1 he)⟩
  · simp at h
  · simp only [List.cons_append, List.nil_append, List.mem_cons, Prod.mk.injEq, true_and, List.not_mem_nil,
      or_false] at h
    rcases h with rfl | ⟨hname, -⟩
    · exact Or.inr ⟨rfl, (originAllowed_iff.1 ho).resolve_left hr⟩
    · exact absurd hname (by decide)

lemma dispatched_replied (q : Session) (s : FrontState σ) :
    ∃ wire, (dispatched F rq q s).1 = .replied (corsHeaders F rq) wire := by
  unfold dispatched
  cases rq.body with
  | none => exact ⟨_, rfl⟩
  | some body => exact ⟨_, rfl⟩

lemma Refusal.not_dispatched {reply : FrontReply} (h : Refusal O F rq s reply) : reply.isDispatched = false := by
  cases h <;> rfl

/-- **The front, by its replies.**  Exactly the requests that `Admits` lets in are dispatched (a body that is no JSON
is answered in front of the endpoint); every other reply is that of its refusal, in the order of the checks, and
leaves the data as it was.  No reply names an origin that a list with a part in it does not have, whatever the
request, and only without such a part do replies allow every origin. -/
theorem front_exact (O : OAuth.Site) (F : Front σ) (rq : FrontRequest) (s : FrontState σ) :
    ((front O F rq s).1.isDispatched = true ↔ ∃ q, Admits O F rq s q) ∧
    ((front O F rq s).1.isDispatched = false → Refusal O F rq s (front O F rq s).1 ∧
      (front O F rq s).2.db = s.db ∧ (front O F rq s).2.flow = s.flow) ∧
    ∀ o, ("Access-Control-Allow-Origin", o) ∈ (front O F rq s).1.headers →
      (o = "*" ∧ ∀ origin, ¬ Unlisted F origin) ∨ (o = rq.origin ∧ ¬ Unlisted F o) := by
  rcases front_cases O F rq s with ⟨q, hq, -, he⟩ | ⟨hnone, reply, auth, hr, he⟩
  · obtain ⟨wire, hw⟩ : ∃ wire, (dispatched F rq q s).1 = .replied (corsHeaders F rq) wire :=
      dispatched_replied q s
    have hreply : (front O F rq s).1 = .replied (corsHeaders F rq) wire := by rw [he, hw]
    rw [hreply]
    refine ⟨iff_of_true rfl ⟨q, hq⟩, fun h => ?_, fun o ho => ?_⟩
    · cases h
    · rw [headers_replied] at ho
      exact corsHeaders_named hq.origin ho
  · rw [he]
    refine ⟨iff_of_false ?_ (fun ⟨q, hq⟩ => hnone q hq), fun _ => ⟨hr, rfl, rfl⟩, fun o ho => ?_⟩
    · rw [hr.not_dispatched]
      exact Bool.false_ne_true
    · cases hr with
      | preflight _ allowed _ =>
        rw [headers_preflight] at ho
        exact corsHeaders_named allowed ho
      | unauthorized _ _ => cases ho
      | origin _ _ => cases ho
      | version _ _ _ => cases ho

/-! ### A gateway that is switched off -/

/-- Nothing is handled, and nothing changes. -/
lemma dispatched_disabled (h : F.endpoint.worker.gateway.registry.enabled = false) (q : Session)
    (s : FrontState σ) : (dispatched F rq q s).2 = s ∧ ∃ status body err,
      (dispatched F rq q s).1 = .replied (corsHeaders F rq) (.json status body) ∧
        body.get "error" = .dict err := by
  have hprocess : ∀ raw, process F.endpoint.worker s.flow q.uid q.remoteAddr raw =
      (.error "server_error" "Advanced MCP server is disabled globally.", s.flow) := by
    intro raw
    unfold process
    rw [h]
    rfl
  unfold dispatched
  cases rq.body with
  | none => exact ⟨rfl, _, _, _, rfl, rfl⟩
  | some body =>
    unfold dispatchState dispatch
    simp only [hprocess]
    split_ifs
    · exact ⟨rfl, _, _, _, rfl, rfl⟩
    · exact ⟨rfl, _, _, _, rfl, rfl⟩

end Front

end AdvMcp.Server
