import AdvMcp.Audit.Event
import AdvMcp.Lib.Runs
import AdvMcp.Py.Builtins
import AdvMcp.Rpc.Proxy
import AdvMcp.Server.Handler
import AdvMcp.Server.Throttle

/-!
# Flow control

`process` and `_apply_flow_control` of `server/handler.py` up to the handler of a request, and the XML-RPC
proxy beside them, in one worker.

* `process` — a request at `POST /mcp_server`: refused, throttled, or handed to the handler of its method;
* `Route.operations` — how many model operations a request can execute: a `pipeline`, those of its batch;
* `serve` — a request at either front; `executed` keeps when a model operation was executed, and for whom;
* `flow` — the worker as a system: requests come in any order, at times that do not go back;
* `executed_within_limit` — no window holds more operations of an account than its limit, in every run
  without XML-RPC calls and without longer batches of that account.

The proxy asks no limiter, and a batch asks it once.
-/

namespace AdvMcp.Server

open AdvMcp.Audit AdvMcp.Lib AdvMcp.Py AdvMcp.Rpc

/-! ### Configuration -/

/-- What the limiter reads of `adv.server.config`. -/
structure ServerConfig where
  enableRateLimiting : Bool
  requestLimit : ℤ
  adminRequestLimit : ℤ

/-- A user of a database. -/
structure Account where
  db : String
  uid : ℕ
  deriving DecidableEq

/-- A worker: its gateway, the configuration record if it is there, who is an administrator of the gateway,
and how many ticks of the clock make a second. -/
structure Worker where
  gateway : Gateway
  config : Option ServerConfig
  isAdmin : ℕ → Bool
  tick : ℤ

section Worker

variable (W : Worker)

/-- `throttling_active` -/
def throttlingActive : Bool := W.config.any (·.enableRateLimiting)

/-- `max_requests_for_uid` -/
def maxRequestsForUid (uid : ℕ) : ℤ :=
  match W.config with
  | none => 300
  | some cfg =>
    if 0 < cfg.adminRequestLimit && W.isAdmin uid then cfg.adminRequestLimit
    else if cfg.requestLimit = 0 then 300 else cfg.requestLimit

def throttleWindowMinutes : ℤ := 1

/-- The window of the limiters, in ticks. -/
def Worker.window : ℤ := throttleWindowMinutes * 60 * W.tick

/-! ### The limiters -/

def auditWriteMax : ℤ := 20
def auditWriteWindowSeconds : ℤ := 60

/-- The limiters of the worker, what was emitted to the log, and the model operations executed: when, and
for whom. -/
structure FlowState where
  now : ℤ
  throttle : Throttle Account
  rateLimitAudit : Throttle Account
  auditWrites : Throttle (String × String)
  events : List Event
  executed : List (ℤ × Account)

/-- `_emit_audit` -/
def emitAudit (s : FlowState) (remoteAddr : String) (event : Event) : FlowState :=
  let r := isLimited (auditWriteWindowSeconds * W.tick) s.auditWrites s.now (W.gateway.db, remoteAddr)
    auditWriteMax
  { s with auditWrites := r.2, events := if r.1 then s.events else s.events ++ [event] }

/-- `_record_flow_limit_exceeded` -/
def recordFlowLimitExceeded (s : FlowState) (uid : ℕ) (remoteAddr : String) : FlowState :=
  emitAudit W s remoteAddr (recordQuotaExceeded (some "/mcp_server")
    { userId := some (some uid), ipAddress := some remoteAddr })

def flowControlExempt : List String :=
  ["notifications/initialized", "notifications/cancelled", "notifications/progress",
    "notifications/roots/list_changed"]

/-- `_subject_to_flow_control` -/
def subjectToFlowControl (method : String) : Bool := method ≠ "ping" && method ∉ flowControlExempt

/-- `_apply_flow_control`: the `Retry-After` of a throttled request. -/
def applyFlowControl (s : FlowState) (uid : ℕ) (remoteAddr method : String) : Option ℤ × FlowState :=
  if !subjectToFlowControl method then (none, s)
  else if !throttlingActive W then (none, s)
  else
    let account : Account := ⟨W.gateway.db, uid⟩
    let r := isLimited W.window s.throttle s.now account (maxRequestsForUid W uid)
    let s := { s with throttle := r.2 }
    if !r.1 then (none, s)
    else
      let audit := isLimited W.window s.rateLimitAudit s.now account 1
      let s := { s with rateLimitAudit := audit.2 }
      (some (throttleWindowMinutes * 60),
        if !audit.1 then recordFlowLimitExceeded W s uid remoteAddr else s)

/-! ### The two fronts -/

/-- The methods of `_ROUTE_TABLE`. -/
inductive Route where
  | initializeSession
  | ping
  | toolsList
  | toolsCall
  | templatesList
  | resourcesList
  | resourcesRead
  deriving DecidableEq

/-- `_ROUTE_TABLE` -/
def routeTable : List (String × Route) :=
  [("initialize", .initializeSession), ("ping", .ping), ("tools/list", .toolsList), ("tools/call", .toolsCall),
    ("resources/templates/list", .templatesList), ("resources/list", .resourcesList),
    ("resources/read", .resourcesRead)]

/-- How many model operations a tool can execute: those of its batch (`_run_batch_op`), or one. -/
def toolOperations (name : String) (incoming : Dict) : ℕ :=
  if name = "pipeline" then (incoming.get "operations").items.length else 1

/-- How many model operations the handler of a route can execute. -/
def Route.operations (route : Route) (args : Value) : ℕ :=
  match route, args with
  | .toolsCall, .dict a =>
    match Dict.get a "name", incomingOf a with
    | .str name, .dict incoming => toolOperations name incoming
    | _, _ => 0
  | .resourcesRead, _ => 1
  | _, _ => 0

/-- What `process` makes of a request before a handler runs. -/
inductive Passage where
  | error (errorType detail : String)
  | throttled (retryAfter : ℤ)
  | acknowledged
  | handled (route : Route) (args : Value)

/-- `parse_envelope` -/
def parseEnvelope (raw : Dict) : Except (String × String) (String × Value) :=
  match raw.get "jsonrpc" with
  | .str "2.0" =>
    match raw.get "method" with
    | .str method =>
      if method = "" then .error ("bad_request", "Field 'method' must be a non-empty string")
      else .ok (method, if (raw.get "params").truthy then raw.get "params" else .dict [])
    | _ => .error ("bad_request", "Field 'method' must be a non-empty string")
  | _ => .error ("bad_request", "Unexpected envelope format")

/-- `process`, up to the handler -/
def process (s : FlowState) (uid : ℕ) (remoteAddr : String) (raw : Dict) : Passage × FlowState :=
  if !W.gateway.registry.enabled then
    (.error "server_error" "Advanced MCP server is disabled globally.", s)
  else
    match parseEnvelope raw with
    | .error e => (.error e.1 e.2, s)
    | .ok (method, args) =>
      let r := applyFlowControl W s uid remoteAddr method
      match r.1 with
      | some retryAfter => (.throttled retryAfter, r.2)
      | none =>
        match routeTable.lookup method with
        | some route => (.handled route args, r.2)
        | none =>
          if startsWith "notifications/" method then (.acknowledged, r.2)
          else (.error "not_found" ("Unknown capability: '" ++ method ++ "' is not registered"), r.2)

/-- A request of a user: at `POST /mcp_server`, or at `/mcp_server/xmlrpc/object`.  A handler executes as many of
its operations as the data let it (`done`).  What the proxy forwards runs as the account that the model service
finds the credentials to be of, if it finds one. -/
inductive Arrival where
  | mcp (uid : ℕ) (remoteAddr : String) (raw : Dict) (done : ℕ)
  | rpc (xmlrpcMethod : String) (params : List Value) (account : Option Account)

/-- The account for which the proxy has the model service execute the request. -/
def Arrival.proxied (W : Worker) : Arrival → Option Account
  | .mcp _ _ _ _ => none
  | .rpc xmlrpcMethod params account =>
    match advObjectDispatch W.gateway xmlrpcMethod params with
    | .forwarded _ _ => account
    | _ => none

/-- How many model operations a body asks for. -/
def requestedOperations (raw : Dict) : ℕ :=
  match parseEnvelope raw with
  | .ok (method, args) => ((routeTable.lookup method).map fun route => route.operations args).getD 0
  | .error _ => 0

/-- `n` model operations for an account. -/
def FlowState.execute (s : FlowState) (account : Account) (n : ℕ) : FlowState :=
  { s with executed := s.executed ++ List.replicate n (s.now, account) }

/-- A request at its front. -/
def serve (s : FlowState) (a : Arrival) : FlowState :=
  match a with
  | .mcp uid remoteAddr raw done =>
    let r := process W s uid remoteAddr raw
    match r.1 with
    | .handled route args => r.2.execute ⟨W.gateway.db, uid⟩ (min done (route.operations args))
    | _ => r.2
  | .rpc _ _ _ =>
    match a.proxied W with
    | some account => s.execute account 1
    | none => s

/-- The request executes at most one operation for the account behind its slot of the limiter: the proxy does not
execute it, and it is no longer batch. -/
def Arrival.Single (W : Worker) (u : Account) : Arrival → Prop
  | .mcp uid _ raw _ => (⟨W.gateway.db, uid⟩ : Account) = u → requestedOperations raw ≤ 1
  | .rpc xmlrpcMethod params account => (Arrival.rpc xmlrpcMethod params account).proxied W ≠ some u

/-- The worker: each label is a request and its time. -/
def flow : Sys FlowState (ℤ × Arrival) where
  init s := s.throttle = (fun _ => []) ∧ s.rateLimitAudit = (fun _ => []) ∧
    s.auditWrites = (fun _ => []) ∧ s.events = [] ∧ s.executed = []
  step s l s' := s.now ≤ l.1 ∧ s' = serve W { s with now := l.1 } l.2

end Worker

/-! ### One request -/

section Request

variable {W : Worker} {u v : Account} {s : FlowState} {uid : ℕ} {remoteAddr method : String}

/-- When operations of an account were executed. -/
def FlowState.times (s : FlowState) (u : Account) : List ℤ :=
  (s.executed.filter fun e => e.2 = u).map (·.1)

lemma times_execute_self (n : ℕ) : (s.execute u n).times u = s.times u ++ List.replicate n s.now := by
  unfold FlowState.times FlowState.execute
  rw [List.filter_append, List.map_append]
  simp

lemma times_execute_of_ne (n : ℕ) (h : v ≠ u) : (s.execute v n).times u = s.times u := by
  unfold FlowState.times FlowState.execute
  rw [List.filter_append, List.map_append]
  simp [h]

/-- What was executed for the account had been admitted for it, and the bucket holds the last of that. -/
def Within (W : Worker) (u : Account) (s : FlowState) : Prop :=
  ∃ ts, Tracks W.window (maxRequestsForUid W u.uid) s.now ts (s.throttle u) ∧ (s.times u).Sublist ts

lemma within_execute_of_ne (n : ℕ) (hs : Within W u s) (h : v ≠ u) : Within W u (s.execute v n) := by
  obtain ⟨ts, ht, hsub⟩ := hs
  refine ⟨ts, ht, ?_⟩
  rw [times_execute_of_ne n h]
  exact hsub

/-- An operation that was admitted may be executed. -/
lemma within_execute {ts : List ℤ} {n : ℕ} (hn : n ≤ 1)
    (ht : Tracks W.window (maxRequestsForUid W u.uid) s.now (ts ++ [s.now]) (s.throttle u))
    (hsub : (s.times u).Sublist ts) : Within W u (s.execute u n) := by
  refine ⟨ts ++ [s.now], ht, ?_⟩
  rw [times_execute_self]
  refine hsub.append ?_
  have hrep : (List.replicate n s.now).Sublist (List.replicate 1 s.now) :=
    (List.replicate_sublist_replicate _).2 hn
  exact hrep

/-- The state after a throttled request, but for the throttle and the audit of the limit. -/
lemma applyFlowControl_frame (uid : ℕ) (remoteAddr method : String) :
    (applyFlowControl W s uid remoteAddr method).2.now = s.now ∧
      (applyFlowControl W s uid remoteAddr method).2.executed = s.executed := by
  unfold applyFlowControl
  simp only
  split_ifs <;> exact ⟨rfl, rfl⟩

/-- A request that is subject to flow control asks the throttle, and passes if it is not limited. -/
lemma applyFlowControl_subject (uid : ℕ) (remoteAddr : String) (hactive : throttlingActive W = true)
    (hsub : subjectToFlowControl method = true) :
    (applyFlowControl W s uid remoteAddr method).2.throttle =
        (isLimited W.window s.throttle s.now ⟨W.gateway.db, uid⟩ (maxRequestsForUid W uid)).2 ∧
      ((applyFlowControl W s uid remoteAddr method).1 = none ↔
        (isLimited W.window s.throttle s.now ⟨W.gateway.db, uid⟩ (maxRequestsForUid W uid)).1 = false) := by
  unfold applyFlowControl
  rw [hsub, hactive]
  simp only [Bool.not_true, Bool.false_eq_true, if_false]
  split_ifs with hl ha
  · exact ⟨rfl, iff_of_true rfl (by simpa using hl)⟩
  · exact ⟨rfl, iff_of_false (by simp) (by simpa using hl)⟩
  · exact ⟨rfl, iff_of_false (by simp) (by simpa using hl)⟩

lemma applyFlowControl_exempt (hsub : subjectToFlowControl method = false) :
    applyFlowControl W s uid remoteAddr method = (none, s) := by
  unfold applyFlowControl
  rw [hsub]
  rfl

/-- **Flow control** keeps the account within its limit, also if one operation of the request that it lets pass is
executed. -/
lemma within_flowControl (uid : ℕ) (remoteAddr method : String) (hactive : throttlingActive W = true)
    (hpos : 0 < maxRequestsForUid W u.uid) (hs : Within W u s) :
    Within W u (applyFlowControl W s uid remoteAddr method).2 ∧
      ((applyFlowControl W s uid remoteAddr method).1 = none → subjectToFlowControl method = true →
        ∀ n, ((⟨W.gateway.db, uid⟩ : Account) = u → n ≤ 1) →
          Within W u ((applyFlowControl W s uid remoteAddr method).2.execute ⟨W.gateway.db, uid⟩ n)) := by
  cases hsub : subjectToFlowControl method with
  | false =>
    rw [applyFlowControl_exempt hsub]
    exact ⟨hs, fun _ hf => by cases hf⟩
  | true =>
    have hframe := applyFlowControl_frame (W := W) (s := s) uid remoteAddr method
    have hthrottle := applyFlowControl_subject (s := s) uid remoteAddr hactive hsub
    generalize applyFlowControl W s uid remoteAddr method = r at hframe hthrottle ⊢
    obtain ⟨hnow, hexec⟩ := hframe
    obtain ⟨hth, hnone⟩ := hthrottle
    have htimes : r.2.times u = s.times u := by
      unfold FlowState.times
      rw [hexec]
    obtain ⟨ts, ht, hts⟩ := hs
    by_cases hv : (⟨W.gateway.db, uid⟩ : Account) = u
    · subst hv
      cases hl : (isLimited W.window s.throttle s.now ⟨W.gateway.db, uid⟩ (maxRequestsForUid W uid)).1 with
      | true =>
        refine ⟨⟨ts, ?_, by rwa [htimes]⟩, fun hn => ?_⟩
        · rw [hth, hnow]
          exact ht.limited hl
        · rw [hnone.1 hn] at hl
          cases hl
      | false =>
        have hadmit := ht.admit hpos hl
        rw [← hth, ← hnow] at hadmit
        have hsub' : (r.2.times ⟨W.gateway.db, uid⟩).Sublist ts := by rwa [htimes]
        refine ⟨⟨_, hadmit, hsub'.trans (List.sublist_append_left _ _)⟩, fun _ _ n hn => ?_⟩
        exact within_execute (hn rfl) hadmit hsub'
    · have hkeep : r.2.throttle u = s.throttle u := by
        rw [hth]
        exact isLimited_of_ne (Ne.symm hv)
      have hw : Within W u r.2 := ⟨ts, by rwa [hnow, hkeep], by rwa [htimes]⟩
      exact ⟨hw, fun _ _ n _ => within_execute_of_ne n hw hv⟩

/-- The routes that lead to model operations are subject to flow control. -/
lemma operations_subject {route : Route} {args : Value} (h : routeTable.lookup method = some route)
    (hn : route.operations args ≠ 0) : subjectToFlowControl method = true := by
  have hall : ∀ p ∈ routeTable, p.2 = .ping ∨ subjectToFlowControl p.1 = true := by decide
  obtain ⟨l₁, l₂, hl, -⟩ := List.lookup_eq_some_iff.1 h
  refine (hall (method, route) (by rw [hl]; exact List.mem_append_right _ List.mem_cons_self)).resolve_left ?_
  rintro rfl
  exact hn rfl

/-- No operation is none. -/
lemma execute_zero (s : FlowState) (u : Account) : s.execute u 0 = s := by
  unfold FlowState.execute
  rw [List.replicate_zero, List.append_nil]

/-- The ways of a request to its handler. -/
inductive Processed (W : Worker) (s : FlowState) (uid : ℕ) (remoteAddr : String) (raw : Dict) :
    Passage × FlowState → Prop
  | refused (errorType detail : String) : Processed W s uid remoteAddr raw (.error errorType detail, s)
  | stopped (method : String) (p : Passage) (h : ∀ route args, p ≠ .handled route args) :
    Processed W s uid remoteAddr raw (p, (applyFlowControl W s uid remoteAddr method).2)
  | handled (method : String) (route : Route) (args : Value) (hraw : parseEnvelope raw = .ok (method, args))
    (hroute : routeTable.lookup method = some route)
    (hpass : (applyFlowControl W s uid remoteAddr method).1 = none) :
    Processed W s uid remoteAddr raw (.handled route args, (applyFlowControl W s uid remoteAddr method).2)

lemma process_processed (raw : Dict) : Processed W s uid remoteAddr raw (process W s uid remoteAddr raw) := by
  unfold process
  split_ifs
  · exact .refused _ _
  · cases hraw : parseEnvelope raw with
    | error e => exact .refused _ _
    | ok m =>
      obtain ⟨method, args⟩ := m
      simp only
      cases hr : (applyFlowControl W s uid remoteAddr method).1 with
      | some retryAfter => exact .stopped method _ (by simp)
      | none =>
        simp only
        cases hl : routeTable.lookup method with
        | some route => exact .handled method route args hraw hl hr
        | none =>
          simp only
          split_ifs
          · exact .stopped method _ (by simp)
          · exact .stopped method _ (by simp)

/-- **One request** keeps the account within its limit, unless the proxy executes it for the account or it is a
longer batch. -/
lemma within_serve (hactive : throttlingActive W = true) (hpos : 0 < maxRequestsForUid W u.uid)
    (hs : Within W u s) (a : Arrival) (ha : a.Single W u) : Within W u (serve W s a) := by
  cases a with
  | mcp uid remoteAddr raw done =>
    unfold serve
    simp only
    have hp : Processed W s uid remoteAddr raw (process W s uid remoteAddr raw) := process_processed raw
    generalize process W s uid remoteAddr raw = r at hp
    cases hp with
    | refused errorType detail => exact hs
    | stopped method p h =>
      have hw := (within_flowControl uid remoteAddr method hactive hpos hs).1
      cases p with
      | handled route args => exact absurd rfl (h route args)
      | _ => exact hw
    | handled method route args hraw hroute hpass =>
      have hw := within_flowControl uid remoteAddr method hactive hpos hs
      have hops : requestedOperations raw = route.operations args := by
        unfold requestedOperations
        rw [hraw]
        simp only [hroute, Option.map_some, Option.getD_some]
      by_cases h0 : route.operations args = 0
      · simp only [h0, Nat.min_zero]
        rw [execute_zero]
        exact hw.1
      · refine hw.2 hpass (operations_subject hroute h0) _ fun hu => ?_
        have hone := ha hu
        omega
  | rpc xmlrpcMethod params account =>
    unfold serve
    simp only
    cases hacc : (Arrival.rpc xmlrpcMethod params account).proxied W with
    | none => exact hs
    | some v =>
      refine within_execute_of_ne 1 hs ?_
      rintro rfl
      exact ha hacc

end Request

/-! ### Every run -/

/-- **Rate limiting.**  With throttling active and a positive limit, whatever the requests and their order,
no window holds more executed model operations of an account than its limit, in every state of a run in
which the proxy executes no request for that account and no batch of it asks for more than one operation. -/
theorem executed_within_limit (W : Worker) (u : Account) (hactive : throttlingActive W = true)
    (hpos : 0 < maxRequestsForUid W u.uid) {s s' : FlowState} {ls : List (ℤ × Arrival)}
    (h0 : (flow W).init s) (hrun : (flow W).RunBy (fun _ l => l.2.Single W u) s ls s') (a : ℤ) :
    inWindow W.window a (s'.times u) ≤ maxRequestsForUid W u.uid := by
  have hstart : Within W u s := by
    obtain ⟨hth, -, -, -, he⟩ := h0
    refine ⟨[], ⟨.nil, [], ?_, by simp⟩, ?_⟩
    · rw [hth]
      rfl
    · unfold FlowState.times
      rw [he]
      exact List.Sublist.refl _
  have hend : Within W u s' := by
    refine hrun.stable (fun s l s' _ hs hl hst => ?_) (.init h0) hstart
    obtain ⟨hnow, rfl⟩ := hst
    obtain ⟨ts, ht, hsub⟩ := hs
    have hw : Within W u { s with now := l.1 } := ⟨ts, ht.later hnow, hsub⟩
    exact within_serve hactive hpos hw l.2 hl
  obtain ⟨ts, ht, hsub⟩ := hend
  have hts := ht.admitted.window_le a
  have hle := (inWindow_sublist hsub).trans hts
  omega

/-- A worker that allows one request a minute. -/
def meteredWorker : Worker where
  gateway := saleGateway
  config := some ⟨true, 1, 0⟩
  isAdmin _ := false
  tick := 1

/-- A worker's first state. -/
def idle : FlowState := ⟨0, fun _ => [], fun _ => [], fun _ => [], [], []⟩

/-- A call of the tool `search`. -/
def searchRequest : Dict :=
  [("jsonrpc", .str "2.0"), ("method", .str "tools/call"), ("params", .dict [("name", .str "search")])]

/-- Two calls within a minute. -/
def twoCalls : FlowState :=
  serve meteredWorker
    { serve meteredWorker { idle with now := 1 } (.mcp 2 "203.0.113.7" searchRequest 1) with now := 2 }
    (.mcp 2 "203.0.113.7" searchRequest 1)

lemma twoCalls_run : (flow meteredWorker).RunBy (fun _ l => l.2.Single meteredWorker ⟨"erp", 2⟩)
    idle [(1, .mcp 2 "203.0.113.7" searchRequest 1), (2, .mcp 2 "203.0.113.7" searchRequest 1)] twoCalls := by
  have hone : requestedOperations searchRequest ≤ 1 := by decide
  exact .cons (fun _ => hone) ⟨by decide, rfl⟩ (.cons (fun _ => hone) ⟨by decide, rfl⟩ (.nil _))

/-- They stay within the limit: the second is throttled. -/
theorem executed_within_limit_search :
    inWindow meteredWorker.window 0 (twoCalls.times ⟨"erp", 2⟩) ≤ maxRequestsForUid meteredWorker 2 :=
  executed_within_limit meteredWorker ⟨"erp", 2⟩ rfl (by decide) ⟨rfl, rfl, rfl, rfl, rfl⟩ twoCalls_run 0

/-- A read at the XML-RPC front. -/
def rpcRead : Arrival := .rpc "execute_kw" (saleRead "erp") (some ⟨"erp", 2⟩)

lemma rpcRead_proxied : rpcRead.proxied meteredWorker = some ⟨"erp", 2⟩ := by
  unfold rpcRead Arrival.proxied meteredWorker
  simp only
  rw [saleRead_forwarded]

/-- The proxy executes two reads within a minute. -/
theorem proxy_not_limited : ∃ s, (flow meteredWorker).init idle ∧
    (flow meteredWorker).Run idle [(1, rpcRead), (2, rpcRead)] s ∧
      throttlingActive meteredWorker = true ∧ maxRequestsForUid meteredWorker 2 = 1 ∧
        inWindow meteredWorker.window 0 (s.times ⟨"erp", 2⟩) = 2 := by
  have hread : ∀ s, serve meteredWorker s rpcRead = s.execute ⟨"erp", 2⟩ 1 := by
    intro s
    unfold serve
    rw [rpcRead_proxied]
    rfl
  refine ⟨_, ⟨rfl, rfl, rfl, rfl, rfl⟩, .cons ⟨by decide, rfl⟩ (.cons ⟨?_, rfl⟩ (.nil _)), rfl, by decide, ?_⟩
  · rw [hread]
    decide
  · rw [hread, hread]
    decide

/-- A batch of two operations. -/
def batchRequest : Dict :=
  [("jsonrpc", .str "2.0"), ("method", .str "tools/call"), ("params", .dict [("name", .str "pipeline"),
    ("arguments", .dict [("operations", .list [.dict [("tool", .str "drop")], .dict [("tool", .str "drop")]])])])]

/-- It takes one slot, and can execute both. -/
example : (serve meteredWorker { idle with now := 1 } (.mcp 2 "203.0.113.7" batchRequest 2)).times ⟨"erp", 2⟩ =
      [1, 1] ∧
    (serve meteredWorker { idle with now := 1 } (.mcp 2 "203.0.113.7" batchRequest 2)).throttle ⟨"erp", 2⟩ = [1] := by
  decide

end AdvMcp.Server
