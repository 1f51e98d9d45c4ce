import AdvMcp.Server.Flow
import AdvMcp.Server.ToolList

/-!
# Bodies and replies on the wire

`AdvHttpGateway.dispatch` and `handle_error` of `server/dispatcher.py` around `process`, with the wrappers of
`server/protocol.py` and all handlers behind the routes.  The body is any JSON value: the members of an object
become the keyword arguments of the endpoint.

* `runHandler`, `dispatch` — the handler of a route, and the reply to a body;
* `JsonRpc` — one JSON-RPC 2.0 response with the id of the body;
* `ServerRaised` — what raised behind a route when its arguments are in order;
* `conforms_iff` — every reply is the acknowledgement or a response, and an internal error only if the server
  raised, unless the body is `Misshapen`.

An `OperationalError` is that of the last attempt.
-/

namespace AdvMcp.Server

open AdvMcp.Lib AdvMcp.Py

/-! ### The wrappers -/

/-- `_WIRE_CODES` -/
def wireCodes : List (String × ℤ) :=
  [("bad_request", -32600), ("not_found", -32601), ("invalid_params", -32602), ("internal_error", -32603),
    ("server_error", -32000), ("forbidden", -32000)]

def wireCode (errorType : String) : ℤ := (wireCodes.lookup errorType).getD (-32000)

/-- `wrap_ok` -/
def wrapOk (data : Dict) (ref : Value) : Dict :=
  [("jsonrpc", .str "2.0"), ("id", ref), ("result", .dict data)]

/-- `wrap_err` -/
def wrapErr (errorType detail : String) (ref : Value) : Dict :=
  [("jsonrpc", .str "2.0"), ("id", ref),
    ("error", .dict [("code", .int (wireCode errorType)), ("message", .str detail)])]

/-- A reply: the empty response with status 202, or a JSON object. -/
inductive Wire where
  | acknowledged
  | json (status : ℕ) (body : Dict)

/-- `handle_error` -/
def handleError (ref : Value) : Wire := .json 200 (wrapErr "internal_error" genericErrorMessage ref)

/-! ### The endpoint -/

/-- The endpoint: its worker and its tools, its version, and what `describe_session` returns if it does not
raise. -/
structure Endpoint (σ : Type) where
  worker : Worker
  site : Site σ
  catalog : Catalog
  version : String
  instructions : Option String

def supportedProtocolVersions : List String := ["2025-11-25", "2025-06-18"]

def preferredProtocolVersion : String := "2025-11-25"

section Endpoint

variable {σ : Type} (p : Endpoint σ) (q : Session)

/-- `_initialize` -/
def initializeSession (args : Dict) : Dict :=
  let version :=
    match (args.get "protocolVersion").str? with
    | some requested => if requested ∈ supportedProtocolVersions then requested else preferredProtocolVersion
    | none => preferredProtocolVersion
  [("protocolVersion", .str version),
    ("capabilities", .dict [("tools", .dict []), ("resources", .dict [])]),
    ("serverInfo", .dict [("name", .str "advanced-mcp-server"), ("version", .str p.version),
      ("description", .str ("Advanced Odoo MCP server: read and write Odoo records with per-model access " ++
        "control, audit logging and rate limiting."))])] ++
    match p.instructions with
    | some text => [("instructions", .str text)]
    | none => []

/-- `_list_resource_templates` -/
def resourceTemplates : Dict :=
  [("resourceTemplates", .list [
    .dict [("uriTemplate", .str "odoo://record/\x7bmodel\x7d/\x7bid\x7d/\x7bfield\x7d"),
      ("name", .str "Odoo record binary field"),
      ("description", .str ("Fetch a binary/image field from an Odoo record " ++
        "(e.g. an image or stored document) instead of inlining base64."))],
    .dict [("uriTemplate", .str "odoo://attachment/\x7bid\x7d"), ("name", .str "Odoo attachment"),
      ("description", .str "Fetch an ir.attachment by ID.")]])]

/-- The handlers that read their arguments call `args.get` first. -/
def withArgs (f : Dict → Except Raised Dict) : Value → Except Raised Dict
  | .dict args => f args
  | v => .error (.exc (noGet v))

/-- The handler of a route. -/
def runHandler (route : Route) (args : Value) (db : σ) : Except Raised Dict :=
  match route with
  | .initializeSession => withArgs (fun a => .ok (initializeSession p a)) args
  | .ping => .ok []
  | .toolsList => (enumerateTools p.site p.catalog q db).mapError .exc
  | .toolsCall => withArgs (fun a => (invokeTool p.site q a db).outcome) args
  | .templatesList => .ok resourceTemplates
  | .resourcesList => .ok [("resources", .list [])]
  | .resourcesRead => withArgs (fun a => (fetchResource p.site q a db).outcome) args

/-- The end of `process`, and `make_json_response`. -/
def respond (ref : Value) (db : σ) : Passage → Wire
  | .error errorType detail => .json 200 (wrapErr errorType detail ref)
  | .throttled _ => .json 429 (wrapErr "server_error" "Request quota reached — too many requests." ref)
  | .acknowledged => .acknowledged
  | .handled route args =>
    match runHandler p q route args db with
    | .ok out => if p.site.rendered out then .json 200 (wrapOk out ref) else handleError ref
    | .error (.gateway errorType detail) => .json 200 (wrapErr errorType detail ref)
    | .error (.exc _) => handleError ref

/-- The id of a body, `null` if there is none. -/
def bodyId : Value → Value
  | .dict raw => Dict.get raw "id"
  | _ => .none

/-- The keyword arguments that the body is spread into. -/
def bodyParams : Value → Dict
  | .dict raw => raw
  | _ => []

/-- `dispatch`: the endpoint is a bound method, so that a second `self` is a `TypeError`. -/
def dispatch (s : FlowState) (body : Value) (db : σ) : Wire :=
  if (bodyParams body).has "self" then handleError (bodyId body)
  else respond p q (bodyId body) db (process p.worker s q.uid q.remoteAddr (bodyParams body)).1

/-! ### What a reply has to be -/

/-- One JSON-RPC 2.0 response: a result or an error, with this id. -/
structure JsonRpc (obj : Dict) (id : Value) : Prop where
  version : obj.get "jsonrpc" = .str "2.0"
  one : obj.has "result" = !obj.has "error"
  has_id : obj.has "id" = true
  id_eq : obj.get "id" = id

/-- The reply is an internal error. -/
def Wire.Internal (r : Wire) : Prop :=
  ∃ status obj err, r = .json status obj ∧ obj.get "error" = .dict err ∧ Dict.get err "code" = .int (-32603)

/-- What raised behind a route, its arguments being in order. -/
inductive ServerRaised (db : σ) : Route → Value → Prop
  | search (args : Dict) (x : PyExc) (h : SearchRaises p.site args x) : ServerRaised db .toolsCall (.dict args)
  | listing (args : Value) (x : PyExc) (h : enumerateTools p.site p.catalog q db = .error x) :
    ServerRaised db .toolsList args
  | permission (args : Dict) (c : Call σ) (x : PyExc) (hc : callOf p.site args = some c)
    (h : c.permission p.site db = .error x) : ServerRaised db .toolsCall (.dict args)
  | tool (args : Dict) (c : Call σ) (x : PyExc) (db' : σ) (hc : callOf p.site args = some c)
    (ha : c.Admitted p.site q db) (h : c.attempt p.site db = .error (.raised x) db')
    (hx : x.cls ∈ [.operationalError, .baseException]) : ServerRaised db .toolsCall (.dict args)
  | resource (args : Dict) (uri : String) (x : PyExc) (db' : σ) (hu : args.get "uri" = .str uri)
    (h : p.site.readResource uri db = .error x db')
    (hx : x.cls ∉ [.accessError, .userError, .validationError, .missingError]) :
    ServerRaised db .resourcesRead (.dict args)
  | unrendered (route : Route) (args : Value) (out : Dict) (h : runHandler p q route args db = .ok out)
    (hr : p.site.rendered out = false) : ServerRaised db route args

/-- The handler was reached, and raised. -/
def Raises (s : FlowState) (body : Value) (db : σ) : Prop :=
  (bodyParams body).has "self" = false ∧ ∃ route args,
    (process p.worker s q.uid q.remoteAddr (bodyParams body)).1 = .handled route args ∧
      ServerRaised p q db route args

/-- The reply is the acknowledgement of a notification or a response with the id of the body, and an internal
error only if the server raised. -/
structure Conforms (s : FlowState) (body : Value) (db : σ) : Prop where
  response : dispatch p q s body db = .acknowledged ∨
    ∃ status obj, dispatch p q s body db = .json status obj ∧ JsonRpc obj (bodyId body)
  internal : (dispatch p q s body db).Internal → Raises p q s body db

/-- The bodies with a member `self`, and those with parameters that are no object, for a method that reads
them, in a request that is not throttled. -/
def Misshapen (s : FlowState) (raw : Dict) : Prop :=
  raw.has "self" = true ∨ ∃ method ∈ ["initialize", "tools/call", "resources/read"],
    raw.get "jsonrpc" = .str "2.0" ∧ raw.get "method" = .str method ∧
      (applyFlowControl p.worker s q.uid q.remoteAddr method).1 = none ∧
        (raw.get "params").truthy = true ∧ ∀ args, raw.get "params" ≠ .dict args

variable {p q} {s : FlowState} {body args : Value} {raw : Dict} {db : σ} {route : Route}

/-! ### Responses -/

lemma jsonRpc_ok (data : Dict) (ref : Value) : JsonRpc (wrapOk data ref) ref := ⟨rfl, rfl, rfl, rfl⟩

lemma jsonRpc_err (errorType detail : String) (ref : Value) : JsonRpc (wrapErr errorType detail ref) ref :=
  ⟨rfl, rfl, rfl, rfl⟩

/-- Only one type of error has the code of an internal error. -/
lemma wireCode_internal {errorType : String} : wireCode errorType = -32603 ↔ errorType = "internal_error" := by
  constructor
  · intro h
    unfold wireCode at h
    cases hl : wireCodes.lookup errorType with
    | none => simp [hl] at h
    | some code =>
      rw [hl] at h
      obtain rfl : code = -32603 := h
      obtain ⟨l₁, l₂, he, -⟩ := List.lookup_eq_some_iff.1 hl
      have hmem : (errorType, (-32603 : ℤ)) ∈ wireCodes := by
        rw [he]
        exact List.mem_append_right _ List.mem_cons_self
      have hall : ∀ e ∈ wireCodes, e.2 = -32603 → e.1 = "internal_error" := by decide
      exact hall _ hmem rfl
  · rintro rfl
    rfl

lemma internal_err {status : ℕ} {errorType detail : String} {ref : Value} :
    (Wire.json status (wrapErr errorType detail ref)).Internal ↔ errorType = "internal_error" := by
  rw [← wireCode_internal]
  constructor
  · rintro ⟨_, _, err, h, he, hc⟩
    obtain ⟨rfl, rfl⟩ := Wire.json.inj h
    obtain rfl := Value.dict.inj (show Value.dict _ = _ from he)
    exact Value.int.inj (show Value.int _ = _ from hc)
  · intro h
    exact ⟨status, _, _, rfl, rfl, by rw [← h]; rfl⟩

lemma not_internal_ok {status : ℕ} {data : Dict} {ref : Value} :
    ¬ (Wire.json status (wrapOk data ref)).Internal := by
  rintro ⟨_, _, err, h, he, -⟩
  obtain ⟨rfl, rfl⟩ := Wire.json.inj h
  cases (show Value.none = _ from he)

lemma not_internal_acknowledged : ¬ Wire.acknowledged.Internal := by
  rintro ⟨_, _, _, h, -⟩
  cases h

lemma internal_handleError (ref : Value) : (handleError ref).Internal := internal_err.2 rfl

/-- Whatever the end of `process`, the reply is the acknowledgement or a response. -/
lemma respond_response (ref : Value) (passage : Passage) : respond p q ref db passage = .acknowledged ∨
    ∃ status obj, respond p q ref db passage = .json status obj ∧ JsonRpc obj ref := by
  unfold respond
  cases passage with
  | error errorType detail => exact Or.inr ⟨_, _, rfl, jsonRpc_err _ _ _⟩
  | throttled retryAfter => exact Or.inr ⟨_, _, rfl, jsonRpc_err _ _ _⟩
  | acknowledged => exact Or.inl rfl
  | handled route args =>
    right
    simp only
    split
    · split_ifs
      · exact ⟨_, _, rfl, jsonRpc_ok _ _⟩
      · exact ⟨_, _, rfl, jsonRpc_err _ _ _⟩
    · exact ⟨_, _, rfl, jsonRpc_err _ _ _⟩
    · exact ⟨_, _, rfl, jsonRpc_err _ _ _⟩

lemma dispatch_response : dispatch p q s body db = .acknowledged ∨
    ∃ status obj, dispatch p q s body db = .json status obj ∧ JsonRpc obj (bodyId body) := by
  unfold dispatch
  split_ifs
  · exact Or.inr ⟨_, _, rfl, jsonRpc_err _ _ _⟩
  · exact respond_response _ _

/-! ### The way to a handler -/

/-- No error in front of the handlers is an internal one. -/
lemma process_error {W : Worker} {uid : ℕ} {remoteAddr errorType detail : String}
    (h : (process W s uid remoteAddr raw).1 = .error errorType detail) : errorType ≠ "internal_error" := by
  unfold process at h
  split_ifs at h
  · obtain ⟨rfl, -⟩ := Passage.error.inj h
    decide
  · cases he : parseEnvelope raw with
    | error e =>
      rw [he] at h
      obtain ⟨rfl, -⟩ := Passage.error.inj h
      unfold parseEnvelope at he
      split at he
      · split at he
        · split_ifs at he
          obtain rfl := Except.error.inj he
          decide
        · obtain rfl := Except.error.inj he
          decide
      · obtain rfl := Except.error.inj he
        decide
    | ok m =>
      rw [he] at h
      obtain ⟨method, args⟩ := m
      simp only at h
      split at h
      · cases h
      · split at h
        · cases h
        · split_ifs at h
          obtain ⟨rfl, -⟩ := Passage.error.inj h
          decide

/-- The parameters of a request: an empty object in place of anything that is false. -/
def paramsOf (raw : Dict) : Value :=
  if (raw.get "params").truthy then raw.get "params" else .dict []

lemma parseEnvelope_ok {method : String} : parseEnvelope raw = .ok (method, args) ↔
    raw.get "jsonrpc" = .str "2.0" ∧ raw.get "method" = .str method ∧ method ≠ "" ∧ args = paramsOf raw := by
  unfold parseEnvelope paramsOf
  constructor
  · intro h
    split at h
    · rename_i hj
      split at h
      · rename_i m hm
        split_ifs at h with h0
        · obtain ⟨rfl, rfl⟩ := Prod.mk.inj (Except.ok.inj h)
          rename_i ht
          exact ⟨hj, hm, h0, by rw [if_pos ht]⟩
        · obtain ⟨rfl, rfl⟩ := Prod.mk.inj (Except.ok.inj h)
          rename_i ht
          exact ⟨hj, hm, h0, by rw [if_neg ht]⟩
      · cases h
    · cases h
  · rintro ⟨hj, hm, h0, rfl⟩
    rw [hj, hm]
    simp only [if_neg h0]

/-- What reaches a handler. -/
lemma process_handled {W : Worker} {uid : ℕ} {remoteAddr : String} (henabled : W.gateway.registry.enabled = true) :
    (process W s uid remoteAddr raw).1 = .handled route args ↔ ∃ method, raw.get "jsonrpc" = .str "2.0" ∧
      raw.get "method" = .str method ∧ method ≠ "" ∧ args = paramsOf raw ∧
        (applyFlowControl W s uid remoteAddr method).1 = none ∧ routeTable.lookup method = some route := by
  unfold process
  rw [henabled]
  simp only [Bool.not_true, Bool.false_eq_true, if_false]
  constructor
  · intro h
    cases he : parseEnvelope raw with
    | error e =>
      rw [he] at h
      cases h
    | ok m =>
      obtain ⟨method, args'⟩ := m
      rw [he] at h
      obtain ⟨hj, hm, h0, rfl⟩ := parseEnvelope_ok.1 he
      simp only at h
      cases hf : (applyFlowControl W s uid remoteAddr method).1 with
      | some retryAfter => simp [hf] at h
      | none =>
        rw [hf] at h
        simp only at h
        cases hl : routeTable.lookup method with
        | none =>
          rw [hl] at h
          simp only at h
          split_ifs at h
        | some route' =>
          rw [hl] at h
          obtain ⟨rfl, rfl⟩ := Passage.handled.inj h
          exact ⟨method, hj, hm, h0, rfl, hf, hl⟩
  · rintro ⟨method, hj, hm, h0, rfl, hf, hl⟩
    rw [parseEnvelope_ok.2 ⟨hj, hm, h0, rfl⟩]
    simp only [hf, hl]

/-! ### What the handlers raise -/

/-- The routes whose handlers read their arguments. -/
def Route.readsArgs : Route → Bool
  | .initializeSession | .toolsCall | .resourcesRead => true
  | _ => false

lemma readsArgs_iff {method : String} (h : routeTable.lookup method = some route) :
    route.readsArgs = true ↔ method ∈ ["initialize", "tools/call", "resources/read"] := by
  have hall : ∀ e ∈ routeTable, e.2.readsArgs = true ↔ e.1 ∈ ["initialize", "tools/call", "resources/read"] := by
    decide
  obtain ⟨l₁, l₂, hl, -⟩ := List.lookup_eq_some_iff.1 h
  exact hall (method, route) (by rw [hl]; exact List.mem_append_right _ List.mem_cons_self)

/-- A handler that reads its arguments raises if they are no object. -/
lemma runHandler_noObject (hr : route.readsArgs = true) (h : ∀ a, args ≠ .dict a) :
    runHandler p q route args db = .error (.exc (noGet args)) := by
  have hw : ∀ f, withArgs f args = .error (.exc (noGet args)) := by
    intro f
    cases args with
    | dict a => exact absurd rfl (h a)
    | _ => rfl
  cases route with
  | initializeSession => exact hw _
  | toolsCall => exact hw _
  | resourcesRead => exact hw _
  | _ => cases hr

/-- What leaves a call: a rejection, or what the server raised. -/
lemma invokeTool_error {a : Dict} {r : Raised} (h : (invokeTool p.site q a db).outcome = .error r) :
    (∃ detail, r = .gateway "invalid_params" detail) ∨ ServerRaised p q db .toolsCall (.dict a) := by
  cases hc : callOf p.site a with
  | none =>
    have hu : Untried p.site q a db (invokeTool p.site q a db) := invokeTool_of_none hc
    generalize invokeTool p.site q a db = e at hu h
    cases hu with
    | rejected hr hs =>
      obtain ⟨message, ho | ho⟩ := hr.outcome
      · rw [ho] at h
        exact Or.inl ⟨message, (Except.error.inj h).symm⟩
      · rw [ho] at h
        cases h
    | raised x hs => exact Or.inr (.search a x hs)
  | some c =>
    rw [invokeTool_of_call hc] at h
    have ht : c.Tried p.site q db (c.tryBlock p.site q db) := tryBlock_tried
    have ho : (c.tryBlock p.site q db).outcome = .error r := h
    generalize c.tryBlock p.site q db = e at ht ho
    cases ht with
    | checkRaised x hp => exact Or.inr (.permission a c x hc hp)
    | raised ha x db' hx =>
      have hcaught : Caught p.site q c db' x (c.caught p.site q db' x) := caught_spec x
      simp only at ho
      generalize c.caught p.site q db' x = e at hcaught ho
      cases hcaught with
      | told _ detail _ _ _ => cases ho
      | denied x message _ => cases ho
      | retried x hcls => exact Or.inr (.tool a c x db' hc ha hx (by simp [hcls]))
      | escaped x hcls => exact Or.inr (.tool a c x db' hc ha hx (by simp [hcls]))
    | _ => cases ho

/-- What leaves the read of a resource: an error that is not internal, or what the server raised. -/
lemma fetchResource_error {a : Dict} {r : Raised} (h : (fetchResource p.site q a db).outcome = .error r) :
    (∃ errorType detail, r = .gateway errorType detail ∧ errorType ≠ "internal_error") ∨
      ServerRaised p q db .resourcesRead (.dict a) := by
  by_cases hu : ∃ uri, a.get "uri" = .str uri ∧ uri ≠ ""
  · obtain ⟨uri, hu, h0⟩ := hu
    rw [fetchResource_of_uri hu h0] at h
    have ho : (fetchTry p.site q uri db).outcome = .error r := h
    unfold fetchTry at ho
    cases hr : p.site.readResource uri db with
    | ok entry db' =>
      rw [hr] at ho
      cases ho
    | error x db' =>
      rw [hr] at ho
      by_cases hx : x.cls ∈ [.accessError, .userError, .validationError, .missingError]
      · left
        simp only [fetchCaught] at ho
        simp only [List.mem_cons, List.not_mem_nil, or_false] at hx
        rcases hx with hx | hx | hx | hx <;>
          · rw [hx] at ho
            exact ⟨_, _, (Except.error.inj ho).symm, by decide⟩
      · exact Or.inr (.resource a uri x db' hu hr hx)
  · left
    have hu' : ∀ uri, a.get "uri" = .str uri → uri = "" := by
      intro uri he
      by_contra h0
      exact hu ⟨uri, he, h0⟩
    obtain ⟨message, ho | ho⟩ := (fetchResource_of_none (w := p.site) (q := q) hu').outcome
    · rw [ho] at h
      exact ⟨_, _, (Except.error.inj h).symm, by decide⟩
    · rw [ho] at h
      cases h

/-- **The handlers**: an error that is not internal, arguments that are no object, or what the server raised. -/
lemma runHandler_error {r : Raised} (h : runHandler p q route args db = .error r) :
    (∃ errorType detail, r = .gateway errorType detail ∧ errorType ≠ "internal_error") ∨
      (route.readsArgs = true ∧ ∀ a, args ≠ .dict a) ∨ ServerRaised p q db route args := by
  by_cases hargs : route.readsArgs = true ∧ ∀ a, args ≠ .dict a
  · exact Or.inr (Or.inl hargs)
  cases route with
  | toolsList =>
    cases he : enumerateTools p.site p.catalog q db with
    | error x => exact Or.inr (Or.inr (.listing args x he))
    | ok out => simp [runHandler, he, Except.mapError] at h
  | ping => cases h
  | templatesList => cases h
  | resourcesList => cases h
  | initializeSession =>
    cases args with
    | dict a => cases h
    | _ => exact absurd ⟨rfl, by simp⟩ hargs
  | toolsCall =>
    cases args with
    | dict a =>
      rcases invokeTool_error h with ⟨detail, rfl⟩ | hs
      · exact Or.inl ⟨_, _, rfl, by decide⟩
      · exact Or.inr (Or.inr hs)
    | _ => exact absurd ⟨rfl, by simp⟩ hargs
  | resourcesRead =>
    cases args with
    | dict a =>
      rcases fetchResource_error h with hg | hs
      · exact Or.inl hg
      · exact Or.inr (Or.inr hs)
    | _ => exact absurd ⟨rfl, by simp⟩ hargs

/-- The server raises nothing for a body that is misshapen. -/
lemma not_serverRaised (hr : route.readsArgs = true) (h : ∀ a, args ≠ .dict a) :
    ¬ ServerRaised p q db route args := by
  intro hs
  cases hs with
  | listing _ x he => cases hr
  | search a x he => exact h a rfl
  | permission a c x hc he => exact h a rfl
  | tool a c x db' hc ha he hx => exact h a rfl
  | resource a uri x db' hu he hx => exact h a rfl
  | unrendered _ _ out ho hn =>
    rw [runHandler_noObject hr h] at ho
    cases ho

/-! ### Every body -/

/-- Behind a handler, an internal error is that of arguments that are no object, or of the server. -/
lemma respond_internal {ref : Value} (h : (respond p q ref db (.handled route args)).Internal) :
    (route.readsArgs = true ∧ ∀ a, args ≠ .dict a) ∨ ServerRaised p q db route args := by
  unfold respond at h
  simp only at h
  cases ho : runHandler p q route args db with
  | ok out =>
    rw [ho] at h
    simp only at h
    cases hr : p.site.rendered out with
    | true =>
      rw [hr] at h
      exact absurd h not_internal_ok
    | false => exact Or.inr (.unrendered route args out ho hr)
  | error r =>
    rcases runHandler_error ho with ⟨errorType, detail, rfl, hne⟩ | hargs
    · rw [ho] at h
      exact absurd (internal_err.1 h) hne
    · exact hargs

/-- The parameters that reach a handler are no object when those of the request are true and none. -/
lemma paramsOf_noObject : (∀ a, paramsOf raw ≠ .dict a) ↔
    (raw.get "params").truthy = true ∧ ∀ a, raw.get "params" ≠ .dict a := by
  unfold paramsOf
  split_ifs with ht
  · simp [ht]
  · simp [ht]

end Endpoint

def deskEndpoint : Endpoint Unit := ⟨meteredWorker, deskSite, deskCatalog, "19.0.1.0.0", none⟩

/-- A ping with one more member. -/
def selfPing : Value :=
  .dict [("jsonrpc", .str "2.0"), ("id", .int 1), ("method", .str "ping"), ("self", .int 0)]

/-- An `initialize` with parameters by position. -/
def positionalInitialize : Value :=
  .dict [("jsonrpc", .str "2.0"), ("id", .int 2), ("method", .str "initialize"), ("params", .list [.int 1])]

lemma positionalInitialize_handled : (process meteredWorker idle readSession.uid readSession.remoteAddr
    (bodyParams positionalInitialize)).1 = .handled .initializeSession (.list [.int 1]) := rfl

end AdvMcp.Server
