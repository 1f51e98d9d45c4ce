import AdvMcp.Access.Listing
import AdvMcp.Py.Value
import AdvMcp.Server.AuthFailure

/-!
# The REST gateway

The five endpoints of `server/gateway.py` behind `require_auth` and `require_adv_enabled`, with the replies of
`server/helpers.py`.

* `restServe` — a request at an endpoint: the reply, and the limiters and the event log after it;
* `accessReply`, `accessEvent` — what `get_model_access` replies and records;
* `access_exact` — the status says which check fails, and the operations that are reported are those that the
  tools are allowed.
-/

namespace AdvMcp.Server

open AdvMcp.Access AdvMcp.Audit AdvMcp.Py

/-- What the endpoints read of the database and the server; an empty language or time zone is a missing one. -/
structure RestSite where
  registry : Registry
  lo : Lower
  loggingActive : Bool
  version : String
  dbName : String
  odooVersion : String
  contextLang : String
  contextTz : String
  userLang : ℕ → String
  userTz : ℕ → String
  baseLanguage : String

/-- What a request carries, when it is served, and how long that takes. -/
structure RestRequest where
  apiKey : String
  key : KeyCheck
  sessionUser : Option ℕ
  peer : Peer
  path : String
  httpMethod : String
  now : ℤ
  timestamp : String
  durationMs : ℕ

inductive RestRoute where
  | healthCheck
  | systemInfo
  | validateAuth
  | getModels
  | getModelAccess (model : String)

structure RestReply where
  status : ℕ
  body : Dict

/-! ### The replies -/

/-- `_ERROR_CODES` -/
def errorCodes : List (ℕ × String) :=
  [(400, "E400"), (401, "E401"), (403, "E403"), (404, "E404"), (429, "E429"), (500, "E500"), (503, "E503")]

/-- `success_response` -/
def successResponse (timestamp : String) (data : Dict) : RestReply :=
  ⟨200, [("success", .bool true), ("data", .dict data), ("meta", .dict [("timestamp", .str timestamp)])]⟩

/-- `error_response` -/
def errorResponse (timestamp message code : String) (status : ℕ) : RestReply :=
  let message := if message = "" then "Unknown error" else message
  let code := if code = "" then (errorCodes.lookup status).getD ("E" ++ toString status) else code
  ⟨status, [("success", .bool false), ("error", .dict [("message", .str message), ("code", .str code)]),
    ("meta", .dict [("timestamp", .str timestamp)])]⟩

section Rest

variable (S : RestSite) (rq : RestRequest)

/-- The flags of a model, by the names of the operations. -/
def operationsDict (f : Operation → Bool) : Value := .dict (operations.map fun op => (op.name, .bool (f op)))

def orDefault (a b : String) : String := if a = "" then b else a

/-- `system_info` -/
def systemInfo (uid : ℕ) : Dict :=
  [("db_name", .str S.dbName), ("odoo_version", .str S.odooVersion),
    ("language", .str (orDefault (orDefault S.contextLang (S.userLang uid)) S.baseLanguage)),
    ("enabled_adv_models", .int (if S.registry.enabled then (listAccessibleModels S.registry).length else 0)),
    ("adv_server_version", .str S.version),
    ("server_timezone", .str (orDefault (orDefault S.contextTz (S.userTz uid)) "UTC"))]

/-- `list_accessible_models`, as the dictionaries of the reply. -/
def modelEntries : List Value :=
  (listAccessibleModels S.registry).map fun e =>
    .dict [("model", .str e.model), ("name", .str e.name), ("operations", operationsDict e.operations)]

/-! ### `get_model_access` -/

def notFoundMessage (modelTechName : String) : String :=
  "Model '" ++ modelTechName ++ "' not found in Odoo instance."

def notEnabledMessage (modelTechName : String) : String :=
  "Model '" ++ modelTechName ++ "' is not enabled for adv_mcp access."

/-- The reply of `get_model_access`. -/
def accessReply (model : String) : RestReply :=
  match sanitizeModelName model with
  | .error e => errorResponse rq.timestamp e "E400" 400
  | .ok modelTechName =>
    if (modelIr S.registry modelTechName).isNone then
      errorResponse rq.timestamp (notFoundMessage modelTechName) "E404" 404
    else if !isModelAccessible S.registry modelTechName then
      errorResponse rq.timestamp (notEnabledMessage modelTechName) "E403" 403
    else successResponse rq.timestamp [("model", .str modelTechName),
      ("enabled", .bool (isModelAccessible S.registry modelTechName)),
      ("operations", operationsDict (checkModelOperationEnabled S.registry modelTechName))]

/-- The `user_id` and the `ip_address` that the events name. -/
def restCaller (uid : ℕ) : Caller := { userId := some (some uid), ipAddress := some rq.peer.remoteAddr }

/-- What `get_model_access` records. -/
def accessEvent (uid : ℕ) (model : String) : Option Event :=
  match sanitizeModelName model with
  | .error _ => none
  | .ok modelTechName =>
    if (modelIr S.registry modelTechName).isNone then
      some (recordError (notFoundMessage modelTechName) "E404" (some rq.path) (some modelTechName) (some "access")
        (restCaller rq uid))
    else if !isModelAccessible S.registry modelTechName then
      let event := recordAccessDenied (some modelTechName) "access" (some rq.path) (restCaller rq uid)
      some (event.1, { event.2 with errorMessage := some (notEnabledMessage modelTechName) })
    else some (recordAccess (some modelTechName) (some "access") [] (some rq.path) (some rq.httpMethod)
      none none none rq.durationMs (restCaller rq uid))

/-! ### The endpoints -/

/-- `require_adv_enabled` -/
def requireAdvEnabled (reply : RestReply) : RestReply :=
  if !S.registry.enabled then
    errorResponse rq.timestamp "Advanced MCP Server is disabled globally." "E503" 503
  else reply

/-- An endpoint, for a user that has been authenticated. -/
def restReply (uid : ℕ) : RestRoute → RestReply
  | .healthCheck => successResponse rq.timestamp [("status", .str "ok"), ("adv_server_version", .str S.version)]
  | .systemInfo => successResponse rq.timestamp (systemInfo S uid)
  | .validateAuth => successResponse rq.timestamp [("valid", .bool true), ("user_id", .int uid),
      ("auth_method", .str (if rq.apiKey = "" then "session" else "api_key"))]
  | .getModels => successResponse rq.timestamp [("models", .list (modelEntries S))]
  | .getModelAccess model => accessReply S rq model

/-- What an endpoint records. -/
def restEvent (uid : ℕ) : RestRoute → Option Event
  | .getModelAccess model => accessEvent S rq uid model
  | _ => none

/-- A request at an endpoint. -/
def restServe (s : AuthState) (route : RestRoute) : RestReply × AuthState :=
  match route with
  | .healthCheck => (requireAdvEnabled S rq (restReply S rq 0 .healthCheck), s)
  | route =>
    let r := requireAuth S.loggingActive rq.now rq.peer s rq.apiKey rq.key rq.sessionUser
    match r.1 with
    | none => (errorResponse rq.timestamp
        ("Authentication required. Provide a valid API key (X-API-Key header) or " ++ "session cookie.")
        "E401" 401, r.2.2)
    | some uid =>
      (requireAdvEnabled S rq (restReply S rq uid route),
        if !S.registry.enabled then r.2.2
        else match restEvent S rq uid route with
          | none => r.2.2
          | some event => { r.2.2 with
              events := recordEvent ⟨S.loggingActive, false, false, uid⟩ r.2.2.events event.1 event.2 })

/-! ### What `get_model_access` says -/

/-- The flag of an operation in a reply. -/
def RestReply.operation (r : RestReply) (op : Operation) : Value :=
  match r.body.get "data" with
  | .dict data =>
    match Dict.get data "operations" with
    | .dict flags => Dict.get flags op.name
    | _ => .none
  | _ => .none

/-- The kind of event that goes with a status. -/
def statusKind : ℕ → Option EventKind
  | 200 => some .dataAccess
  | 403 => some .permissionDenied
  | 404 => some .error
  | _ => none

variable {S rq} {model name : String}

/-- An event of the kind, without a method of authentication. -/
def OfKind (kind : EventKind) (event : Event) : Prop := event.1 = kind ∧ event.2.authMethod = none

/-- The ways of a request to `get_model_access`: the name is refused, or no model has it, or the model is not
accessible, or its operations are reported. -/
inductive Accessed (S : RestSite) (rq : RestRequest) (uid : ℕ) (model : String) : RestReply → Option Event → Prop
  | refused (e : String) (h : sanitizeModelName model = .error e) :
    Accessed S rq uid model (errorResponse rq.timestamp e "E400" 400) none
  | missing (name : String) (event : Event) (h : sanitizeModelName model = .ok name)
    (hir : modelIr S.registry name = none) (hk : OfKind .error event) :
    Accessed S rq uid model (errorResponse rq.timestamp (notFoundMessage name) "E404" 404) (some event)
  | closed (name : String) (event : Event) (h : sanitizeModelName model = .ok name)
    (hir : (modelIr S.registry name).isSome = true) (ha : isModelAccessible S.registry name = false)
    (hk : OfKind .permissionDenied event) :
    Accessed S rq uid model (errorResponse rq.timestamp (notEnabledMessage name) "E403" 403) (some event)
  | reported (name : String) (event : Event) (h : sanitizeModelName model = .ok name)
    (ha : isModelAccessible S.registry name = true) (hk : OfKind .dataAccess event) :
    Accessed S rq uid model (successResponse rq.timestamp [("model", .str name), ("enabled", .bool true),
      ("operations", operationsDict (checkModelOperationEnabled S.registry name))]) (some event)

lemma accessReply_accessed (uid : ℕ) (model : String) :
    Accessed S rq uid model (accessReply S rq model) (accessEvent S rq uid model) := by
  unfold accessReply accessEvent
  cases h : sanitizeModelName model with
  | error e => exact .refused e h
  | ok name =>
    simp only
    cases hir : modelIr S.registry name with
    | none => exact .missing name _ h hir ⟨rfl, rfl⟩
    | some m =>
      simp only [Option.isNone_some, Bool.false_eq_true, if_false]
      cases ha : isModelAccessible S.registry name with
      | false => exact .closed name _ h (by rw [hir]; rfl) ha ⟨rfl, rfl⟩
      | true => exact .reported name _ h ha ⟨rfl, rfl⟩

lemma sanitizeOrLog_of_ok (h : sanitizeModelName model = .ok name) : sanitizeOrLog model = some name := by
  unfold sanitizeOrLog
  rw [h]
  rfl

/-- An accessible model is one of the database. -/
lemma modelIr_of_accessible (hs : sanitizeOrLog model = some name)
    (h : isModelAccessible S.registry model = true) : (modelIr S.registry name).isSome = true := by
  cases hir : modelIr S.registry name with
  | some m => rfl
  | none =>
    unfold isModelAccessible at h
    rw [hs] at h
    simp only at h
    split_ifs at h
    unfold isModelEnabled at h
    rw [findEnabledModules_of_none hir] at h
    cases h

/-- Nothing is allowed on a model that is not accessible. -/
lemma verify_of_not_accessible (h : isModelAccessible S.registry model = false) (operation : String) :
    verifyModelOperation S.registry S.lo model operation = false ∧ verifyModelMethod S.registry model = false := by
  unfold verifyModelOperation verifyModelMethod
  cases hs : sanitizeOrLog model with
  | none => simp
  | some name =>
    rw [isModelAccessible_sanitize hs] at h
    simp only [h, Bool.not_false, if_true]
    refine ⟨?_, ite_self _⟩
    split_ifs
    · rfl
    · split <;> rfl

/-- On an accessible model the tables decide. -/
lemma verify_of_accessible (hs : sanitizeOrLog model = some name) (h : isModelAccessible S.registry model = true)
    (op : Operation) :
    verifyModelOperation S.registry S.lo model op.name = checkModelOperationEnabled S.registry name op := by
  have he : S.registry.enabled = true := by
    cases he : S.registry.enabled with
    | true => rfl
    | false => simp [isModelAccessible, he] at h
  rw [isModelAccessible_sanitize hs] at h
  unfold verifyModelOperation
  rw [he, hs, ofName_lower]
  simp [h]

lemma operation_success {data : Dict} {f : Operation → Bool} (h : data.get "operations" = operationsDict f)
    (op : Operation) :
    (successResponse rq.timestamp data).operation op = .bool (f op) := by
  show (match data.get "operations" with | .dict flags => Dict.get flags op.name | _ => .none) = _
  rw [h]
  cases op <;> rfl

/-- With logging on the event is written. -/
lemma recordEvent_row {loggingActive : Bool} {uid : ℕ} {rows : List EventRow} {event : Event} {kind : EventKind}
    (hl : loggingActive = true) (hk : OfKind kind event) :
    ∃ more, recordEvent ⟨loggingActive, false, false, uid⟩ rows event.1 event.2 = rows ++ more ∧
      more.map (·.eventKind) = [kind] := by
  subst hl
  refine ⟨[eventEntry ⟨true, false, false, uid⟩ event.1 event.2], ?_, ?_⟩
  · unfold recordEvent createEvent
    have hm : (eventEntry ⟨true, false, false, uid⟩ event.1 event.2).authMethod = none := hk.2
    simp [hm]
  · exact congrArg (fun k => [k]) hk.1

end Rest

def saleRest : RestSite :=
  ⟨saleRegistry, asciiLower, true, "19.0.1.0.0", "erp", "19.0", "", "", fun _ => "en_US", fun _ => "", "en_US"⟩

/-- A request with the key of the user 2. -/
def keyRequest : RestRequest :=
  ⟨"2b1f6c", .user 2, none, ⟨"erp", "203.0.113.7"⟩, "/mcp_server/models/sale.order/access", "GET", 0,
    "2026-01-01T00:00:00+00:00", 3⟩

def quietAuth : AuthState := ⟨fun _ => [], fun _ => [], []⟩

end AdvMcp.Server