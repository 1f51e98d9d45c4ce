import Mathlib.Data.Int.Notation
import AdvMcp.Audit.Event
import AdvMcp.Lib.Savepoint
import AdvMcp.OAuth.Scope
import AdvMcp.Py.Value
import AdvMcp.Server.Sanitizer

/-!
# The gateway handler: `tools/call` and `resources/read`

`AdvMCPHandler._invoke_tool` and `_fetch_resource` of `server/handler.py`, with the custom tools of
`models/custom_tool.py`, over a database of any type `σ`.

* What a tool does, what the ORM answers to a permission check, and how a resource is read are given
  with the site: computations that return or raise, and change the database on the way.
* A handler method ends in `Handled`: what it returned or raised, the database after it, the events
  that it emitted (before the limiter and the switch of the log), and which tools it ran.
* The flags that the `finally` blocks read are the fields of `TryEnd`.
-/

namespace AdvMcp.Server

open AdvMcp.Audit AdvMcp.Lib AdvMcp.OAuth AdvMcp.Py

/-! ### The site and the session -/

/-- What the handler reads of a tool's metadata. -/
structure ToolMeta where
  operation : Option String
  inputSchema : Dict
  annotations : Dict

/-- A builtin tool: its metadata and its bound method. -/
structure Builtin (σ : Type) where
  info : ToolMeta
  bound : Dict → EStateM PyExc σ Value

/-- What the ORM answers about the server action of a custom tool, and the `result` that it leaves. -/
structure ServerAction (σ : Type) where
  groupIds : σ → Except PyExc (List ℕ)
  modelName : σ → Except PyExc String
  state : σ → Except PyExc String
  run : Dict → EStateM PyExc σ Value

/-- `adv.custom.tool` -/
structure CustomTool (σ : Type) where
  name : String
  active : Bool
  isReadonly : Bool
  inputSchema : String
  action : ServerAction σ

/-- What the search for a custom tool raises because of the name that it is given: a text that the
database driver cannot pass on.  A plain name is searched. -/
structure NameSearch where
  raises : String → Option PyExc
  plain : ∀ name, (∀ ch ∈ name.toList, ch ≠ '\x00' ∧ ch.toNat < 128) → raises name = none

/-- The driver refuses U+0000. -/
def nulRefused : NameSearch where
  raises name :=
    if name.toList.contains '\x00' then
      some (.of .valueError "A string literal cannot contain NUL (0x00) characters.")
    else none
  plain name h := by
    rw [if_neg]
    rw [List.contains_iff_mem]
    exact fun hm => (h _ hm).1 rfl

/-- The tools and the database access of a site, Python's JSON and `repr`, and the substitutions of
the sanitizer. -/
structure Site (σ : Type) where
  index : List (String × Builtin σ)
  customTools : List (CustomTool σ)
  search : NameSearch := nulRefused
  models : List String
  allGroupIds : σ → Except PyExc (List ℕ)
  hasWriteAccess : String → σ → Except PyExc Bool
  readResource : String → EStateM PyExc σ Dict
  loads : String → Option Value
  dumps : Value → EStateM PyExc σ String
  dictOf : Value → EStateM PyExc σ Dict
  rendered : Dict → Bool
  repr : Value → String
  scrub : String → String

/-- What the request carries, and how long the call took. -/
structure Session where
  uid : ℕ
  remoteAddr : String
  oauthScope : Option String
  authMethod : Option String
  oauthClientId : Option ℕ
  userAgent : Option String
  mcpSessionId : Option String
  durationMs : ℕ

inductive Tool (σ : Type) where
  | builtin (b : Builtin σ)
  | custom (t : CustomTool σ)

/-- What leaves a handler method. -/
inductive Raised where
  | exc (e : PyExc)
  | gateway (errorType detail : String)

/-- The end of a handler method. -/
structure Handled (σ : Type) where
  outcome : Except Raised Dict
  db : σ
  events : List Event
  ran : List ToolMeta

section Handler

variable {σ : Type} (w : Site σ) (q : Session)

/-! ### Scope and events -/

/-- `_write_permitted` -/
def writePermitted : Bool :=
  match q.oauthScope with
  | none => true
  | some scope => scope = "" || grantsWrite scope

/-- `_requires_write_scope` -/
def requiresWriteScope (annotations : Dict) : Bool := !(annotations.get "readOnlyHint").isTrue

/-- The `user_id` and the `ip_address` of an event. -/
def caller : Caller := { userId := some (some q.uid), ipAddress := some q.remoteAddr }

/-- `_auth_context` -/
def authContext : Caller :=
  { caller q with
    authMethod := q.authMethod
    oauthClientId := q.oauthClientId
    oauthScope := q.oauthScope.filter (· ≠ "")
    userAgent := q.userAgent
    sessionId := q.mcpSessionId }

def endpoint : String := "/mcp_server"

/-- `_capability_error` -/
def capabilityError (text : String) : Dict :=
  [("content", .list [.dict [("type", .str "text"), ("text", .str text)]]), ("isError", .bool true)]

/-- `_emit_e400` -/
def emitE400 (toolName : Value) (message : String) : Event :=
  recordError message "E400" (some endpoint) none (some (toolName.pyStr w.repr)) (caller q)

/-- `_reject_call` -/
def rejectCall (toolName : Value) (message : String) (db : σ) : Handled σ :=
  ⟨.error (.gateway "invalid_params" message), db, [emitE400 w q toolName message], []⟩

/-- `_record_access_denied` -/
def accessDenied (operation : String) (modelName : Option String) : Event :=
  recordAccessDenied modelName operation (some endpoint) (authContext q)

/-- `_record_tool_call`: an error if there is a detail of one, and an access otherwise. -/
def recordToolCall (toolName : String) (modelName : Option String) (operation : String)
    (errorDetail : Option String) (recordIds : Option (List Value))
    (reqSummary respSummary : Option String) : Event :=
  match errorDetail.filter (· ≠ "") with
  | some detail => recordError detail "E500" (some endpoint) modelName (some operation) (caller q)
  | none =>
    recordAccess modelName (some operation) ((recordIds.getD []).map (·.pyStr w.repr))
      (some endpoint) (some "POST") (some toolName) reqSummary respSummary q.durationMs (authContext q)

/-! ### Custom tools -/

/-- `_user_can_run`; every read may raise. -/
def userCanRun (t : CustomTool σ) (db : σ) : Except PyExc Bool := do
  let groups ← t.action.groupIds db
  if !groups.isEmpty then
    let mine ← w.allGroupIds db
    return groups.any (· ∈ mine)
  let model ← t.action.modelName db
  if model = "" || model ∉ w.models then
    return false
  w.hasWriteAccess model db

/-- `_run_tool` -/
def runTool (t : CustomTool σ) (arguments : Dict) : EStateM PyExc σ Value := do
  let allowed ← peek (userCanRun w t)
  if !allowed then
    throw (.of .accessError ("You are not allowed to run the '" ++ t.name ++ "' tool."))
  let state ← peek t.action.state
  if state ≠ "code" then
    throw (.of .userError "This custom tool's server action is not a Python Code action.")
  t.action.run arguments

/-- `_parsed_input_schema` -/
def parsedInputSchema (t : CustomTool σ) : Option Dict :=
  match w.loads (if t.inputSchema = "" then "\x7b\x7d" else t.inputSchema) with
  | some (.dict schema) => some schema
  | _ => none

/-! ### The call -/

/-- `_resolve_custom_tool`: the search may raise. -/
def resolveCustomTool (name : String) : Except PyExc (Option (CustomTool σ)) :=
  match w.search.raises name with
  | some e => .error e
  | none => .ok (w.customTools.find? fun t => t.name = name && t.active)

/-- The tool of a name: the index first, then the custom tools. -/
def resolveTool (name : String) : Except PyExc (Option (Tool σ)) :=
  match w.index.lookup name with
  | some b => .ok (some (.builtin b))
  | none =>
    match resolveCustomTool w name with
    | .error e => .error e
    | .ok found => .ok (found.map .custom)

/-- The `meta` of a tool. -/
def toolMeta : Tool σ → ToolMeta
  | .builtin b => b.info
  | .custom t => ⟨none, (parsedInputSchema w t).getD [], [("readOnlyHint", .bool t.isReadonly)]⟩

/-- What `_invoke_tool` has made of its arguments before the `try`. -/
structure Call (σ : Type) where
  name : String
  tool : Tool σ
  incoming : Dict

/-- `args.get("arguments") or {}` -/
def incomingOf (args : Dict) : Value :=
  let v := args.get "arguments"
  if v.truthy then v else .dict []

def Call.modelName (c : Call σ) : Option String := (c.incoming.get "model").str?

def Call.operation (c : Call σ) : String :=
  let operation := ((toolMeta w c.tool).operation.filter (· ≠ "")).getD c.name
  if c.name = "call_model_method" then
    match (c.incoming.get "method").str? with
    | some rawMethod => if strip rawMethod ≠ "" then strip rawMethod else operation
    | none => operation
  else operation

/-- `_extract_ids` -/
def extractIds (incoming : Dict) : Option (List Value) :=
  let nonempty (key : String) : Option (List Value) :=
    match incoming.get key with
    | .list (x :: xs) => some (x :: xs)
    | _ => none
  match nonempty "record_ids" <|> nonempty "ids" with
  | some ids => some ids
  | none =>
    match incoming.get "record_id" with
    | .none => none
    | single => some [single]

/-- `", ".join(sorted(incoming))` -/
def Call.reqSummary (c : Call σ) : Option String :=
  if c.incoming.isEmpty then none
  else some (join ", " ((c.incoming.map (·.1)).mergeSort fun a b => decide (a ≤ b)))

/-- `_missing_args` -/
def missingArgs (schema incoming : Dict) : List String :=
  match schema.get "required" with
  | .list required => (required.filterMap Value.str?).filter fun k => !incoming.has k
  | _ => []

/-- `len(v)` -/
def pyLen : Value → Except PyExc ℕ
  | .list xs => .ok xs.length
  | .dict kvs => .ok kvs.length
  | .str s => .ok s.length
  | _ => .error (.of .typeError "object has no len()")

/-- `_build_resp_summary` -/
def buildRespSummary (name : String) (output : Dict) (recordIds : Option (List Value)) :
    Except PyExc (Option String) :=
  let fallback : Option String :=
    match recordIds with
    | none | some [] => none
    | some ids => some (toString ids.length ++ " record(s)")
  match output.get "structuredContent" with
  | .dict structured =>
    if name = "search_records" && Dict.has structured "total" then
      .ok (some ((Dict.get structured "total").pyStr w.repr ++ " records"))
    else if name = "aggregate_records" && Dict.has structured "groups" then do
      let n ← pyLen (Dict.get structured "groups")
      return some (toString n ++ " groups")
    else .ok fallback
  | _ => .ok fallback

/-- What leaves the inner `try`: an exception, or the `_CapabilityResultError` of another. -/
inductive BodyError where
  | raised (e : PyExc)
  | result (cause : PyExc)

/-- `except Exception as exc: raise _CapabilityResultError from exc` -/
def resultError (e : PyExc) : BodyError :=
  if e.cls = .baseException then .raised e else .result e

/-- The block under the savepoint. -/
def Call.body (c : Call σ) : EStateM BodyError σ Dict :=
  match c.tool with
  | .custom t => do
    let rawOut ← (runTool w t c.incoming).adaptExcept .raised
    let text ← (w.dumps (match rawOut with
      | .none => .str "The action completed successfully."
      | v => v)).adaptExcept .raised
    return [("content", .list [.dict [("type", .str "text"), ("text", .str text)]]),
      ("isError", .bool false)]
  | .builtin b => do
    let rawOut ← (b.bound c.incoming).adaptExcept .raised
    let output ← (w.dictOf rawOut).adaptExcept resultError
    return (output.setdefault "content" (.list [])).set "isError" (.bool false)

/-- The inner `try`: the block, and the summary of its result. -/
def Call.attempt (c : Call σ) : EStateM BodyError σ (Dict × Option String) := do
  let output ← savepoint (c.body w)
  let respSummary ← (peek fun _ => buildRespSummary w c.name output (extractIds c.incoming)).adaptExcept
    .raised
  return (output, respSummary)

/-- The outer `try` as it ends: what is returned or raised, the database, what was emitted and run, and
the flags. -/
structure TryEnd (σ : Type) where
  outcome : Except Raised Dict
  db : σ
  events : List Event := []
  ran : List ToolMeta := []
  errorDetail : Option String := none
  rejected : Bool := false
  concurrencyRetry : Bool := false
  respSummary : Option String := none

/-- The permission check at the head of the outer `try`: a builtin tool has none. -/
def Call.permission (c : Call σ) (db : σ) : Except PyExc Bool :=
  match c.tool with
  | .builtin _ => .ok true
  | .custom t => userCanRun w t db

/-- The `except` clauses of the inner `try`. -/
def Call.caught (c : Call σ) (db : σ) (x : BodyError) : TryEnd σ :=
  match x with
  | .result cause =>
    let detail := sanitizeException w.scrub cause
    { outcome := .ok (capabilityError detail), db, errorDetail := some detail }
  | .raised e =>
    match e.cls with
    | .valueError | .typeError =>
      let detail := sanitizeMessage w.scrub e.text
      { outcome := .ok (capabilityError detail), db, errorDetail := some detail }
    | .operationalError => { outcome := .error (.exc e), db, concurrencyRetry := true }
    | .accessError =>
      { outcome := .ok (capabilityError (sanitizeException w.scrub e)), db
        events := [accessDenied q (c.operation w) c.modelName], rejected := true }
    | .baseException => { outcome := .error (.exc e), db }
    | _ =>
      let detail := sanitizeException w.scrub e
      { outcome := .ok (capabilityError detail), db, errorDetail := some detail }

def deniedMessage (name : String) : String := "You are not allowed to run the '" ++ name ++ "' tool."

def readOnlyMessage (name : String) : String :=
  "This connection was authorized read-only (scope adv:read); the '" ++ name ++
    "' tool requires write access."

/-- The outer `try`. -/
def Call.tryBlock (c : Call σ) (db : σ) : TryEnd σ :=
  let refuse (message : String) (event : Event) : TryEnd σ :=
    { outcome := .ok (capabilityError message), db, events := [event], rejected := true }
  match c.permission w db with
  | .error e => { outcome := .error (.exc e), db }
  | .ok allowed =>
    if !allowed then refuse (deniedMessage c.name) (accessDenied q (c.operation w) c.modelName)
    else if requiresWriteScope (toolMeta w c.tool).annotations && !writePermitted q then
      refuse (readOnlyMessage c.name) (accessDenied q (c.operation w) c.modelName)
    else
      let missing := missingArgs (toolMeta w c.tool).inputSchema c.incoming
      if !missing.isEmpty then
        let message := "Missing required argument(s): " ++ join ", " missing
        refuse message (emitE400 w q (.str c.name) message)
      else
        match c.attempt w db with
        | .ok (output, respSummary) db' =>
          { outcome := .ok output, db := db', ran := [toolMeta w c.tool], respSummary }
        | .error x db' => { c.caught w q db' x with ran := [toolMeta w c.tool] }

/-- The `finally` block. -/
def Call.finish (c : Call σ) (a : TryEnd σ) : Handled σ :=
  let event := recordToolCall w q c.name c.modelName (c.operation w) a.errorDetail
    (extractIds c.incoming) c.reqSummary a.respSummary
  ⟨a.outcome, a.db,
    if !a.rejected && !a.concurrencyRetry then a.events ++ [event] else a.events, a.ran⟩

/-- `_invoke_tool` -/
def invokeTool (args : Dict) (db : σ) : Handled σ :=
  match args.get "name" with
  | .str name =>
    if name = "" then
      rejectCall w q (.str name) "Invalid params: 'name' must be a non-empty string." db
    else
      match resolveTool w name with
      -- the search is in front of the `try`
      | .error e => ⟨.error (.exc e), db, [], []⟩
      | .ok none => rejectCall w q (.str name) ("Unknown tool: " ++ name) db
      | .ok (some tool) =>
        match incomingOf args with
        | .dict incoming =>
          let c : Call σ := ⟨name, tool, incoming⟩
          c.finish w q (c.tryBlock w q db)
        | _ =>
          let message := "Invalid arguments: 'arguments' must be an object."
          ⟨.ok (capabilityError message), db, [emitE400 w q (.str name) message], []⟩
  | v => rejectCall w q v "Invalid params: 'name' must be a non-empty string." db

/-! ### Resources -/

/-- `_resource_model_hint` -/
def resourceModelHint (uri : String) : Option String :=
  if startsWith "odoo://record/" uri then
    let part := String.ofList ((uri.toList.drop "odoo://record/".length).takeWhile (· ≠ '/'))
    if part = "" then none else some part
  else if startsWith "odoo://attachment/" uri then some "ir.attachment"
  else none

/-- The `except` clauses of `_fetch_resource`. -/
def fetchCaught (uri : String) (db : σ) (e : PyExc) : TryEnd σ :=
  match e.cls with
  | .accessError =>
    { outcome := .error (.gateway "forbidden" (sanitizeException w.scrub e)), db
      events := [accessDenied q "read" (resourceModelHint uri)], rejected := true }
  | .userError | .validationError | .missingError =>
    let detail := sanitizeException w.scrub e
    { outcome := .error (.gateway "invalid_params" detail), db, errorDetail := some detail }
  | .operationalError => { outcome := .error (.exc e), db, concurrencyRetry := true }
  | .baseException => { outcome := .error (.exc e), db }
  | _ =>
    let detail := sanitizeException w.scrub e
    { outcome := .error (.gateway "internal_error" detail), db, errorDetail := some detail }

/-- The outer `try` of `_fetch_resource`. -/
def fetchTry (uri : String) (db : σ) : TryEnd σ :=
  match w.readResource uri db with
  | .ok entry db' => { outcome := .ok [("contents", .list [.dict entry])], db := db' }
  | .error e db' => fetchCaught w q uri db' e

/-- Its `finally` block. -/
def fetchFinish (uri : String) (a : TryEnd σ) : Handled σ :=
  let event := recordToolCall w q "resources/read" (resourceModelHint uri) "read" a.errorDetail
    none none none
  ⟨a.outcome, a.db,
    if !a.concurrencyRetry && !a.rejected then a.events ++ [event] else a.events, a.ran⟩

/-- `_fetch_resource` -/
def fetchResource (args : Dict) (db : σ) : Handled σ :=
  match args.get "uri" with
  | .str uri =>
    if uri = "" then rejectCall w q (.str "resources/read") "Invalid params: 'uri' is required." db
    else fetchFinish w q uri (fetchTry w q uri db)
  | _ => rejectCall w q (.str "resources/read") "Invalid params: 'uri' is required." db

end Handler

end AdvMcp.Server
