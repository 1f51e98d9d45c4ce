import AdvMcp.Access.Listing
import AdvMcp.Py.Value

/-!
# The XML-RPC proxy

`AdvRpcController._adv_object_dispatch` of `server/rpc_proxy.py`: the checks of an `execute_kw` call,
and the call it forwards to Odoo's model service.

* `advObjectDispatch` — the outcome of a request: a fault, an error that escapes, or the forwarded
  parameters, with what the gateway looked up on the way (`Checked`).
* `Executes` — what the model service does with the parameters: it opens the database named by the
  first one and calls the method named by the fifth on the model named by the fourth.

The checks are made on copies: the database of the request, the model name without a final newline,
the method name on one line and in lower case.  `forwarded_iff` says when these are the parameters.
-/

namespace AdvMcp.Rpc

open AdvMcp.Access AdvMcp.Py

/-- `XMLRPC_METHOD_OPERATION_MAP` -/
def methodOperationMap : List (String × Operation) :=
  [("read", .read), ("search", .read), ("search_read", .read), ("search_count", .read),
    ("name_search", .read), ("fields_get", .read), ("export_data", .read), ("default_get", .read),
    ("name_get", .read), ("get_metadata", .read), ("get_formview_id", .read),
    ("get_formview_action", .read), ("read_group", .read), ("formatted_read_group", .read),
    ("create", .create), ("copy", .create), ("name_create", .create),
    ("write", .write), ("toggle_active", .write), ("action_archive", .write),
    ("action_unarchive", .write), ("message_post", .write),
    ("unlink", .unlink), ("action_delete", .unlink)]

/-- The database of the request with the gateway's configuration in it, `str.lower`, and `repr` of
lists and dictionaries. -/
structure Gateway where
  db : String
  registry : Registry
  lo : Lower
  repr : Value → String

/-- What the gateway consulted before it forwarded a call. -/
structure Checked where
  db : String
  model : String
  method : String
  operation : Operation

inductive Outcome where
  | fault (code : ℕ) (message : String)
  | error (message : String)
  | forwarded (params : List Value) (checked : Checked)

/-- `_one_line` -/
def oneLine (g : Gateway) (v : Value) : String :=
  replace '\n' " " (replace '\r' " " (v.pyStr g.repr))

/-- `sanitize_model_name` on any value: the empty ones are refused, and `re.match` raises a
`TypeError` on what is not a string. -/
def sanitizeValue (v : Value) : Except Outcome String :=
  match v with
  | .str s =>
    match sanitizeModelName s with
    | .ok name => .ok name
    | .error e => .error (.fault 400 ("Invalid model name: " ++ e))
  | v =>
    if v.truthy then .error (.error "expected string or bytes-like object")
    else .error (.fault 400 "Invalid model name: Model name cannot be empty")

/-- `_validate_request` -/
def validateRequest (xmlrpcMethod : String) (params : List Value) : Option Outcome :=
  if xmlrpcMethod ≠ "execute_kw" then
    some (.fault 400 ("AdvRpcController: Unsupported method " ++ xmlrpcMethod ++
      ". Only execute_kw is allowed."))
  else if params.length < 5 then
    some (.fault 400 "AdvRpcController: Insufficient parameters for execute_kw.")
  else none

/-- The parameter at a position. -/
def param (params : List Value) (i : ℕ) : Value := params.getD i .none

/-- `_adv_object_dispatch`, up to the call of the model service. -/
def advObjectDispatch (g : Gateway) (xmlrpcMethod : String) (params : List Value) : Outcome :=
  match validateRequest xmlrpcMethod params with
  | some o => o
  | none =>
    let modelMethod := oneLine g (param params 4)
    match sanitizeValue (param params 3) with
    | .error o => o
    | .ok modelName =>
      if !g.registry.enabled then .fault 403 "Advanced MCP Server is disabled globally."
      else if !isModelAccessible g.registry modelName then
        .fault 403 ("Access denied by adv_mcp for model '" ++ modelName ++ "' method '" ++
          modelMethod ++ "'.")
      else
        match methodOperationMap.lookup (g.lo.lower modelMethod) with
        | none => .fault 403 ("adv_mcp: method '" ++ modelMethod ++ "' has no operation mapping.")
        | some operation =>
          if !verifyModelOperation g.registry g.lo modelName operation.name then
            .fault 403 ("adv_mcp: operation '" ++ operation.name ++ "' not allowed for '" ++
              modelName ++ "'.")
          else .forwarded params ⟨g.db, modelName, g.lo.lower modelMethod, operation⟩

/-- `model_service.dispatch('execute_kw', params)` opens the registry named by `params[0]` and calls
`params[4]` on `params[3]`. -/
structure Executes (params : List Value) (db model method : String) : Prop where
  db : param params 0 = .str db
  model : param params 3 = .str model
  method : param params 4 = .str method

/-! ### What is forwarded -/

variable {g : Gateway} {xmlrpcMethod : String} {params params' : List Value} {c : Checked}

/-- Only a string passes as a model name. -/
lemma sanitizeValue_ok {v : Value} {name : String} (h : sanitizeValue v = .ok name) :
    ∃ s, v = .str s ∧ sanitizeModelName s = .ok name := by
  unfold sanitizeValue at h
  cases v with
  | str s =>
    simp only at h
    cases hs : sanitizeModelName s with
    | error e => rw [hs] at h; cases h
    | ok n =>
      rw [hs] at h
      exact ⟨s, rfl, by rw [hs, Except.ok.inj h]⟩
  | _ =>
    simp only at h
    split_ifs at h

lemma sanitizeValue_error {v : Value} {o : Outcome} (h : sanitizeValue v = .error o) :
    o ≠ .forwarded params' c := by
  rintro rfl
  unfold sanitizeValue at h
  split at h
  · split at h <;> cases h
  · split_ifs at h <;> cases h

/-- A forwarded call passed every check, and its parameters are those of the request. -/
lemma forwarded_spec (h : advObjectDispatch g xmlrpcMethod params = .forwarded params' c) :
    params' = params ∧ (∃ s, param params 3 = .str s ∧ sanitizeModelName s = .ok c.model) ∧
      c.db = g.db ∧ c.method = g.lo.lower (oneLine g (param params 4)) ∧
      isModelAccessible g.registry c.model = true ∧
      methodOperationMap.lookup c.method = some c.operation ∧
      verifyModelOperation g.registry g.lo c.model c.operation.name = true := by
  unfold advObjectDispatch at h
  cases hv : validateRequest xmlrpcMethod params with
  | some o =>
    -- the request is refused with a fault
    rw [hv] at h
    unfold validateRequest at hv
    split_ifs at hv <;> (obtain rfl := Option.some.inj hv; cases h)
  | none =>
    rw [hv] at h
    cases hn : sanitizeValue (param params 3) with
    | error o =>
      simp only [hn] at h
      exact absurd h (sanitizeValue_error hn)
    | ok name =>
      simp only [hn] at h
      split_ifs at h with he ha
      split at h
      · cases h
      · rename_i operation hop
        split_ifs at h with hver
        obtain ⟨rfl, rfl⟩ := Outcome.forwarded.inj h
        exact ⟨rfl, sanitizeValue_ok hn, rfl, rfl, by simpa using ha, hop, by simpa using hver⟩

/-- A call that passes every check is forwarded. -/
lemma advObjectDispatch_of {s name method : String} {operation : Operation}
    (hv : validateRequest xmlrpcMethod params = none) (h3 : param params 3 = .str s)
    (hs : sanitizeModelName s = .ok name) (ha : isModelAccessible g.registry name = true)
    (hm : g.lo.lower (oneLine g (param params 4)) = method)
    (hop : methodOperationMap.lookup method = some operation)
    (hver : verifyModelOperation g.registry g.lo name operation.name = true) :
    advObjectDispatch g xmlrpcMethod params = .forwarded params ⟨g.db, name, method, operation⟩ := by
  have he : g.registry.enabled = true := by
    by_contra hf
    rw [Bool.not_eq_true] at hf
    simp [isModelAccessible, hf] at ha
  subst hm
  unfold advObjectDispatch sanitizeValue
  simp [hv, h3, hs, he, ha, hop, hver]

/-! ### The keys of the map -/

lemma mem_keys {s : String} :
    s ∈ methodOperationMap.map (·.1) ↔ ∃ op, methodOperationMap.lookup s = some op := by
  rw [← Option.isSome_iff_exists, List.lookup_isSome_iff, List.mem_map]
  exact exists_congr fun p => and_congr_right fun _ => by rw [beq_iff_eq, eq_comm]

/-- A key is its own lowered one-line copy. -/
lemma lower_oneLine_key {s : String} (h : s ∈ methodOperationMap.map (·.1)) :
    g.lo.lower (oneLine g (.str s)) = s := by
  have hkeys : ∀ k ∈ methodOperationMap.map (·.1), (∀ c ∈ k.toList, c.toNat < 128) ∧
      replace '\n' " " (replace '\r' " " k) = k ∧ String.ofList (k.toList.map Char.toLower) = k := by
    decide
  obtain ⟨hascii, hline, hlow⟩ := hkeys s h
  unfold oneLine Value.pyStr
  rw [hline, g.lo.ascii s hascii, hlow]

/-- The method that was checked is the fifth parameter if that is a key, and only then. -/
lemma method_iff {op : Operation} {v : Value} {k : String} (hk : k = g.lo.lower (oneLine g v))
    (hop : methodOperationMap.lookup k = some op) :
    v = .str k ↔ ∃ s, v = .str s ∧ s ∈ methodOperationMap.map (·.1) := by
  constructor
  · exact fun hv => ⟨k, hv, mem_keys.2 ⟨op, hop⟩⟩
  · rintro ⟨s, rfl, hs⟩
    rw [hk, lower_oneLine_key hs]

/-- The name that was checked is the fourth parameter unless that ends in a newline. -/
lemma model_iff {s name : String} (h : sanitizeModelName s = .ok name) :
    s = name ↔ s.toList.getLast? ≠ some '\n' := by
  obtain ⟨hn, rfl | rfl⟩ := sanitize_spec h
  · refine ⟨fun _ hl => ?_, fun _ => rfl⟩
    exact absurd (hn.2 '\n' (List.mem_of_getLast? hl)) (by decide)
  · constructor
    · intro he
      have hlen := congrArg String.length he
      rw [String.length_append] at hlen
      have hone : ("\n" : String).length = 1 := rfl
      omega
    · intro hl
      refine absurd ?_ hl
      rw [String.toList_append]
      exact List.getLast?_concat

/-! ### The checks against the call -/

/-- The service executes what the gateway checked, in the database whose configuration allowed it. -/
structure Agrees (g : Gateway) (params : List Value) (c : Checked) : Prop where
  executes : Executes params c.db c.model c.method
  consulted : c.db = g.db
  accessible : isModelAccessible g.registry c.model = true
  mapped : methodOperationMap.lookup c.method = some c.operation
  allowed : verifyModelOperation g.registry g.lo c.model c.operation.name = true

/-- The parameters that are their own checked copies: the first names the database of the request, the
fourth does not end in a newline, and the fifth is a key of the map as it stands. -/
structure Canonical (g : Gateway) (params : List Value) : Prop where
  db : param params 0 = .str g.db
  model : ∀ s, param params 3 = .str s → s.toList.getLast? ≠ some '\n'
  method : ∃ s, param params 4 = .str s ∧ s ∈ methodOperationMap.map (·.1)

/-- **The proxy.**  A forwarded call executes what the gateway checked if and only if its parameters
are their own checked copies. -/
theorem forwarded_iff (g : Gateway) (xmlrpcMethod : String) (params params' : List Value) (c : Checked)
    (h : advObjectDispatch g xmlrpcMethod params = .forwarded params' c) :
    Agrees g params' c ↔ Canonical g params := by
  obtain ⟨rfl, ⟨s, hs, hname⟩, hdb, hmethod, hacc, hop, hver⟩ := forwarded_spec h
  constructor
  · intro ha
    refine ⟨hdb ▸ ha.executes.db, fun s' hs' => ?_, (method_iff hmethod hop).1 ha.executes.method⟩
    obtain rfl : s = s' := Value.str.inj (hs.symm.trans hs')
    exact (model_iff hname).1 (Value.str.inj (hs.symm.trans ha.executes.model))
  · intro hc
    refine ⟨⟨hdb ▸ hc.db, ?_, (method_iff hmethod hop).2 hc.method⟩, hdb, hacc, hop, hver⟩
    rw [hs, (model_iff hname).2 (hc.model s hs)]

/-- The gateway of the sales module in the database `erp`. -/
def saleGateway : Gateway := ⟨"erp", saleRegistry, asciiLower, fun _ => "[]"⟩

/-- `read` on the sales orders of a database. -/
def saleRead (db : String) : List Value :=
  [.str db, .int 2, .str "secret", .str "sale.order", .str "read", .list [.list [.int 7]]]

lemma saleRead_forwarded (db : String) : advObjectDispatch saleGateway "execute_kw" (saleRead db) =
    .forwarded (saleRead db) ⟨"erp", "sale.order", "read", .read⟩ := by
  refine advObjectDispatch_of (s := "sale.order") rfl rfl (by decide) (by decide) ?_ (by decide) (by decide)
  exact lower_oneLine_key (g := saleGateway) (s := "read") (by decide)

/-- A read in the database of the request executes what was checked. -/
theorem forwarded_iff_erp : Agrees saleGateway (saleRead "erp") ⟨"erp", "sale.order", "read", .read⟩ := by
  refine (forwarded_iff _ "execute_kw" _ _ _ (saleRead_forwarded "erp")).2 ⟨rfl, ?_, "read", rfl, by decide⟩
  intro s hs
  obtain rfl := Value.str.inj (show Value.str "sale.order" = .str s from hs)
  decide

/-- A read that names another database is forwarded, and executes there. -/
theorem other_database_forwarded :
    advObjectDispatch saleGateway "execute_kw" (saleRead "other") =
        .forwarded (saleRead "other") ⟨"erp", "sale.order", "read", .read⟩ ∧
      Executes (saleRead "other") "other" "sale.order" "read" ∧
      ¬ Agrees saleGateway (saleRead "other") ⟨"erp", "sale.order", "read", .read⟩ := by
  refine ⟨saleRead_forwarded "other", ⟨rfl, rfl, rfl⟩, fun ha => ?_⟩
  have hdb := Value.str.inj (show Value.str "other" = .str "erp" from ha.executes.db)
  exact absurd hdb (by decide)

end AdvMcp.Rpc
