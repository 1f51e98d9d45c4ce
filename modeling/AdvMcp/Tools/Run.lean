import AdvMcp.Py.Class
import AdvMcp.Read.Secrecy
import AdvMcp.Rpc.Proxy

/-!
# `run`: method calls

`run` of `models/write_tools.py`, up to the call that it makes, with `_validate_invocation`,
`_resolve_invocation_target` and `_post_to_chatter`.

* `run` — an exception, or an `Invocation`: a method called on records or on the model, or a message
  posted to the chatter of one record;
* `Gate` — what `run` asks of the gateway's configuration and of the names;
* `run_call_iff` — a call has passed the gate, and what else it takes; `run_post` — so has what is posted;
* `run_granted` — what is called is granted, and when it is exposed to remote callers.

The gate looks at names only.  The mark that `@api.private` leaves on a method is not one of them, and the names
of the chatter pass before the method calls of the model are looked at.
-/

namespace AdvMcp.Tools

open AdvMcp.Access AdvMcp.Lib AdvMcp.Py AdvMcp.Read AdvMcp.Rpc

/-! ### The names -/

def chatterSubtypes : List (String × String) := [("note", "mail.mt_note"), ("comment", "mail.mt_comment")]

/-- `_ORM_METHOD_BLOCKLIST` -/
def ormMethodBlocklist : List String :=
  ["create", "write", "unlink", "read", "search", "search_read",
    "search_count", "search_fetch", "fetch", "read_group",
    "formatted_read_group", "formatted_read_grouping_sets",
    "read_progress_bar", "name_search", "search_panel_select_range",
    "search_panel_select_multi_range", "copy", "browse",
    "_write", "sudo", "with_user", "with_env", "with_context",
    "fields_get", "load", "export_data", "name_create", "run",
    "method_direct_trigger"]

/-- `_RESTRICTED_MODEL_PREFIXES` -/
def restrictedModelPrefixes : List String := ["ir.actions", "ir.cron"]

/-- The model is one of the prefixes, or below one. -/
def isRestricted (model : String) : Bool :=
  restrictedModelPrefixes.any fun p => model == p || startsWith (p ++ ".") model

/-- The names that go to the chatter. -/
def chatterMethods : List String := ["message_post", "post_message"]

/-! ### The arguments -/

/-- `(method or "").strip()` -/
def methodName : Value → Except PyExc String
  | .str s => .ok (strip s)
  | v =>
    if v.truthy then
      .error (.of .exception ("'" ++ v.typeName ++ "' object has no attribute 'strip'"))
    else .ok ""

/-- `list(v)` -/
def listOf : Value → Except PyExc (List Value)
  | .list xs => .ok xs
  | .dict kvs => .ok (kvs.map fun p => .str p.1)
  | .str s => .ok (s.toList.map fun c => .str (String.singleton c))
  | v => .error (.of .typeError ("'" ++ v.typeName ++ "' object is not iterable"))

/-- The key and the value that `dict` makes of an item. -/
def pairOf (item : Value) : Except PyExc (Value × Value) :=
  match listOf item with
  | .error _ => .error (.of .typeError "cannot convert dictionary update sequence element to a sequence")
  | .ok [.list _, _] => .error (.of .typeError "unhashable type: 'list'")
  | .ok [.dict _, _] => .error (.of .typeError "unhashable type: 'dict'")
  | .ok [k, v] => .ok (k, v)
  | .ok xs => .error (.of .valueError ("dictionary update sequence element has length " ++
      toString xs.length ++ "; 2 is required"))

/-- `f(**dict(v))`: the keywords of the call. -/
def keywordsOf : Value → Except PyExc Dict
  | .dict kvs => .ok kvs
  | v => do
    let items ← listOf v
    let pairs ← items.mapM pairOf
    pairs.foldlM (fun (d : Dict) p =>
      match p.1 with
      | .str k => .ok (d.set k p.2)
      | _ => .error (.of .typeError "keywords must be strings")) []

/-! ### The call -/

/-- The classes of Odoo's models. -/
structure Odoo where
  /-- `models.BaseModel` -/
  baseModel : Mro
  /-- The class of `env[model]` -/
  model : String → Mro

/-- `hasattr(models.BaseModel, method) or hasattr(self.env["base"], method)` -/
def Odoo.isGeneric (odoo : Odoo) (method : String) : Bool :=
  odoo.baseModel.hasattr method || (odoo.model "base").hasattr method

/-- What `run` calls.  A call without ids is made on the model. -/
inductive Invocation where
  | call (model method : String) (ids : Option (List ℤ)) (args : List Value) (kwargs : Dict)
  | post (model : String) (id : ℤ) (kwargs : Dict)

/-- The name of the method that is called. -/
def Invocation.method : Invocation → String
  | .call _ method _ _ _ => method
  | .post _ _ _ => "message_post"

section Run

variable (py : Builtins) (env : Env) (odoo : Odoo)

/-- `_validate_invocation` -/
def validateInvocation (model method : String) : Except PyExc Unit :=
  if startsWith "_" method then
    .error (.of .userError ("Private methods cannot be invoked via this gateway: " ++ method))
  else if isRestricted model then
    .error (.of .accessError ("Method calls on '" ++ model ++ "' are restricted."))
  else if startsWith "web_" method || method ∈ ormMethodBlocklist then
    .error (.of .accessError ("'" ++ method ++ "' is an ORM/web method; use the dedicated CRUD tools."))
  else
    match methodOperationMap.lookup method with
    | some mappedOp =>
      if !verifyModelOperation env.registry py.lower model mappedOp.name then
        .error (.of .accessError ("Method '" ++ method ++ "' maps to operation '" ++ mappedOp.name ++
          "' which is not enabled for '" ++ model ++ "'."))
      else checkCallable
    | none =>
      if odoo.isGeneric method then
        .error (.of .accessError ("'" ++ method ++ "' is a generic ORM method; use the dedicated tools."))
      else checkCallable
where
  /-- `callable(getattr(rs, method, None))` -/
  checkCallable : Except PyExc Unit :=
    if !((odoo.model model).getattr method).any (·.callable) then
      .error (.of .userError ("'" ++ method ++ "' is not a callable method on '" ++ model ++ "'."))
    else .ok ()

/-- `_resolve_invocation_target` -/
def resolveInvocationTarget (model : String) (recordIds : Value) : Except PyExc (Option (List ℤ)) :=
  if !recordIds.truthy then .ok none
  else match recordIds with
    | .list rids =>
      let configured := cfgInt py env "adv_mcp.max_limit" maxLimit
      let maxIds := if configured = 0 then maxLimit else configured
      if maxIds < rids.length then
        .error (.of .userError ("Too many record_ids: " ++ toString rids.length ++ " (max " ++
          toString maxIds ++ ")."))
      else do
        let ids ← rids.mapM fun rid => intArg py rid "'record_ids' must be a list of integers."
        let missing := ids.filter fun i => !env.present model i
        if !missing.isEmpty then
          throw (.of .missingError ("Records not found: " ++ model ++ " IDs " ++
            py.str (.list (missing.map .int))))
        return some ids
    | _ => .error (.of .userError "'record_ids' must be a list.")

/-- The keywords of `message_post`. -/
def postKeywords (kw : Dict) (body : String) (subtypeXmlid : String) : Dict :=
  [("body", .str body), ("message_type", kw.getOr "message_type" (.str "comment")),
    ("subtype_xmlid", .str subtypeXmlid)] ++
  ["subject", "partner_ids", "attachment_ids"].filterMap fun opt =>
    match kw.get opt with
    | .none => none
    | v => some (opt, v)

/-- The subtype of a message: `(kw.get("subtype") or "note").strip().lower()`, looked up. -/
def chatterSubtype (subtype : Value) : Except PyExc String := do
  let name ← methodName (if subtype.truthy then subtype else .str "note")
  match chatterSubtypes.lookup (py.lower.lower name) with
  | some xmlid => return xmlid
  | none => throw (.of .userError "subtype must be 'note' or 'comment'.")

/-- The body of a message: `kw.get("body") or kw.get("message")`, not blank. -/
def chatterBody (kw : Dict) : Except PyExc String :=
  match if (kw.get "body").truthy then kw.get "body" else kw.get "message" with
  | .str body =>
    if strip body = "" then .error (.of .userError "'kwargs.body' is required for message_post.")
    else .ok body
  | _ => .error (.of .userError "'kwargs.body' is required for message_post.")

/-- `_post_to_chatter` -/
def postToChatter (model : String) (recordIds kwargs : Value) : Except PyExc Invocation := do
  checkOp py env model "write"
  match kwargs with
  | .dict kw =>
    let body ← chatterBody kw
    if !(odoo.model model).hasattr "message_post" then
      throw (.of .userError ("Model '" ++ model ++ "' does not support chatter."))
    match recordIds with
    | .list (rid :: _) =>
      let id ← browseRecordOrRaise py env model rid
      let xmlid ← chatterSubtype py (Dict.get kw "subtype")
      return .post model id (postKeywords kw body xmlid)
    | _ => throw (.of .userError "'record_ids' is required for message_post.")
  | v => throw (noGet v)

/-- `run` -/
def run (model : String) (method recordIds args kwargs : Value) : Except PyExc Invocation := do
  resolveModel env model
  let method ← methodName method
  if method = "" then throw (.of .userError "No method name provided.")
  else if method ∈ chatterMethods then
    postToChatter py env odoo model recordIds (if kwargs.truthy then kwargs else .dict [])
  else if !verifyModelMethod env.registry model then
    throw (.of .accessError ("Method calls are not enabled for model '" ++ model ++ "'."))
  else do
    validateInvocation py env odoo model method
    let ids ← resolveInvocationTarget py env model recordIds
    -- what `list` and `dict` return passes the two `isinstance` checks after them
    let posArgs ← listOf (if args.truthy then args else .list [])
    let kwArgs ← keywordsOf (if kwargs.truthy then kwargs else .dict [])
    return .call model method ids posArgs kwArgs

end Run

/-! ### The gate -/

/-- What a method has to pass that does not go to the chatter. -/
structure MethodGate (r : Registry) (lo : Lower) (odoo : Odoo) (model method : String) : Prop where
  methodCalls : MethodCalls r model
  underscore : startsWith "_" method = false
  unrestricted : isRestricted model = false
  web : startsWith "web_" method = false
  orm : method ∉ ormMethodBlocklist
  mapped : ∀ op, methodOperationMap.lookup method = some op →
    verifyModelOperation r lo model op.name = true
  generic : methodOperationMap.lookup method = none → odoo.isGeneric method = false

/-- What `run` asks of the gateway's configuration and of the names: the method calls of the model, or its
writes for what goes to the chatter. -/
structure Gate (r : Registry) (lo : Lower) (odoo : Odoo) (model method : String) : Prop where
  accessible : isModelAccessible r model = true
  chatter : method ∈ chatterMethods → verifyModelOperation r lo model "write" = true
  called : method ∉ chatterMethods → MethodGate r lo odoo model method

section Gate

variable {py : Builtins} {env : Env} {odoo : Odoo} {model method name : String}

/-- An accessible model is one of an enabled gateway. -/
lemma enabled_of_accessible {r : Registry} (h : isModelAccessible r model = true) : r.enabled = true := by
  cases he : r.enabled with
  | true => rfl
  | false =>
    unfold isModelAccessible at h
    rw [he] at h
    cases h

/-- Its method can be called. -/
def Odoo.IsCallable (odoo : Odoo) (model method : String) : Prop :=
  ((odoo.model model).getattr method).any (·.callable) = true

lemma checkCallable_ok : validateInvocation.checkCallable odoo model method = .ok () ↔
    odoo.IsCallable model method := by
  unfold validateInvocation.checkCallable Odoo.IsCallable
  split_ifs with h
  · exact iff_of_false (by simp) (by simpa using h)
  · exact iff_of_true rfl (by simpa using h)

/-- **The validation of a call**: the names pass, and the method is there. -/
lemma validateInvocation_ok (hc : MethodCalls env.registry model) :
    validateInvocation py env odoo model method = .ok () ↔
      MethodGate env.registry py.lower odoo model method ∧ odoo.IsCallable model method := by
  unfold validateInvocation
  by_cases hu : startsWith "_" method = true
  · rw [if_pos hu]
    refine iff_of_false (by simp) fun hg => ?_
    rw [hg.1.underscore] at hu
    cases hu
  rw [if_neg hu]
  by_cases hr : isRestricted model = true
  · rw [if_pos hr]
    refine iff_of_false (by simp) fun hg => ?_
    rw [hg.1.unrestricted] at hr
    cases hr
  rw [if_neg hr]
  by_cases hb : startsWith "web_" method = true ∨ method ∈ ormMethodBlocklist
  · rw [if_pos (by simpa using hb)]
    refine iff_of_false (by simp) fun hg => ?_
    rcases hb with hw | ho
    · rw [hg.1.web] at hw
      cases hw
    · exact hg.1.orm ho
  rw [if_neg (by simpa using hb)]
  rw [not_or, Bool.not_eq_true] at hb
  rw [Bool.not_eq_true] at hu hr
  cases hop : methodOperationMap.lookup method with
  | some op =>
    simp only
    by_cases hv : verifyModelOperation env.registry py.lower model op.name = true
    · rw [if_neg (by simpa using hv), checkCallable_ok]
      refine ⟨fun h => ⟨⟨hc, hu, hr, hb.1, hb.2, fun op' hop' => ?_, fun hn => ?_⟩, h⟩, fun h => h.2⟩
      · rwa [← Option.some.inj (hop.symm.trans hop')]
      · rw [hop] at hn
        cases hn
    · rw [if_pos (by simpa using hv)]
      exact iff_of_false (by simp) fun hg => hv (hg.1.mapped op hop)
  | none =>
    simp only
    by_cases hg : odoo.isGeneric method = true
    · rw [if_pos hg]
      refine iff_of_false (by simp) fun h => ?_
      rw [h.1.generic hop] at hg
      cases hg
    · rw [if_neg hg, checkCallable_ok]
      rw [Bool.not_eq_true] at hg
      refine ⟨fun h => ⟨⟨hc, hu, hr, hb.1, hb.2, fun op hop' => ?_, fun _ => hg⟩, h⟩, fun h => h.2⟩
      rw [hop] at hop'
      cases hop'

/-- What goes to the chatter is a message on the model, whose writes are enabled. -/
lemma postToChatter_ok {recordIds kwargs : Value} {inv : Invocation}
    (h : postToChatter py env odoo model recordIds kwargs = .ok inv) :
    verifyModelOperation env.registry py.lower model "write" = true ∧
      ∃ id kw, inv = .post model id kw := by
  unfold postToChatter at h
  obtain ⟨⟨⟩, hop, h⟩ := except_bind_ok.1 h
  refine ⟨checkOp_ok hop, ?_⟩
  cases kwargs with
  | dict kw =>
    obtain ⟨body, -, h⟩ := except_bind_ok.1 h
    by_cases hm : (odoo.model model).hasattr "message_post" = true
    · rw [if_neg (by simpa using hm)] at h
      simp only at h
      split at h
      · obtain ⟨id, -, h⟩ := except_bind_ok.1 h
        obtain ⟨xmlid, -, h⟩ := except_bind_ok.1 h
        exact ⟨id, _, (except_pure_ok.1 h).symm⟩
      · cases h
    · rw [if_pos (by simpa using hm)] at h
      cases h
  | _ => cases h

/-- The part of `run` behind the checks of the model and of the method's name. -/
lemma run_eq {v recordIds args kwargs : Value} (hm : resolveModel env model = .ok ())
    (hname : methodName v = .ok name) (h0 : name ≠ "") :
    run py env odoo model v recordIds args kwargs =
      if name ∈ chatterMethods then
        postToChatter py env odoo model recordIds (if kwargs.truthy then kwargs else .dict [])
      else if !verifyModelMethod env.registry model then
        .error (.of .accessError ("Method calls are not enabled for model '" ++ model ++ "'."))
      else (do
        validateInvocation py env odoo model name
        let ids ← resolveInvocationTarget py env model recordIds
        let posArgs ← listOf (if args.truthy then args else .list [])
        let kwArgs ← keywordsOf (if kwargs.truthy then kwargs else .dict [])
        return .call model name ids posArgs kwArgs) := by
  unfold run
  rw [hm, ok_bind, hname, ok_bind, if_neg h0]
  rfl

/-- Nothing is called unless the model is known and the method has a name. -/
lemma run_names {v recordIds args kwargs : Value} {inv : Invocation}
    (h : run py env odoo model v recordIds args kwargs = .ok inv) :
    ∃ name, resolveModel env model = .ok () ∧ methodName v = .ok name ∧ name ≠ "" := by
  unfold run at h
  obtain ⟨⟨⟩, hm, h⟩ := except_bind_ok.1 h
  obtain ⟨name, hname, h⟩ := except_bind_ok.1 h
  refine ⟨name, hm, hname, ?_⟩
  rintro rfl
  rw [if_pos rfl] at h
  cases h

/-- **A call is made** exactly when the model is known, the names pass the gate, the method is there, and
the records and the arguments can be read. -/
theorem run_call_iff {v recordIds args kwargs : Value} {m : String} {ids : Option (List ℤ)}
    {posArgs : List Value} {kwArgs : Dict} :
    run py env odoo model v recordIds args kwargs = .ok (.call m name ids posArgs kwArgs) ↔
      m = model ∧ model ≠ "" ∧ env.models model = true ∧ methodName v = .ok name ∧ name ≠ "" ∧
        name ∉ chatterMethods ∧ Gate env.registry py.lower odoo model name ∧ odoo.IsCallable model name ∧
        resolveInvocationTarget py env model recordIds = .ok ids ∧
        listOf (if args.truthy then args else .list []) = .ok posArgs ∧
        keywordsOf (if kwargs.truthy then kwargs else .dict []) = .ok kwArgs := by
  constructor
  · intro h
    obtain ⟨name', hm, hname, h0⟩ := run_names h
    rw [run_eq hm hname h0] at h
    obtain ⟨hne, hknown, hacc⟩ := resolveModel_ok.1 hm
    by_cases hc : name' ∈ chatterMethods
    · rw [if_pos hc] at h
      obtain ⟨-, id, kw, hpost⟩ := postToChatter_ok h
      cases hpost
    rw [if_neg hc] at h
    by_cases hv : verifyModelMethod env.registry model = true
    · rw [if_neg (by simpa using hv)] at h
      obtain ⟨⟨⟩, hval, h⟩ := except_bind_ok.1 h
      obtain ⟨ids', hids, h⟩ := except_bind_ok.1 h
      obtain ⟨pos', hpos, h⟩ := except_bind_ok.1 h
      obtain ⟨kw', hkw, h⟩ := except_bind_ok.1 h
      obtain ⟨rfl, rfl, rfl, rfl, rfl⟩ := Invocation.call.inj (except_pure_ok.1 h)
      obtain ⟨hg, hcall⟩ := (validateInvocation_ok (verifyModelMethod_iff.1 hv).2).1 hval
      exact ⟨rfl, hne, hknown, hname, h0, hc, ⟨hacc, fun h => absurd h hc, fun _ => hg⟩, hcall, hids, hpos, hkw⟩
    · rw [if_pos (by simpa using hv)] at h
      cases h
  · rintro ⟨rfl, hne, hknown, hname, h0, hc, hg, hcall, hids, hpos, hkw⟩
    have hgate : MethodGate env.registry py.lower odoo m name := hg.called hc
    have hv : verifyModelMethod env.registry m = true :=
      verifyModelMethod_iff.2 ⟨enabled_of_accessible hg.accessible, hgate.methodCalls⟩
    have hval : validateInvocation py env odoo m name = .ok () :=
      (validateInvocation_ok hgate.methodCalls).2 ⟨hgate, hcall⟩
    rw [run_eq (resolveModel_ok.2 ⟨hne, hknown, hg.accessible⟩) hname h0, if_neg hc,
      if_neg (by simpa using hv), hval, ok_bind, hids, ok_bind, hpos, ok_bind, hkw, ok_bind]
    rfl

/-- What is posted has passed the gate. -/
lemma run_post {v recordIds args kwargs : Value} {m : String} {id : ℤ} {kw : Dict}
    (h : run py env odoo model v recordIds args kwargs = .ok (.post m id kw)) :
    m = model ∧ ∃ name, methodName v = .ok name ∧ name ∈ chatterMethods ∧
      Gate env.registry py.lower odoo model name := by
  obtain ⟨name, hm, hname, h0⟩ := run_names h
  rw [run_eq hm hname h0] at h
  by_cases hc : name ∈ chatterMethods
  · rw [if_pos hc] at h
    obtain ⟨hw, id', kw', hpost⟩ := postToChatter_ok h
    obtain ⟨rfl, -, -⟩ := Invocation.post.inj hpost
    exact ⟨rfl, name, hname, hc, (resolveModel_ok.1 hm).2.2, fun _ => hw, fun hn => absurd hc hn⟩
  · rw [if_neg hc] at h
    by_cases hv : verifyModelMethod env.registry model = true
    · rw [if_neg (by simpa using hv)] at h
      obtain ⟨⟨⟩, -, h⟩ := except_bind_ok.1 h
      obtain ⟨ids', -, h⟩ := except_bind_ok.1 h
      obtain ⟨pos', -, h⟩ := except_bind_ok.1 h
      obtain ⟨kw', -, h⟩ := except_bind_ok.1 h
      cases except_pure_ok.1 h
    · rw [if_pos (by simpa using hv)] at h
      cases h

end Gate

/-! ### What is called -/

/-- The gateway grants the invocation for the name: the chatter to those who may write on the model, and
otherwise the method itself, past the gate. -/
inductive Granted (r : Registry) (lo : Lower) (odoo : Odoo) (model name : String) : Invocation → Prop
  | post (id : ℤ) (kwargs : Dict) (accessible : isModelAccessible r model = true)
    (chatter : name ∈ chatterMethods) (write : verifyModelOperation r lo model "write" = true) :
    Granted r lo odoo model name (.post model id kwargs)
  | call (ids : Option (List ℤ)) (args : List Value) (kwargs : Dict)
    (accessible : isModelAccessible r model = true) (gate : MethodGate r lo odoo model name) :
    Granted r lo odoo model name (.call model name ids args kwargs)

/-- What is open to remote callers with the method calls of the model: nothing that is private to Odoo's
own RPC layer, and nothing generic beyond the operations that are enabled. -/
structure Exposed (r : Registry) (lo : Lower) (odoo : Odoo) (model name : String) : Prop where
  accessible : isModelAccessible r model = true
  methodCalls : MethodCalls r model
  underscore : startsWith "_" name = false
  rpc : (odoo.model model).isPublicMethod name = true
  unrestricted : isRestricted model = false
  generic : odoo.baseModel.hasattr name = true →
    ∃ op, methodOperationMap.lookup name = some op ∧ verifyModelOperation r lo model op.name = true

/-- The method that is called for a name. -/
def calledName (name : String) : String := if name ∈ chatterMethods then "message_post" else name

/-- What the gate does not ask: that no class has the method that is called with the mark of `@api.private`, and,
for what goes to the chatter, that the method calls of the model are enabled, that the model is under no
restricted prefix, and that its `message_post` can be called. -/
structure Unasked (r : Registry) (odoo : Odoo) (model name : String) : Prop where
  unmarked : (odoo.model model).marked (calledName name) = false
  chatter : name ∈ chatterMethods →
    MethodCalls r model ∧ isRestricted model = false ∧ odoo.IsCallable model "message_post"

section Exposed

variable {r : Registry} {lo : Lower} {odoo : Odoo} {model name : String}

/-- What Odoo's own RPC layer lets through, of the names without an underscore. -/
lemma isPublicMethod_iff {mro : Mro} (hu : startsWith "_" name = false) : mro.isPublicMethod name = true ↔
    (mro.getattr name).any (·.callable) = true ∧ mro.marked name = false := by
  unfold Mro.isPublicMethod
  simp [hu]

/-- Past the gate a method is exposed unless it has the mark. -/
lemma exposed_call (ha : isModelAccessible r model = true) (hg : MethodGate r lo odoo model name)
    (hcall : odoo.IsCallable model name) (hc : name ∉ chatterMethods) :
    Exposed r lo odoo model name ↔ Unasked r odoo model name := by
  have hname : calledName name = name := if_neg hc
  constructor
  · intro h
    exact ⟨by rw [hname]; exact ((isPublicMethod_iff hg.underscore).1 h.rpc).2, fun hn => absurd hn hc⟩
  · intro h
    refine ⟨ha, hg.methodCalls, hg.underscore, ?_, hg.unrestricted, fun hb => ?_⟩
    · exact (isPublicMethod_iff hg.underscore).2 ⟨hcall, hname ▸ h.unmarked⟩
    · cases hop : methodOperationMap.lookup name with
      | some op => exact ⟨op, rfl, hg.mapped op hop⟩
      | none =>
        have hgeneric := hg.generic hop
        unfold Odoo.isGeneric at hgeneric
        rw [hb, Bool.true_or] at hgeneric
        cases hgeneric

/-- `message_post` is exposed where method calls are enabled, as any other method. -/
lemma exposed_post (ha : isModelAccessible r model = true) (hw : verifyModelOperation r lo model "write" = true)
    (hc : name ∈ chatterMethods) : Exposed r lo odoo model "message_post" ↔ Unasked r odoo model name := by
  have hname : calledName name = "message_post" := if_pos hc
  have hu : startsWith "_" "message_post" = false := by decide
  constructor
  · intro h
    obtain ⟨hcall, hmark⟩ := (isPublicMethod_iff hu).1 h.rpc
    exact ⟨by rw [hname]; exact hmark, fun _ => ⟨h.methodCalls, h.unrestricted, hcall⟩⟩
  · intro h
    obtain ⟨hcalls, hr, hcall⟩ := h.chatter hc
    exact ⟨ha, hcalls, hu, (isPublicMethod_iff hu).2 ⟨hcall, hname ▸ h.unmarked⟩, hr,
      fun _ => ⟨.write, by decide, hw⟩⟩

end Exposed

/-- **What `run` calls** is granted for the name that it makes of its argument; and it is exposed to remote callers
if and only if what the gate does not ask holds too. -/
theorem run_granted (py : Builtins) (env : Env) (odoo : Odoo) (model : String)
    (method recordIds args kwargs : Value) (inv : Invocation)
    (h : run py env odoo model method recordIds args kwargs = .ok inv) :
    ∃ name, methodName method = .ok name ∧ Granted env.registry py.lower odoo model name inv ∧
      (Exposed env.registry py.lower odoo model inv.method ↔ Unasked env.registry odoo model name) := by
  cases inv with
  | call m name ids posArgs kwArgs =>
    obtain ⟨rfl, -, -, hname, -, hc, hg, hcall, -⟩ := run_call_iff.1 h
    have hgate : MethodGate env.registry py.lower odoo m name := hg.called hc
    exact ⟨name, hname, .call ids posArgs kwArgs hg.accessible hgate, exposed_call hg.accessible hgate hcall hc⟩
  | post m id kw =>
    obtain ⟨rfl, name, hname, hc, hg⟩ := run_post h
    have hw := hg.chatter hc
    exact ⟨name, hname, .post id kw hg.accessible hc hw, exposed_post hg.accessible hw hc⟩

/-- The classes of a sales order, whose margins are recomputed by a method with the mark. -/
def saleClasses : Odoo where
  baseModel := [⟨[("read", ⟨true, false⟩), ("write", ⟨true, false⟩)]⟩]
  model m :=
    if m = "sale.order" then
      [⟨[("action_confirm", ⟨true, false⟩), ("recompute_margins", ⟨true, true⟩)]⟩,
        ⟨[("message_post", ⟨true, false⟩)]⟩, ⟨[("read", ⟨true, false⟩), ("write", ⟨true, false⟩)]⟩]
    else [⟨[("read", ⟨true, false⟩), ("write", ⟨true, false⟩)]⟩]

/-- Sales orders that may be written, with or without method calls. -/
def saleCalls (methodCalls : Bool) : Env :=
  { partnerEnv with
    registry :=
      { enabled := true
        modules := [⟨1, "sale", true, ⟨true, true, true, true, methodCalls⟩⟩]
        overrides := [⟨1, 10, ⟨true, true, true, true, true⟩⟩]
        models := [⟨10, "sale.order", "Sales Order", "sale", false⟩]
        models_unique := by decide
        models_named := by decide } }

lemma saleCalls_confirm : run plainBuiltins (saleCalls true) saleClasses "sale.order"
    (.str " action_confirm ") (.list [.int 5]) .none .none =
      .ok (.call "sale.order" "action_confirm" (some [5]) [] []) := rfl

/-- An order is confirmed, by a method that is exposed. -/
theorem run_granted_confirm : ∃ name, methodName (.str " action_confirm ") = .ok name ∧
    Granted (saleCalls true).registry asciiLower saleClasses "sale.order" name
      (.call "sale.order" "action_confirm" (some [5]) [] []) ∧
    Exposed (saleCalls true).registry asciiLower saleClasses "sale.order" "action_confirm" := by
  obtain ⟨name, hname, hgranted, hexposed⟩ :=
    run_granted plainBuiltins (saleCalls true) saleClasses _ _ _ _ _ _ saleCalls_confirm
  refine ⟨name, hname, hgranted, hexposed.2 ?_⟩
  obtain rfl := Except.ok.inj ((show methodName (.str " action_confirm ") = .ok "action_confirm" from rfl).symm.trans
    hname)
  exact ⟨by decide, fun hc => absurd hc (by decide)⟩

set_option maxRecDepth 4000 in
/-- A method with the mark of `@api.private` is called; and without method calls a message is posted. -/
theorem private_and_chatter_called :
    (∃ inv, run plainBuiltins (saleCalls true) saleClasses "sale.order" (.str "recompute_margins")
        (.list [.int 5]) .none .none = .ok inv ∧ inv.method = "recompute_margins" ∧
      ¬ Exposed (saleCalls true).registry asciiLower saleClasses "sale.order" "recompute_margins") ∧
    (∃ inv, run plainBuiltins (saleCalls false) saleClasses "sale.order" (.str "message_post")
        (.list [.int 5]) .none (.dict [("body", .str "Confirmed.")]) = .ok inv ∧
      inv.method = "message_post" ∧
      ¬ Exposed (saleCalls false).registry asciiLower saleClasses "sale.order" "message_post") := by
  refine ⟨⟨_, rfl, rfl, fun h => ?_⟩, ⟨_, rfl, rfl, fun h => ?_⟩⟩
  · exact absurd h.rpc (by decide)
  · have hv : verifyModelMethod (saleCalls false).registry "sale.order" = true :=
      verifyModelMethod_iff.2 ⟨rfl, h.methodCalls⟩
    exact absurd hv (by decide)

end AdvMcp.Tools
