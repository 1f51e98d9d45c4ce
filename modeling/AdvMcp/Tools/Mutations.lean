import AdvMcp.Lib.Journal
import AdvMcp.Read.Capabilities
import AdvMcp.Tools.Pipeline
import AdvMcp.Tools.Run

/-!
# What the write tools do

`add`, `edit`, `drop` and `run` of `models/write_tools.py` as a caller sees them, with their keywords and
replies, and the pipeline over them.  The state is a database with the journal of the operations that were done
on its business data.

* `Orm` — the computations of Odoo behind the tools;
* `Orm.add`, `Orm.edit`, `Orm.drop`, `Orm.run`, `Orm.pipeline` — the tools;
* `Orm.DryRun` — an operation of a batch that only shows what it would create;
* `pipeline_done` — a batch does nothing exactly when every operation of it is a dry run.
-/

namespace AdvMcp.Tools

open AdvMcp.Access AdvMcp.Lib AdvMcp.Py AdvMcp.Read AdvMcp.Rpc

/-- An operation that was done on a model: `create`, `write`, `unlink`, or the method that was invoked. -/
structure Performed where
  model : String
  operation : String
  deriving DecidableEq

/-- What a field of a model says about its relation. -/
structure RelationField where
  name : String
  ondelete : Option String
  inverseName : Option String
  comodelName : String

/-- Odoo behind the tools, over a database of any type.  A method is invoked together with `_coerce_json` of what
it returns; of a posted message that is the id. -/
structure Orm (σ : Type) where
  py : Builtins
  odoo : Odoo
  env : σ → Env
  fields : String → List RelationField
  create : String → Dict → EStateM PyExc σ ℤ
  write : String → ℤ → Dict → EStateM PyExc σ Unit
  unlink : String → ℤ → EStateM PyExc σ Unit
  invoke : Invocation → EStateM PyExc σ Value
  /-- `json.dumps(v, ensure_ascii=False, default=str)`, and `str(v)` where that raises -/
  dumps : Value → String

/-! ### Keywords -/

/-- The names as Python lists them. -/
def quoted : List String → String
  | [] => ""
  | [a] => "'" ++ a ++ "'"
  | [a, b] => "'" ++ a ++ "' and '" ++ b ++ "'"
  | names => join ", " (names.dropLast.map fun a => "'" ++ a ++ "'") ++ ", and '" ++ names.getLastD "" ++ "'"

/-- `f(**incoming)`, of a function as the messages name it: an unknown keyword, or one that is missing, is a
`TypeError`. -/
def bindArguments (called : String) (required optional : List String) (incoming : Dict) : Except PyExc Unit :=
  match (incoming.map (·.1)).find? (· ∉ required ++ optional) with
  | some key => .error (.of .typeError (called ++ " got an unexpected keyword argument '" ++ key ++ "'"))
  | none =>
    match required.filter fun key => !incoming.has key with
    | [] => .ok ()
    | missing =>
      let noun := if missing.length = 1 then " argument: " else " arguments: "
      .error (.of .typeError (called ++ " missing " ++ toString missing.length ++ " required positional" ++
        noun ++ quoted missing))

/-- The keywords of the tools that write. -/
def bindKeywords (function : String) : List String → List String → Dict → Except PyExc Unit :=
  bindArguments ("AdvMutationCapabilities." ++ function ++ "()")

section Arguments

variable (py : Builtins) (env : Env)

/-- `model in self.env`, of any value: only a string is the name of a model. -/
def modelArg : Value → Except PyExc String
  | .str model => .ok model
  | v =>
    if !v.truthy then .error (.of .userError ("Unknown model: " ++ py.str v))
    else match v with
      | .list _ => .error (.of .typeError "unhashable type: 'list'")
      | .dict _ => .error (.of .typeError "unhashable type: 'dict'")
      | v => .error (.of .userError ("Unknown model: " ++ py.str v))

/-- The head of `add`, `edit` and `drop`: the model, resolved and open to the operation. -/
def openedModel (model : Value) (operation : String) : Except PyExc String := do
  let model ← modelArg py model
  resolveModel env model
  checkOp py env model operation
  return model

def valuesArg : Value → Except PyExc Dict
  | .dict (kv :: kvs) => .ok (kv :: kvs)
  | _ => .error (.of .userError "'values' must be a non-empty object.")

/-! ### Replies -/

/-- `_ESSENTIAL_FIELDS` -/
def essentialFields : List String := ["id", "display_name"]

/-- `_web_url` -/
def webUrl (model : String) (recordId : ℤ) : String :=
  match (env.param "web.base.url").filter (· ≠ "") with
  | some base => base ++ "/odoo/" ++ model ++ "/" ++ toString recordId
  | none => ""

/-- `_confirmation` -/
def confirmation (model : String) (recordId : ℤ) (message : String) : Except PyExc Value := do
  let data ← firstRow (← env.read model [recordId] (some (essentialFields.map .str)))
  let url := webUrl env model recordId
  let name := Dict.get data "display_name"
  let lines := [message] ++ (if name.truthy then ["Name: " ++ py.str name] else []) ++
    (if url = "" then [] else ["URL: " ++ url])
  return result (join "\n" lines)
    (.dict [("success", .bool true), ("record", .dict data), ("url", .str url)])

/-- `_dry_run_add` -/
def dryRunAdd (model : String) (values : Dict) : Value :=
  let schema := env.fieldsGet model ["type", "string", "required"]
  let missing := (schema.filter fun f =>
    (Dict.get f.2 "required").truthy && !values.has f.1 && f.1 ∉ ["id", "create_uid"]).map (·.1)
  let preview := values.filter fun p => schema.any fun f => f.1 == p.1
  let unknown := (values.map (·.1)).filter fun k => !schema.any fun f => f.1 == k
  let lines := ["Dry run — record would NOT be saved", "Model: " ++ model] ++
    (if missing.isEmpty then [] else ["Missing required fields: " ++ join ", " missing]) ++
    (if unknown.isEmpty then [] else ["Unknown fields (ignored): " ++ join ", " unknown]) ++
    ["Preview: " ++ py.dumps (.dict preview)]
  result (join "\n" lines)
    (.dict [("dry_run", .bool true), ("model", .str model), ("preview", .dict preview),
      ("missing_required", .list (missing.map .str)), ("unknown_fields", .list (unknown.map .str))])

/-- A step of the loop of `_find_affected_relations`. -/
def affectedRelation (recordId : ℤ) (field : RelationField) : Except PyExc (Option Value) :=
  if field.ondelete ≠ some "cascade" then .ok none
  else if (field.inverseName.filter (· ≠ "")).isNone || field.comodelName = "" ||
    !env.models field.comodelName then .ok none
  else
    match env.searchCount field.comodelName [.list [.str field.name, .str "=", .int recordId]] with
    | .ok count =>
      .ok (if count = 0 then none
        else some (.dict [("model", .str field.comodelName), ("count", .int count)]))
    | .error e => if e.cls = .baseException then .error e else .ok none

/-- `_find_affected_relations` -/
def findAffectedRelations (fields : List RelationField) (recordId : ℤ) : Except PyExc (List Value) := do
  let found ← fields.mapM (affectedRelation env recordId)
  return found.reduceOption

/-- What `run` answers. -/
def invoked (dumps : Value → String) (recordIds out : Value) : Invocation → Value
  | .call model method _ _ _ =>
    result ("Called " ++ model ++ "." ++ method ++ "\nResult: " ++ dumps out)
      (.dict [("success", .bool true), ("result", out)])
  | .post model _ _ =>
    result ("Posted message " ++ py.str out ++ " to " ++ model ++ " record " ++
        py.str (recordIds.items.headD .none))
      (.dict [("success", .bool true), ("message_id", out)])

end Arguments

/-! ### The tools -/

section Tools

variable {σ : Type} (O : Orm σ)

/-- The arguments of `add`, checked. -/
def Orm.addArgs (db : σ) (args : Dict) : Except PyExc (String × Dict) := do
  bindKeywords "add" ["model", "values"] ["dry_run"] args
  let model ← openedModel O.py (O.env db) (args.get "model") "create"
  return (model, ← valuesArg (args.get "values"))

/-- `add` -/
def Orm.add (args : Dict) : EStateM PyExc (Journal σ Performed) Value := do
  let (model, values) ← peek fun s => O.addArgs s.1 args
  if (args.getOr "dry_run" (.bool false)).truthy then
    peek fun s => .ok (dryRunAdd O.py (O.env s.1) model values)
  else
    let recordId ← logged ⟨model, "create"⟩ (O.create model values)
    peek fun s => confirmation O.py (O.env s.1) model recordId
      ("Created " ++ model ++ " record with ID " ++ toString recordId)

/-- The arguments of `edit`, checked. -/
def Orm.editArgs (db : σ) (args : Dict) : Except PyExc (String × ℤ × Dict) := do
  bindKeywords "edit" ["model", "record_id", "values"] [] args
  let model ← openedModel O.py (O.env db) (args.get "model") "write"
  let values ← valuesArg (args.get "values")
  let recordId ← browseRecordOrRaise O.py (O.env db) model (args.get "record_id")
  return (model, recordId, values)

/-- `edit` -/
def Orm.edit (args : Dict) : EStateM PyExc (Journal σ Performed) Value := do
  let (model, recordId, values) ← peek fun s => O.editArgs s.1 args
  logged ⟨model, "write"⟩ (O.write model recordId values)
  peek fun s => confirmation O.py (O.env s.1) model recordId
    ("Updated " ++ model ++ " record with ID " ++ toString recordId)

/-- The arguments of `drop`, checked, and what it reads before it deletes: the name and the relations. -/
def Orm.dropArgs (db : σ) (args : Dict) : Except PyExc (String × ℤ × Value × List Value) := do
  bindKeywords "drop" ["model", "record_id"] [] args
  let model ← openedModel O.py (O.env db) (args.get "model") "unlink"
  let recordId ← browseRecordOrRaise O.py (O.env db) model (args.get "record_id")
  let name ← (O.env db).attr model recordId "display_name"
  let name := if name.truthy then name else .str ("ID " ++ toString recordId)
  let affected ← findAffectedRelations (O.env db) (O.fields model) recordId
  return (model, recordId, name, affected)

/-- `drop` -/
def Orm.drop (args : Dict) : EStateM PyExc (Journal σ Performed) Value := do
  let (model, recordId, name, affected) ← peek fun s => O.dropArgs s.1 args
  logged ⟨model, "unlink"⟩ (O.unlink model recordId)
  return result ("Removed " ++ model ++ " '" ++ O.py.str name ++ "' (ID: " ++ toString recordId ++ ")")
    (.dict [("success", .bool true), ("deleted_id", .int recordId), ("deleted_name", name),
      ("affected_relations", .list affected)])

/-- The call that `run` makes of its arguments. -/
def Orm.runArgs (db : σ) (args : Dict) : Except PyExc (String × Invocation) := do
  bindKeywords "run" ["model", "method"] ["record_ids", "args", "kwargs"] args
  let model ← modelArg O.py (args.get "model")
  let inv ← Tools.run O.py (O.env db) O.odoo model (args.get "method") (args.get "record_ids") (args.get "args")
    (args.get "kwargs")
  return (model, inv)

/-- `run` -/
def Orm.run (args : Dict) : EStateM PyExc (Journal σ Performed) Value := do
  let (model, inv) ← peek fun s => O.runArgs s.1 args
  let out ← logged ⟨model, inv.method⟩ (O.invoke inv)
  return invoked O.py O.dumps (args.get "record_ids") out inv

/-- `getattr(self, tool)(**args)`, of a tool that a batch allows. -/
def Orm.tool (name : String) (args : Dict) : EStateM PyExc (Journal σ Performed) Value :=
  match name with
  | "add" => O.add args
  | "edit" => O.edit args
  | "drop" => O.drop args
  | _ => O.run args

/-- `pipeline` -/
def Orm.pipeline (args : Dict) : EStateM PyExc (Journal σ Performed) Value := do
  peek fun _ => bindKeywords "pipeline" ["operations"] [] args
  Tools.pipeline O.tool O.py.repr (args.get "operations")

/-- The methods of the write tools that work on business data; `others` are the methods of the rest. -/
def Orm.bound (others : String → Dict → EStateM PyExc σ Value) (name : String) (args : Dict) :
    EStateM PyExc (Journal σ Performed) Value :=
  if name = "pipeline" then O.pipeline args
  else if name ∈ batchAllowed then O.tool name args
  else unlogged (others name args)

/-! ### Dry runs -/

/-- `add` is to show what it would create. -/
def Dry (args : Dict) : Prop := (args.getOr "dry_run" (.bool false)).truthy = true

instance (args : Dict) : Decidable (Dry args) := inferInstanceAs (Decidable (_ = true))

/-- What a dry run shows. -/
def Orm.shown (db : σ) (args : Dict) : Except PyExc Value := do
  let (model, values) ← O.addArgs db args
  return dryRunAdd O.py (O.env db) model values

/-- The operation of a batch is a dry run of `add` on these arguments. -/
def Orm.DryRun (op : Value) (named : Dict) (index : ℕ) (args : Dict) : Prop :=
  ∃ o, op = .dict o ∧ Dict.get o "tool" = .str "add" ∧
    resolveRefs O.py.repr named index (argsOf o) = .ok (.dict args) ∧ Dry args

/-- Every operation of a batch is a dry run, its references filled by what the ones before it show. -/
def Orm.DryRuns (db : σ) : List Value → ℕ → Dict → Prop
  | [], _, _ => True
  | op :: ops, index, named => ∃ args, O.DryRun op named index args ∧
      ∀ out named', O.shown db args = .ok out → nameResult (opId op) out named = .ok named' →
        Orm.DryRuns db ops (index + 1) named'

end Tools

/-! ### What is done -/

section Done

variable {σ : Type} {O : Orm σ} {args : Dict} {out : Value} {s s' : Journal σ Performed}

lemma modelArg_ok {py : Builtins} {v : Value} {model : String} (h : modelArg py v = .ok model) :
    v = .str model := by
  unfold modelArg at h
  cases v with
  | str m => rw [Except.ok.inj h]
  | _ =>
    simp only at h
    split_ifs at h

lemma openedModel_ok {py : Builtins} {env : Env} {v : Value} {operation model : String}
    (h : openedModel py env v operation = .ok model) : v = .str model := by
  obtain ⟨m, hm, h⟩ := except_bind_ok.1 h
  obtain ⟨⟨⟩, -, h⟩ := except_bind_ok.1 h
  obtain ⟨⟨⟩, -, h⟩ := except_bind_ok.1 h
  obtain rfl := except_pure_ok.1 h
  exact modelArg_ok hm

/-- One operation is done, on the model that the arguments name. -/
def One (args : Dict) (operation : String) (s s' : Journal σ Performed) : Prop :=
  ∃ model, args.get "model" = .str model ∧ s'.2 = s.2 ++ [⟨model, operation⟩]

/-- **`add`** creates a record, or is a dry run and does nothing. -/
lemma add_ok (h : O.add args s = .ok out s') :
    (Dry args ∧ s' = s ∧ O.shown s.1 args = .ok out) ∨ (¬ Dry args ∧ One args "create" s s') := by
  obtain ⟨⟨model, values⟩, s₁, hp, h⟩ := bind_ok.1 h
  obtain ⟨ha, rfl⟩ := peek_ok.1 hp
  simp only at h
  split_ifs at h with hd
  · obtain ⟨hr, rfl⟩ := peek_ok.1 h
    refine Or.inl ⟨hd, rfl, ?_⟩
    unfold Orm.shown
    rw [ha, ok_bind]
    exact hr
  · obtain ⟨recordId, s₂, hc, h⟩ := bind_ok.1 h
    obtain ⟨-, hj⟩ := logged_ok.1 hc
    obtain ⟨-, rfl⟩ := peek_ok.1 h
    obtain ⟨⟨⟩, -, ha⟩ := except_bind_ok.1 ha
    obtain ⟨m, hm, ha⟩ := except_bind_ok.1 ha
    obtain ⟨vs, -, ha⟩ := except_bind_ok.1 ha
    obtain ⟨rfl, -⟩ := Prod.mk.inj (except_pure_ok.1 ha)
    exact Or.inr ⟨hd, m, openedModel_ok hm, hj⟩

/-- **`edit`** writes. -/
lemma edit_ok (h : O.edit args s = .ok out s') : One args "write" s s' := by
  obtain ⟨⟨model, recordId, values⟩, s₁, hp, h⟩ := bind_ok.1 h
  obtain ⟨ha, rfl⟩ := peek_ok.1 hp
  obtain ⟨⟨⟩, s₂, hw, h⟩ := bind_ok.1 h
  obtain ⟨-, hj⟩ := logged_ok.1 hw
  obtain ⟨-, rfl⟩ := peek_ok.1 h
  obtain ⟨⟨⟩, -, ha⟩ := except_bind_ok.1 ha
  obtain ⟨m, hm, ha⟩ := except_bind_ok.1 ha
  obtain ⟨vs, -, ha⟩ := except_bind_ok.1 ha
  obtain ⟨i, -, ha⟩ := except_bind_ok.1 ha
  obtain ⟨rfl, -⟩ := Prod.mk.inj (except_pure_ok.1 ha)
  exact ⟨m, openedModel_ok hm, hj⟩

lemma dropArgs_ok {db : σ} {model : String} {recordId : ℤ} {name : Value} {affected : List Value}
    (h : O.dropArgs db args = .ok (model, recordId, name, affected)) : args.get "model" = .str model ∧
      findAffectedRelations (O.env db) (O.fields model) recordId = .ok affected := by
  obtain ⟨⟨⟩, -, h⟩ := except_bind_ok.1 h
  obtain ⟨m, hm, h⟩ := except_bind_ok.1 h
  obtain ⟨i, -, h⟩ := except_bind_ok.1 h
  obtain ⟨n, -, h⟩ := except_bind_ok.1 h
  obtain ⟨found, hf, h⟩ := except_bind_ok.1 h
  have hpair := except_pure_ok.1 h
  simp only [Prod.mk.injEq] at hpair
  obtain ⟨rfl, rfl, -, rfl⟩ := hpair
  exact ⟨openedModel_ok hm, hf⟩

/-- **`drop`** deletes. -/
lemma drop_ok (h : O.drop args s = .ok out s') : One args "unlink" s s' := by
  obtain ⟨⟨model, recordId, name, affected⟩, s₁, hp, h⟩ := bind_ok.1 h
  obtain ⟨ha, rfl⟩ := peek_ok.1 hp
  obtain ⟨⟨⟩, s₂, hw, h⟩ := bind_ok.1 h
  obtain ⟨-, hj⟩ := logged_ok.1 hw
  obtain ⟨-, rfl⟩ := pure_ok.1 h
  exact ⟨model, (dropArgs_ok ha).1, hj⟩

/-- The method that is invoked has another name than the tool. -/
lemma invocation_ne_run {py : Builtins} {env : Env} {odoo : Odoo} {model : String}
    {v recordIds args kwargs : Value} {inv : Invocation}
    (h : Tools.run py env odoo model v recordIds args kwargs = .ok inv) : inv.method ≠ "run" := by
  cases inv with
  | call m name ids posArgs kwArgs =>
    obtain ⟨-, -, -, -, -, hc, hg, -⟩ := run_call_iff.1 h
    rintro rfl
    exact (hg.called hc).orm (by decide)
  | post m id kw => simp [Invocation.method]

/-- **`run`** invokes a method. -/
lemma run_ok (h : O.run args s = .ok out s') : ∃ method, method ≠ "run" ∧ One args method s s' := by
  obtain ⟨⟨model, inv⟩, s₁, hp, h⟩ := bind_ok.1 h
  obtain ⟨ha, rfl⟩ := peek_ok.1 hp
  obtain ⟨raw, s₂, hi, h⟩ := bind_ok.1 h
  obtain ⟨-, hj⟩ := logged_ok.1 hi
  obtain ⟨-, rfl⟩ := pure_ok.1 h
  obtain ⟨⟨⟩, -, ha⟩ := except_bind_ok.1 ha
  obtain ⟨m, hm, ha⟩ := except_bind_ok.1 ha
  obtain ⟨inv', hrun, ha⟩ := except_bind_ok.1 ha
  obtain ⟨rfl, rfl⟩ := Prod.mk.inj (except_pure_ok.1 ha)
  exact ⟨inv'.method, invocation_ne_run hrun, m, modelArg_ok hm, hj⟩

/-! ### Batches -/

/-- A tool of a batch does one operation, or it is a dry run. -/
lemma tool_ok {name : String} (h : O.tool name args s = .ok out s') :
    (name = "add" ∧ Dry args ∧ s' = s ∧ O.shown s.1 args = .ok out) ∨
      (¬ (name = "add" ∧ Dry args) ∧ ∃ p, s'.2 = s.2 ++ [p]) := by
  have hone : ∀ {operation}, One args operation s s' → ∃ p, s'.2 = s.2 ++ [p] :=
    fun ⟨model, _, hj⟩ => ⟨_, hj⟩
  unfold Orm.tool at h
  split at h
  · exact (add_ok h).imp (fun hd => ⟨rfl, hd⟩) fun ⟨hd, hj⟩ => ⟨fun hn => hd hn.2, hone hj⟩
  · exact Or.inr ⟨by simp, hone (edit_ok h)⟩
  · exact Or.inr ⟨by simp, hone (drop_ok h)⟩
  · rename_i hne _ _
    obtain ⟨method, -, hj⟩ := run_ok h
    exact Or.inr ⟨fun hn => hne hn.1, hone hj⟩

/-- **An operation of a batch** does something unless it is a dry run. -/
lemma runBatchOp_done {op : Value} {named : Dict} {index : ℕ}
    (h : runBatchOp O.tool O.py.repr op named index s = .ok out s') :
    (∃ args, O.DryRun op named index args ∧ s' = s ∧ O.shown s.1 args = .ok out) ∨
      ((∀ args, ¬ O.DryRun op named index args) ∧ ∃ p, s'.2 = s.2 ++ [p]) := by
  unfold runBatchOp at h
  cases op with
  | dict o =>
    obtain ⟨tool, s₁, hp, h⟩ := bind_ok.1 h
    obtain ⟨ht, rfl⟩ := peek_ok.1 hp
    obtain ⟨filled, s₂, hp, h⟩ := bind_ok.1 h
    obtain ⟨hf, rfl⟩ := peek_ok.1 hp
    obtain ⟨args, s₃, hp, h⟩ := bind_ok.1 h
    obtain ⟨hargs, rfl⟩ := peek_ok.1 hp
    obtain ⟨htool, -⟩ := allowedTool_ok ht
    obtain rfl := argsObject_ok hargs
    rcases tool_ok h with ⟨rfl, hd, hs, hshown⟩ | ⟨hnd, hp⟩
    · exact Or.inl ⟨args, ⟨o, rfl, htool, hf, hd⟩, hs, hshown⟩
    · refine Or.inr ⟨?_, hp⟩
      rintro args' ⟨o', he, htool', hf', hd⟩
      obtain rfl := Value.dict.inj he
      obtain rfl := Value.str.inj (htool.symm.trans htool')
      obtain rfl := Value.dict.inj (Except.ok.inj (hf.symm.trans hf'))
      exact hnd ⟨rfl, hd⟩
  | _ => cases h

/-- **The loop** only adds to the journal, at most one entry for each operation, and adds nothing exactly when
every operation is a dry run. -/
lemma runOps_done {ops results outs : List Value} {index : ℕ} {named : Dict}
    (h : runOps O.tool O.py.repr ops index named results s = .ok outs s') :
    ∃ ps, s'.2 = s.2 ++ ps ∧ ps.length ≤ ops.length ∧ (ps = [] ↔ O.DryRuns s.1 ops index named) := by
  induction ops generalizing index named results s with
  | nil =>
    obtain ⟨-, rfl⟩ := pure_ok.1 h
    exact ⟨[], (List.append_nil _).symm, le_refl _, by simp [Orm.DryRuns]⟩
  | cons op ops ih =>
    obtain ⟨out, s₁, hop, h⟩ := bind_ok.1 h
    obtain ⟨named', s₂, hp, h⟩ := bind_ok.1 h
    obtain ⟨hn, rfl⟩ := peek_ok.1 hp
    obtain ⟨ps, hps, hlen, hdry⟩ := ih h
    unfold Orm.DryRuns
    rw [List.length_cons]
    rcases runBatchOp_done hop with ⟨args, hd, rfl, hshown⟩ | ⟨hnd, p, hp⟩
    · refine ⟨ps, hps, by omega, ?_⟩
      rw [hdry]
      constructor
      · intro hrest
        refine ⟨args, hd, fun out' named'' hshown' hn' => ?_⟩
        obtain rfl := Except.ok.inj (hshown.symm.trans hshown')
        rwa [← Except.ok.inj (hn.symm.trans hn')]
      · rintro ⟨args', ⟨o', ho', ht', hf', hd'⟩, hrest⟩
        obtain ⟨o, ho, ht, hf, -⟩ := hd
        obtain rfl := Value.dict.inj (ho.symm.trans ho')
        obtain rfl := Value.dict.inj (Except.ok.inj (hf.symm.trans hf'))
        exact hrest out named' hshown hn
    · refine ⟨p :: ps, ?_, ?_, ?_⟩
      · rw [hps, hp, List.append_assoc, List.singleton_append]
      · rw [List.length_cons]
        omega
      · refine iff_of_false (List.cons_ne_nil _ _) ?_
        rintro ⟨args, hd, -⟩
        exact hnd args hd

/-- The operations of a batch. -/
def operationsOf (args : Dict) : List Value := (args.get "operations").items

/-- **A pipeline** does at most the operations of its batch, and nothing exactly when each of them is a dry run. -/
theorem pipeline_done (h : O.pipeline args s = .ok out s') : ∃ ps, s'.2 = s.2 ++ ps ∧
    ps.length ≤ (operationsOf args).length ∧ (ps = [] ↔ O.DryRuns s.1 (operationsOf args) 0 []) := by
  obtain ⟨⟨⟩, s₁, hb, h⟩ := bind_ok.1 h
  obtain ⟨-, rfl⟩ := peek_ok.1 hb
  unfold operationsOf
  generalize args.get "operations" = operations at h ⊢
  unfold Tools.pipeline at h
  split at h
  · rename_i op ops
    split_ifs at h
    · cases h
    · obtain ⟨results, s₂, hr, h⟩ := bind_ok.1 h
      obtain ⟨-, rfl⟩ := pure_ok.1 h
      exact runOps_done (savepoint_ok.1 hr)
  · cases h

/-- The keywords of a pipeline do not name a model. -/
lemma pipeline_keywords (h : O.pipeline args s = .ok out s') : args.get "model" = .none := by
  obtain ⟨⟨⟩, s₁, hb, -⟩ := bind_ok.1 h
  obtain ⟨hb, -⟩ := peek_ok.1 hb
  unfold bindKeywords bindArguments at hb
  simp only at hb
  split at hb
  · cases hb
  · rename_i hkeys
    have hnone : args.lookup "model" = none := by
      rw [List.lookup_eq_none_iff]
      intro p hp
      have hmem := List.find?_eq_none.1 hkeys p.1 (List.mem_map_of_mem hp)
      rw [bne_iff_ne]
      intro he
      rw [← he] at hmem
      simp at hmem
    unfold Dict.get
    rw [hnone]
    rfl

end Done

end AdvMcp.Tools
