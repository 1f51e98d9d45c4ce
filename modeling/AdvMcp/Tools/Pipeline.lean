import AdvMcp.Tools.Refs

/-!
# The pipeline

`pipeline` and `_run_batch_op` of `models/write_tools.py`, over a database of any type `σ`, with any
behaviour of the four tools.

* `runOps` — the loop: it runs the operations in order and collects the results and the named ones;
* `pipeline` — the checks of the list, and the loop under a savepoint;
* `Sequential` — what it should be: the tools one after another, each with its arguments filled from the
  results before it.

`pipeline_sequential` says that the pipeline is the sequential run or leaves the database as it was.
-/

namespace AdvMcp.Tools

open AdvMcp.Lib AdvMcp.Py

def batchAllowed : List String := ["add", "edit", "drop", "run"]

def batchMaxOps : ℕ := 20

/-- `_result` -/
def result (text : String) (structured : Value) : Value :=
  .dict [("content", .list [.dict [("type", .str "text"), ("text", .str text)]]),
    ("structuredContent", structured)]

section Pipeline

variable {σ : Type} (tools : String → Dict → EStateM PyExc σ Value) (repr : Value → String)

/-- `op.get("args") or {}` -/
def argsOf (op : Dict) : Value :=
  let args := op.get "args"
  if args.truthy then args else .dict []

/-- `tool not in _BATCH_ALLOWED`: a set cannot be asked for a list or an object. -/
def allowedTool (index : ℕ) : Value → Except PyExc String
  | .str tool =>
    if tool ∈ batchAllowed then .ok tool
    else .error (.of .userError ("Op " ++ toString index ++ ": '" ++ tool ++ "' not allowed in batch."))
  | .list _ => .error (.of .typeError "unhashable type: 'list'")
  | .dict _ => .error (.of .typeError "unhashable type: 'dict'")
  | v => .error (.of .userError
      ("Op " ++ toString index ++ ": '" ++ v.pyStr repr ++ "' not allowed in batch."))

/-- `isinstance(args, dict)` -/
def argsObject (index : ℕ) : Value → Except PyExc Dict
  | .dict args => .ok args
  | _ => .error (.of .userError ("Op " ++ toString index ++ ": 'args' must be an object."))

/-- `_run_batch_op` -/
def runBatchOp (op : Value) (named : Dict) (index : ℕ) : EStateM PyExc σ Value :=
  match op with
  | .dict op => do
    let tool ← peek fun _ => allowedTool repr index (Dict.get op "tool")
    let args ← peek fun _ => resolveRefs repr named index (argsOf op)
    let args ← peek fun _ => argsObject index args
    tools tool args
  | v => throw (noGet v)

/-- `op.get("id")` -/
def opId : Value → Value
  | .dict op => Dict.get op "id"
  | _ => .none

/-- `if op_id: named[op_id] = result`.  A reference is a string, so only such keys are kept; a list or an
object is no key. -/
def nameResult (id result : Value) (named : Dict) : Except PyExc Dict :=
  if !id.truthy then .ok named
  else match id with
    | .str name => .ok (named.set name result)
    | .list _ => .error (.of .typeError "unhashable type: 'list'")
    | .dict _ => .error (.of .typeError "unhashable type: 'dict'")
    | _ => .ok named

/-- An entry of the results. -/
def entry (r : Value × Value) : Value := .dict [("id", r.1), ("result", r.2)]

/-- The loop of `pipeline`. -/
def runOps : List Value → ℕ → Dict → List Value → EStateM PyExc σ (List Value)
  | [], _, _, results => pure results
  | op :: ops, index, named, results => do
    let result ← runBatchOp tools repr op named index
    let named ← peek fun _ => nameResult (opId op) result named
    runOps ops (index + 1) named (results ++ [entry (opId op, result)])

/-- The reply of a batch. -/
def batchResult (results : List Value) : Value :=
  result ("Batch completed: " ++ toString results.length ++ " operations")
    (.dict [("results", .list results), ("count", .int results.length)])

/-- `pipeline` -/
def pipeline (operations : Value) : EStateM PyExc σ Value :=
  match operations with
  | .list (op :: ops) =>
    if batchMaxOps < (op :: ops).length then
      throw (.of .userError ("Too many operations: " ++ toString (op :: ops).length ++ " (max " ++
        toString batchMaxOps ++ ")."))
    else do
      let results ← savepoint (runOps tools repr (op :: ops) 0 [] [])
      return batchResult results
  | _ => throw (.of .userError "'operations' must be a non-empty list.")

end Pipeline

/-! ### The sequential run -/

/-- The result of the latest of the earlier operations with that id. -/
def latest (earlier : List (Value × Value)) (name : String) : Value :=
  ((earlier.reverse.find? fun r => r.1.truthy && r.1.str? == some name).map (·.2)).getD .none

/-- The value of a reference: a field of the latest earlier result with its name. -/
def Latest (earlier : List (Value × Value)) (r : Ref) (v : Value) : Prop :=
  exposedField r.field (latest earlier r.name) = some v

/-- `id` can be a key, or is not used as one. -/
def Keyable (id : Value) : Prop :=
  id.truthy = true → (∀ xs, id ≠ .list xs) ∧ ∀ kvs, id ≠ .dict kvs

/-- The tools one after another: `Sequential tools repr earlier ops db results db'` runs `ops` from `db` to
`db'`, after the operations that gave `earlier`, and gives the ids with their `results`. -/
inductive Sequential {σ : Type} (tools : String → Dict → EStateM PyExc σ Value) (repr : Value → String) :
    List (Value × Value) → List Value → σ → List (Value × Value) → σ → Prop
  | nil (earlier : List (Value × Value)) (db : σ) : Sequential tools repr earlier [] db [] db
  | cons {earlier rs : List (Value × Value)} {op args : Dict} {ops : List Value} {tool : String}
    {result : Value} {db db' db'' : σ} :
    op.get "tool" = .str tool → tool ∈ batchAllowed →
    Filled repr (Latest earlier) (argsOf op) (.dict args) →
    tools tool args db = .ok result db' → Keyable (op.get "id") →
    Sequential tools repr (earlier ++ [(op.get "id", result)]) ops db' rs db'' →
    Sequential tools repr earlier (.dict op :: ops) db ((op.get "id", result) :: rs) db''

section Steps

variable {σ : Type} {tools : String → Dict → EStateM PyExc σ Value} {repr : Value → String}
  {named named' : Dict} {earlier : List (Value × Value)} {index : ℕ}

/-! ### The named results -/

/-- The dictionary of the loop holds the latest result of every name. -/
def Names (named : Dict) (earlier : List (Value × Value)) : Prop :=
  ∀ name, named.get name = latest earlier name

lemma Names.found (h : Names named earlier) : Found named = Latest earlier := by
  funext r v
  unfold Found Latest
  rw [h r.name]

/-- The latest result, when one is appended. -/
lemma latest_append (id result : Value) (name : String) : latest (earlier ++ [(id, result)]) name =
    if id.truthy && id.str? == some name then result else latest earlier name := by
  unfold latest
  rw [List.reverse_append, List.reverse_singleton, List.singleton_append, List.find?_cons]
  split_ifs with h
  · rw [h]
    rfl
  · rw [Bool.not_eq_true] at h
    rw [h]

/-- A result is kept under its name, and the other names keep theirs. -/
lemma nameResult_ok {id result : Value} (h : Names named earlier)
    (hn : nameResult id result named = .ok named') :
    Keyable id ∧ Names named' (earlier ++ [(id, result)]) := by
  unfold nameResult at hn
  split_ifs at hn with ht
  · -- no id
    obtain rfl := Except.ok.inj hn
    have hf : id.truthy = false := by simpa using ht
    refine ⟨fun ht' => ?_, fun name => ?_⟩
    · rw [hf] at ht'
      cases ht'
    · rw [latest_append, hf]
      exact h name
  · have ht' : id.truthy = true := by simpa using ht
    cases id with
    | str name =>
      obtain rfl := Except.ok.inj hn
      refine ⟨fun _ => ⟨by simp, by simp⟩, fun name' => ?_⟩
      rw [latest_append, ht']
      by_cases he : name' = name
      · subst he
        rw [Dict.get_set]
        simp [Value.str?]
      · rw [Dict.get_set_of_ne _ he, h name']
        simp [Value.str?, Ne.symm he]
    | list xs => cases hn
    | dict kvs => cases hn
    | _ =>
      obtain rfl := Except.ok.inj hn
      refine ⟨fun _ => ⟨by simp, by simp⟩, fun name => ?_⟩
      rw [latest_append, h name]
      simp [Value.str?]

lemma nameResult_of_keyable {id : Value} (result : Value) (named : Dict) (h : Keyable id) :
    ∃ named', nameResult id result named = .ok named' := by
  unfold nameResult
  split_ifs with ht
  · exact ⟨_, rfl⟩
  · obtain ⟨hl, hd⟩ := h (by simpa using ht)
    cases id with
    | list xs => exact absurd rfl (hl xs)
    | dict kvs => exact absurd rfl (hd kvs)
    | _ => exact ⟨_, rfl⟩

/-! ### One operation -/

lemma allowedTool_ok {v : Value} {tool : String} (h : allowedTool repr index v = .ok tool) :
    v = .str tool ∧ tool ∈ batchAllowed := by
  unfold allowedTool at h
  cases v with
  | str s =>
    simp only at h
    split_ifs at h with hs
    obtain rfl := Except.ok.inj h
    exact ⟨rfl, hs⟩
  | _ => cases h

lemma argsObject_ok {v : Value} {args : Dict} (h : argsObject index v = .ok args) : v = .dict args := by
  unfold argsObject at h
  cases v with
  | dict kvs => rw [Except.ok.inj h]
  | _ => cases h

/-- An operation runs its tool on its filled arguments. -/
lemma runBatchOp_iff (h : Names named earlier) {op result : Value} {db db' : σ} :
    runBatchOp tools repr op named index db = .ok result db' ↔
      ∃ o tool args, op = .dict o ∧ Dict.get o "tool" = .str tool ∧ tool ∈ batchAllowed ∧
        Filled repr (Latest earlier) (argsOf o) (.dict args) ∧ tools tool args db = .ok result db' := by
  unfold runBatchOp
  cases op with
  | dict o =>
    simp only [bind_ok, peek_ok, resolveRefs_iff, h.found]
    constructor
    · rintro ⟨tool, s, ⟨ht, rfl⟩, args, s, ⟨hf, rfl⟩, d, s, ⟨hd, rfl⟩, hcall⟩
      obtain ⟨htool, hta⟩ := allowedTool_ok ht
      obtain rfl := argsObject_ok hd
      exact ⟨o, tool, d, rfl, htool, hta, hf, hcall⟩
    · rintro ⟨o', tool, d, he, htool, hta, hf, hcall⟩
      obtain rfl := Value.dict.inj he
      refine ⟨tool, db, ⟨?_, rfl⟩, .dict d, db, ⟨hf, rfl⟩, d, db, ⟨rfl, rfl⟩, hcall⟩
      rw [htool]
      exact if_pos hta
  | _ =>
    constructor
    · intro hr
      cases hr
    · rintro ⟨o, tool, args, he, -⟩
      cases he

/-! ### The loop -/

/-- **The loop** runs the operations one after another. -/
theorem runOps_iff (h : Names named earlier) {ops results out : List Value} {db db' : σ} :
    runOps tools repr ops index named results db = .ok out db' ↔
      ∃ rs, Sequential tools repr earlier ops db rs db' ∧ out = results ++ rs.map entry := by
  induction ops generalizing index named earlier results db with
  | nil =>
    unfold runOps
    rw [pure_ok]
    constructor
    · rintro ⟨rfl, rfl⟩
      exact ⟨[], .nil _ _, (List.append_nil _).symm⟩
    · rintro ⟨rs, hs, rfl⟩
      cases hs
      exact ⟨(List.append_nil _).symm, rfl⟩
  | cons op ops ih =>
    unfold runOps
    simp only [bind_ok, peek_ok, runBatchOp_iff h]
    constructor
    · rintro ⟨result, db₁, ⟨o, tool, args, rfl, ht, hta, hf, hcall⟩, named', db₂, ⟨hn, rfl⟩, hrest⟩
      obtain ⟨hk, hnames⟩ := nameResult_ok h hn
      obtain ⟨rs, hs, rfl⟩ := (ih hnames).1 hrest
      refine ⟨(opId (.dict o), result) :: rs, .cons ht hta hf hcall hk hs, ?_⟩
      rw [List.map_cons, List.append_assoc, List.singleton_append]
    · rintro ⟨rs, hs, rfl⟩
      cases hs with
      | @cons _ rs o args _ tool result _ db₁ _ ht hta hf hcall hk hs =>
        obtain ⟨named', hn⟩ := nameResult_of_keyable result named hk
        obtain ⟨-, hnames⟩ := nameResult_ok h hn
        refine ⟨result, db₁, ⟨o, tool, args, rfl, ht, hta, hf, hcall⟩, named', db₁, ⟨hn, rfl⟩, ?_⟩
        refine (ih hnames).2 ⟨rs, hs, ?_⟩
        rw [List.map_cons, List.append_assoc, List.singleton_append]
        rfl

end Steps

/-! ### The pipeline -/

/-- **The pipeline.**  Whatever the tools do: if it raises, the database is as it was before; and it returns
exactly when it is given at most twenty operations, one at least, that can be run one after another, and
then the database and the results are those of that run. -/
theorem pipeline_sequential {σ : Type} (tools : String → Dict → EStateM PyExc σ Value)
    (repr : Value → String) (operations : Value) (db : σ) :
    (∀ e db', pipeline tools repr operations db = .error e db' → db' = db) ∧
    ∀ out db', pipeline tools repr operations db = .ok out db' ↔
      ∃ ops rs, operations = .list ops ∧ ops ≠ [] ∧ ops.length ≤ batchMaxOps ∧
        Sequential tools repr [] ops db rs db' ∧ out = batchResult (rs.map entry) := by
  unfold pipeline
  split
  · rename_i op ops
    split_ifs with hlen
    · refine ⟨fun e db' h => (EStateM.Result.error.inj h).2.symm, fun out db' => ?_⟩
      constructor
      · intro h
        cases h
      · rintro ⟨ops', rs, he, -, hle, -⟩
        obtain rfl := Value.list.inj he
        exact absurd hlen (not_lt.2 hle)
    · refine ⟨fun e db' h => ?_, fun out db' => ?_⟩
      · rcases bind_error.1 h with h | ⟨results, t, -, h⟩
        · exact (savepoint_error.1 h).1
        · cases h
      · have h0 : Names [] [] := fun name => rfl
        simp only [bind_ok, savepoint_ok, pure_ok, runOps_iff h0, List.nil_append]
        constructor
        · rintro ⟨results, t, ⟨rs, hs, rfl⟩, rfl, rfl⟩
          exact ⟨_, rs, rfl, List.cons_ne_nil _ _, not_lt.1 hlen, hs, rfl⟩
        · rintro ⟨ops', rs, he, -, -, hs, rfl⟩
          obtain rfl := Value.list.inj he
          exact ⟨_, db', ⟨rs, hs, rfl⟩, rfl, rfl⟩
  · rename_i hne
    refine ⟨fun e db' h => (EStateM.Result.error.inj h).2.symm, fun out db' => ?_⟩
    constructor
    · intro h
      cases h
    · rintro ⟨ops, rs, he, h0, -⟩
      obtain ⟨op, ops', rfl⟩ := List.exists_cons_of_ne_nil h0
      exact absurd he (hne op ops')

end AdvMcp.Tools
