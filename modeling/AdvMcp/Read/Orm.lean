import Mathlib.Tactic.Simps.Basic
import AdvMcp.Access.Lookups
import AdvMcp.Lib.Silent
import AdvMcp.Read.SmartFields

/-!
# The database behind the read tools

What the tools see of Odoo, and the checks of `models/tool_mixin.py` in front of it.

* `Env` — `self.env` for one user: the gateway's tables, and the ORM's answers.  The fields of the records
  are cells, and `read` and the attributes of a record are views of them;
* `resolveModel`, `checkOp`, `browseRecordOrRaise` — the checks.
-/

namespace AdvMcp.Read

open AdvMcp.Py AdvMcp.Access

/-- A field of a record. -/
structure Cell where
  model : String
  id : ℤ
  field : String
  deriving DecidableEq

/-- `readable` lists the fields of a model that the user may read, in order; `checkRead` and `checkAttr`
are the exceptions with which the ORM refuses to read fields and an attribute.  Which records a domain
selects is given with the database: no cell is read for it. -/
structure Env where
  registry : Registry
  models : String → Bool
  checkAccess : String → String → Option PyExc
  fieldsGet : String → List String → Schema
  readable : String → List String
  present : String → ℤ → Bool
  value : Cell → Value
  checkRead : String → List ℤ → List String → Option PyExc
  checkAttr : Cell → Option PyExc
  /-- the exception for something that is no field name -/
  invalidField : String → Value → PyExc
  /-- `search(domain, offset, limit, order)` -/
  search : String → List Value → ℤ → ℤ → Value → Except PyExc (List ℤ)
  searchCount : String → List Value → Except PyExc ℤ
  /-- a parameter of `ir.config_parameter` -/
  param : String → Option String
  /-- `head + (body or "")[:60].replace("<br>", " ").strip()`, where `body` is `Markup` -/
  excerpt : String → Value → String

/-- The same database with other values in its fields. -/
@[simps]
def Env.withValue (env : Env) (value : Cell → Value) : Env := { env with value := value }

/-- Raise the exception, if there is one. -/
def orRaise : Option PyExc → Except PyExc Unit
  | none => .ok ()
  | some e => .error e

/-! ### Reading -/

section Orm

variable (env : Env)

/-- The names that `read(fields)` reads; no fields are all the fields. -/
def Env.fieldNames (model : String) : Option (List Value) → Except PyExc (List String)
  | none => .ok (env.readable model)
  | some [] => .ok (env.readable model)
  | some fields => fields.mapM fun f =>
      match f.str? with
      | some name => .ok name
      | none => .error (env.invalidField model f)

/-- One record as `read` returns it: the id, then each name once. -/
def Env.row (model : String) (names : List String) (i : ℤ) : Dict :=
  ("id", .int i) :: (names.eraseDups.filter (· ≠ "id")).map fun n => (n, env.value ⟨model, i, n⟩)

/-- `browse(ids).read(fields)` -/
def Env.read (model : String) (ids : List ℤ) (fields : Option (List Value)) :
    Except PyExc (List Dict) := do
  let names ← env.fieldNames model fields
  orRaise (env.checkRead model ids names)
  return (ids.filter (env.present model)).map (env.row model names)

/-- `search_read` -/
def Env.searchRead (model : String) (domain : List Value) (fields : Option (List Value))
    (offset limit : ℤ) (order : Value) : Except PyExc (List Dict) := do
  let ids ← env.search model domain offset limit order
  env.read model ids fields

/-- The attribute `name` of a record. -/
def Env.attr (model : String) (i : ℤ) (name : String) : Except PyExc Value := do
  orRaise (env.checkAttr ⟨model, i, name⟩)
  return env.value ⟨model, i, name⟩

end Orm

/-! ### The checks -/

section Checks

variable (py : Builtins) (env : Env)

def resolveModel (model : String) : Except PyExc Unit :=
  if model = "" || !env.models model then .error (.of .userError ("Unknown model: " ++ model))
  else if !isModelAccessible env.registry model then
    .error (.of .accessError ("Model '" ++ model ++ "' is not enabled for Adv MCP access."))
  else .ok ()

def checkOp (model operation : String) : Except PyExc Unit :=
  if !verifyModelOperation env.registry py.lower model operation then
    .error (.of .accessError ("Operation '" ++ operation ++ "' is not allowed on model '" ++ model ++
      "' via Adv MCP."))
  else orRaise (env.checkAccess model operation)

/-- The id of the record. -/
def browseRecordOrRaise (model : String) (recordId : Value) : Except PyExc ℤ := do
  let i ← py.int recordId
  if env.present model i then return i
  else throw (.of .missingError ("Record not found: " ++ model ++ " with ID " ++ py.str recordId))

variable {py : Builtins} {env : Env} {model : String}

lemma resolveModel_ok : resolveModel env model = .ok () ↔
    model ≠ "" ∧ env.models model = true ∧ isModelAccessible env.registry model = true := by
  unfold resolveModel
  split_ifs with h0 ha
  · simp only [Bool.or_eq_true, decide_eq_true_eq, Bool.not_eq_true'] at h0
    refine iff_of_false (by simp) ?_
    rintro ⟨hne, hm, -⟩
    rcases h0 with h0 | h0
    · exact hne h0
    · rw [hm] at h0
      cases h0
  · refine iff_of_false (by simp) ?_
    rintro ⟨-, -, hacc⟩
    rw [hacc] at ha
    cases ha
  · simp only [Bool.or_eq_true, decide_eq_true_eq, Bool.not_eq_true', not_or, Bool.not_eq_false] at h0
    exact iff_of_true rfl ⟨h0.1, h0.2, by simpa using ha⟩

lemma checkOp_ok {operation : String} (h : checkOp py env model operation = .ok ()) :
    verifyModelOperation env.registry py.lower model operation = true := by
  unfold checkOp at h
  split_ifs at h with hv
  simpa using hv

end Checks

end AdvMcp.Read
