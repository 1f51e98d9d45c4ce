import AdvMcp.Read.Orm

/-!
# The arguments of the read tools

How `models/read_tools.py` reads its arguments: the field list, the domain and the page, each in any
form that a caller may send.
-/

namespace AdvMcp.Read

open AdvMcp.Py

def defaultLimit : ℤ := 10

def maxLimit : ℤ := 100

def maxOffsetPages : ℤ := 1000

/-- `_ALL_FIELDS_SENTINEL` -/
def allFieldsSentinel : String := "__all__"

section Arguments

variable (py : Builtins) (env : Env)

/-- `_cfg_int` -/
def cfgInt (key : String) (default : ℤ) : ℤ :=
  match env.param key with
  | none => default
  | some val =>
    match py.int (.str val) with
    | .ok n => n
    | .error _ => default

/-- `_limit_bounds` -/
def limitBounds : ℤ × ℤ :=
  let lo := cfgInt py env "adv_mcp.default_limit" defaultLimit
  let hi := cfgInt py env "adv_mcp.max_limit" maxLimit
  let lo := if 0 < lo then lo else defaultLimit
  let hi := if 0 < hi then hi else maxLimit
  (min lo hi, hi)

/-- `_parse_list_arg` -/
def parseListArg (text kind : String) : Except PyExc Value :=
  match py.loads text with
  | .value v => .ok v
  | .raised e => .error e
  | .malformed =>
    match py.literalEval text with
    | .value v => .ok v
    | .raised e => .error e
    | .malformed =>
      .error (.of .userError ("Invalid " ++ kind ++ ": expected a list, got " ++ prefixText 100 text))

/-! ### Fields -/

/-- `list(fields) or None`, of a list. -/
def fieldList : Value → Except PyExc (Option (List Value))
  | .list [] => .ok none
  | .list fields => .ok (some fields)
  | _ => .error (.of .userError "Fields must be a list of field names.")

/-- `_coerce_fields` -/
def coerceFields : Value → Except PyExc (Option (List Value))
  | .none => .ok none
  | .str s =>
    let text := strip s
    if text = "" then .ok none
    else do fieldList (← parseListArg py text "fields")
  | fields => fieldList fields

/-- The method of `_resolve_fields`, with the fields to read. -/
inductive Selection where
  | smartDefaults (names : List String)
  | all
  | explicit (fields : List Value)

def Selection.toRead : Selection → Option (List Value)
  | .smartDefaults names => some (names.map .str)
  | .all => none
  | .explicit fields => some fields

def Selection.isExplicit : Selection → Bool
  | .explicit _ => true
  | _ => false

/-- `_resolve_fields` -/
def resolveFields (fields : Value) (schema : Schema) : Except PyExc Selection := do
  match ← coerceFields py fields with
  | none =>
    let maxF := cfgInt py env "adv_mcp.max_smart_fields" defaultMaxSmartFields
    return .smartDefaults (getSmartDefaultFields py.lower schema maxF)
  | some [.str name] => return if name = allFieldsSentinel then .all else .explicit [.str name]
  | some fields => return .explicit fields

/-! ### The page -/

/-- `int(v)`, with `raised` in place of a `TypeError` or a `ValueError`. -/
def intElse (v : Value) (raised : PyExc) : Except PyExc ℤ :=
  match py.int v with
  | .ok n => .ok n
  | .error e => if e.cls ∈ [.typeError, .valueError] then .error raised else .error e

/-- `int(v)`, with a `TypeError` or a `ValueError` reported as a bad argument. -/
def intArg (v : Value) (message : String) : Except PyExc ℤ := intElse py v (.of .userError message)

def clampLimit (limit : Value) : Except PyExc ℤ :=
  let (lo, hi) := limitBounds py env
  if !limit.truthy then .ok lo
  else do
    let n ← intArg py limit "'limit' must be an integer."
    return if n ≤ 0 then lo else min n hi

/-- The `UnboundLocalError` of a local variable that is read before it is assigned. -/
def unboundLocal (name : String) : PyExc :=
  .of .exception ("cannot access local variable '" ++ name ++ "' where it is not associated with a value")

def clampOffset (offset : Value) : Except PyExc ℤ := do
  -- `_, hi = ...` makes `_` a local variable, which the message of the `UserError` reads before that line.
  let n ← intElse py (if offset.truthy then offset else .int 0) (unboundLocal "_")
  return min (max 0 n) ((limitBounds py env).2 * maxOffsetPages)

/-- `_page_hints` -/
def pageHints (tool : String) (offset limit count total : ℤ) : Option String × Option String :=
  let hint := fun o : ℤ => tool ++ " with offset=" ++ toString o ++ ", limit=" ++ toString limit
  (if offset + count < total then some (hint (offset + limit)) else none,
    if 0 < offset then some (hint (max 0 (offset - limit))) else none)

/-! ### The domain -/

/-- An item of `_unescape_domain`. -/
def unescapeCondition : Value → Value
  | .list [field, .str op, val] => .list [field, .str (py.unescape op), val]
  | item => item

def unescapeDomain (domain : List Value) : List Value := domain.map (unescapeCondition py)

/-- `_coerce_domain` -/
def coerceDomain : Value → Except PyExc (List Value)
  | .none => .ok []
  | .list clauses => .ok (unescapeDomain py clauses)
  | .str s =>
    let text := strip s
    if text = "" then .ok []
    else do
      match ← parseListArg py text "domain" with
      | .list clauses => return unescapeDomain py clauses
      | _ => throw (.of .userError "Domain must be a list.")
  | _ => .error (.of .userError "Domain must be a list.")

/-- The clauses of the domain argument, in `_build_filter`: any other value counts as no clause. -/
def domainClauses : Value → Except PyExc (List Value)
  | .str s => do
    match ← parseListArg py (strip s) "domain" with
    | .list clauses => return clauses
    | _ => throw (.of .userError "Domain must be a list.")
  | domain => return domain.items

/-- The clauses of the `spec` argument. -/
def specClauses : Value → List Value
  | .dict kvs => kvs.map fun p => .list [.str p.1, .str "=", p.2]
  | _ => []

/-- `_build_filter` -/
def buildFilter (domain spec : Value) : Except PyExc (List Value) := do
  let base ← domainClauses py domain
  return unescapeDomain py base ++ specClauses spec

end Arguments

end AdvMcp.Read
