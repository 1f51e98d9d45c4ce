import AdvMcp.Read.Arguments
import AdvMcp.Read.Formatters
import AdvMcp.Read.UriSchema

/-!
# The tools that read records

`get` (the method `fetch`), `search`, `compare` and `explain` of `models/read_tools.py`.  A model is named
by a string: every other value is refused before anything is read.
-/

namespace AdvMcp.Read

open AdvMcp.Py

def schemaFieldAttributes : List String :=
  ["type", "string", "required", "readonly", "relation", "selection", "store", "searchable", "digits",
    "relation_field"]

def binaryFieldTypes : List String := ["binary", "image"]

def defaultMaxRelatedItems : ℤ := 3

/-- `_result` -/
def result (text : String) (structured : Value) : Value :=
  .dict [("content", .list [.dict [("type", .str "text"), ("text", .str text)]]),
    ("structuredContent", structured)]

/-- `_drop_sensitive` -/
def dropSensitive (lo : Lower) (record : Dict) : Dict := record.filter fun p => !isSensitiveFieldName lo p.1

/-- `_binary_names` -/
def binaryNames (schema : Schema) : List String :=
  (schema.map (·.1)).filter fun n => fieldType (metaOf schema n) ∈ binaryFieldTypes

/-- `rows[0]` -/
def firstRow : List Dict → Except PyExc Dict
  | row :: _ => .ok row
  | [] => .error (.of .exception "list index out of range")

/-- The ids among the items. -/
def idsOf (items : List Value) : List ℤ := items.filterMap fun
  | .int n => some n
  | _ => none

section Capabilities

variable (py : Builtins) (env : Env)

/-! ### `get` -/

/-- What depth expansion puts in the place of a many2one. -/
def inlineRelated (relModel : String) (relId : ℤ) (val : Value) (depth : ℤ) : Except PyExc Value := do
  checkOp py env relModel "read"
  if depth = 1 then
    return .dict [("id", .int relId), ("display_name", ← env.attr relModel relId "display_name")]
  else
    match ← env.read relModel [relId] none with
    | row :: _ => return .dict row
    | [] => return val

/-- The related record that depth expansion follows: its model and id.  `read` gives a many2one as the id,
an integer, and the name. -/
def followed (info : Dict) : Value → Option (String × ℤ)
  | .list (.int relId :: _) =>
    match info.get "relation" with
    | .str relModel => if relModel = "" || relId = 0 then none else some (relModel, relId)
    | _ => none
  | _ => none

/-- One step of the loop of `_expand_relations`; the loop assigns to the field that it is at. -/
def expandRelation (schema : Schema) (depth : ℤ) (field : String × Value) :
    Except PyExc (String × Value) :=
  let info := metaOf schema field.1
  if fieldType info ≠ "many2one" then .ok field
  else match field.2 with
    | .list [] => .error (.of .exception "tuple index out of range")
    | .list [_] => .error (.of .exception "tuple index out of range")
    | val =>
      match followed info val with
      | none => .ok field
      | some (relModel, relId) =>
        match inlineRelated py env relModel relId val depth with
        | .ok v => .ok (field.1, v)
        | .error e => if e.isUserError then .ok field else .error e

def expandRelations (data : Dict) (schema : Schema) (depth : ℤ) : Except PyExc Dict :=
  if depth ≤ 0 then .ok data else data.mapM (expandRelation py env schema depth)

/-- `{**schema[name], "type": "char"}` -/
def asChar (name : String) (schema : Schema) : Schema :=
  schema.map fun p => if p.1 = name then (p.1, p.2.set "type" (.str "char")) else p

/-- One step of `_swap_binary_uris`, on the data and the metadata to render them with. -/
def swapBinaryUri (model : String) (recordId : ℤ) (shown : Dict × Schema) (name : String) :
    Except PyExc (Dict × Schema) :=
  if (shown.1.get name).truthy then do
    let uri ← buildFieldUri py model (.int recordId) name
    return (shown.1.set name (.str uri), asChar name shown.2)
  else .ok shown

/-- `_swap_binary_uris` -/
def swapBinaryUris (model : String) (recordId : ℤ) (data : Dict) (schema : Schema) :
    Except PyExc (Dict × Schema) :=
  (binaryNames schema).foldlM (swapBinaryUri py model recordId) (data, schema)

/-- `_relation_read_ok` -/
def relationReadOk (relation : String) : Except PyExc Bool :=
  match resolveModel env relation >>= fun _ => checkOp py env relation "read" with
  | .ok _ => .ok true
  | .error e => if e.isUserError then .ok false else .error e

/-- The names of the related records. -/
def namesOf (rows : List Dict) : List (Value × Value) :=
  rows.map fun r => (r.get "id", orElse (r.get "display_name") (.str ("id " ++ py.str (r.get "id"))))

/-- One step of `_resolve_related_summaries`. -/
def relatedSummary (schema : Schema) (maxItems : ℤ) (field : String × Value) :
    Except PyExc (Option (String × List (Value × Value))) :=
  let info := metaOf schema field.1
  let relation := ((info.get "relation").str?).getD ""
  let items := field.2.items
  if fieldType info ∉ ["one2many", "many2many"] || relation = "" ||
      !(0 < items.length && items.length ≤ maxItems) then .ok none
  else do
    if ← relationReadOk py env relation then
      match env.read relation (idsOf items) (some [.str "display_name"]) with
      | .ok rows => return some (field.1, namesOf py rows)
      | .error e => if e.cls ∈ [.accessError, .missingError] then return none else throw e
    else return none

def resolveRelatedSummaries (data : Dict) (schema : Schema) (maxItems : ℤ) :
    Except PyExc (List (String × List (Value × Value))) :=
  if maxItems ≤ 0 then .ok []
  else do return (← data.mapM (relatedSummary py env schema maxItems)).reduceOption

/-- `_enabled_relation_models` -/
def enabledRelationModels (data : Dict) (schema : Schema) : Except PyExc (List String) :=
  data.foldlM
    (fun enabled field => do
      let info := metaOf schema field.1
      let rel := ((info.get "relation").str?).getD ""
      if fieldType info ∉ ["one2many", "many2many"] || rel = "" || rel ∈ enabled || !field.2.truthy then
        return enabled
      else if ← relationReadOk py env rel then return enabled ++ [rel]
      else return enabled)
    []

/-- `if method != "explicit": self._drop_sensitive(data)` -/
def keptFields (selection : Selection) (data : Dict) : Dict :=
  if selection.isExplicit then data else dropSensitive py.lower data

/-- The record of `fetch` in front of depth expansion, and the metadata to render it with. -/
def fetchRecord (model : String) (recordId : Value) (selection : Selection) (schema : Schema) :
    Except PyExc (Dict × Schema) := do
  let i ← browseRecordOrRaise py env model recordId
  let data ← firstRow (← env.read model [i] selection.toRead)
  swapBinaryUris py model i (keptFields py selection data) schema

/-- `if depth: self._expand_relations(data, schema, int(depth))` -/
def expandDepth (data : Dict) (schema : Schema) (depth : Value) : Except PyExc Dict :=
  if depth.truthy then do expandRelations py env data schema (← py.int depth) else .ok data

/-- What the text of `fetch` says about the relations of the record. -/
def fetchText (model : String) (schema : Schema) (data : Dict) (renderMeta : Schema) :
    Except PyExc String := do
  let related ← resolveRelatedSummaries py env data schema
    (cfgInt py env "adv_mcp.max_related_items" defaultMaxRelatedItems)
  let enabledRels ← enabledRelationModels py env data schema
  return formatRecord py model data renderMeta 0 related (some enabledRels)

/-- The structured content of `fetch`. -/
def fetchStructured (selection : Selection) (schema : Schema) (data : Dict) : Value :=
  .dict (("record", .dict data) ::
    match selection with
    | .smartDefaults _ => [("metadata", .dict [("fields_returned", .int data.length),
        ("field_selection", .str "smart_defaults"), ("total_available", .int schema.length)])]
    | _ => [])

def fetch (model : String) (recordId fields depth : Value) : Except PyExc Value := do
  resolveModel env model
  checkOp py env model "read"
  let schema := env.fieldsGet model schemaFieldAttributes
  let selection ← resolveFields py env fields schema
  let (data, renderMeta) ← fetchRecord py env model recordId selection schema
  let data ← expandDepth py env data schema depth
  let text ← fetchText py env model schema data renderMeta
  return result text (fetchStructured selection schema data)

/-! ### `search` -/

/-- `_replace_binary_uris_in_rows`, on one field of a row. -/
def replaceBinaryUri (model : String) (row : Dict) (name : String) : Except PyExc Dict :=
  if (row.get "id").truthy && (row.get name).truthy then do
    return row.set name (.str (← buildFieldUri py model (row.get "id") name))
  else .ok row

/-- `_replace_binary_uris_in_rows`, on one row. -/
def replaceBinaryUris (model : String) (schema : Schema) (row : Dict) : Except PyExc Dict :=
  (binaryNames schema).foldlM (replaceBinaryUri py model) row

/-- The rows that `search` finds. -/
def searchRows (model : String) (filterExpr : List Value) (selection : Selection) (limit offset : ℤ)
    (order : Value) : Except PyExc (List Dict) := do
  let rows ← env.searchRead model filterExpr selection.toRead offset limit (orElse order .none)
  return rows.map (keptFields py selection)

def search (model : String) (domain spec fields limit offset order : Value) : Except PyExc Value := do
  resolveModel env model
  checkOp py env model "read"
  let filterExpr ← buildFilter py domain spec
  let limit ← clampLimit py env limit
  let offset ← clampOffset py env offset
  let schema := env.fieldsGet model schemaFieldAttributes
  let selection ← resolveFields py env fields schema
  let rows ← searchRows py env model filterExpr selection limit offset order
  let total ← if offset = 0 && (limit = 0 || rows.length < limit) then pure (rows.length : ℤ)
    else env.searchCount model filterExpr
  let rows ← rows.mapM (replaceBinaryUris py model schema)
  let totalPages := if limit = 0 then 1 else (total + limit - 1).fdiv limit
  let currentPage := if limit = 0 then 1 else offset.fdiv limit + 1
  let (nextHint, prevHint) := pageHints "search" offset limit rows.length total
  let text := formatSearchResults py model rows filterExpr
    (selection.toRead.map fun fields => fields.filterMap Value.str?) schema
    ⟨limit, offset, total, nextHint, prevHint, currentPage, totalPages⟩
  return result text (.dict [("records", .list (rows.map .dict)), ("total", .int total),
    ("limit", .int limit), ("offset", .int offset), ("model", .str model)])

/-! ### `compare` -/

/-- The fields of both records whose values differ. -/
def diffsOf (dataA dataB : Dict) : List (String × Value × Value) :=
  let common := (dataA.map (·.1)).filter fun k => dataB.has k && k ≠ "id"
  ((common.insertionSort (· ≤ ·)).filter fun k => !py.eq (dataA.get k) (dataB.get k)).map fun k =>
    (k, dataA.get k, dataB.get k)

def compareText (model : String) (recordIdA recordIdB : Value) (diffs : List (String × Value × Value)) :
    String :=
  join "\n" ([rule 60, "Diff: " ++ model ++ " #" ++ py.str recordIdA ++ " vs #" ++ py.str recordIdB,
      "Changed fields: " ++ toString diffs.length, rule 60] ++
    (diffs.flatMap fun d => [d.1 ++ ":", "  A: " ++ py.str d.2.1, "  B: " ++ py.str d.2.2]) ++
    if diffs.isEmpty then ["No differences found."] else [])

/-- The structured content of `compare`. -/
def compareStructured (model : String) (recordIdA recordIdB : Value)
    (diffs : List (String × Value × Value)) : Value :=
  .dict [("diffs", .dict (diffs.map fun d => (d.1, .dict [("a", d.2.1), ("b", d.2.2)]))),
    ("model", .str model), ("record_id_a", recordIdA), ("record_id_b", recordIdB)]

def compare (model : String) (recordIdA recordIdB fields : Value) : Except PyExc Value := do
  resolveModel env model
  checkOp py env model "read"
  let a ← browseRecordOrRaise py env model recordIdA
  let b ← browseRecordOrRaise py env model recordIdB
  let toRead ← coerceFields py fields
  let dataA ← firstRow (← env.read model [a] toRead)
  let dataB ← firstRow (← env.read model [b] toRead)
  let diffs := diffsOf py dataA dataB
  return result (compareText py model recordIdA recordIdB diffs)
    (compareStructured model recordIdA recordIdB diffs)

/-! ### `explain` -/

/-- `dict(selection).get(val, val)`: of two labels of one key the later one counts. -/
def dictLabel (selection : List Value) (val : Value) : Value := (selectionLabel py val selection.reverse).getD val

/-- `_state_summary`, from one of its fields on. -/
def stateSummary (data : Dict) (schema : Schema) : List String → Option String
  | [] => none
  | fname :: fnames =>
    let val := data.get fname
    let info := metaOf schema fname
    if val.isUnset then stateSummary data schema fnames
    else if fieldType info = "selection" && (info.get "selection").truthy then
      some (py.str (dictLabel py (info.get "selection").items val))
    else match val with
      | .list [_, name] => some (py.str name)
      | val => some (py.str val)

def stateFields : List String := ["state", "stage_id", "kanban_state"]

/-- The name of the record behind a many2one; without one it is `False`. -/
def relatedName (relModel : String) : Value → Except PyExc Value
  | .list (.int i :: _) => env.attr relModel i "name"
  | _ => .ok (.bool false)

/-- A line of `_recent_messages`. -/
def messageLine (i : ℤ) : Except PyExc String := do
  let date ← env.attr "mail.message" i "date"
  let author ← relatedName env "res.partner" (← env.attr "mail.message" i "author_id")
  let head := py.str date ++ ": " ++ py.str (orElse author (.str "?")) ++ " — "
  match ← env.attr "mail.message" i "subject" with
  | .str "" => return env.excerpt head (← env.attr "mail.message" i "body")
  | .str subject => return head ++ subject
  | _ => return env.excerpt head (← env.attr "mail.message" i "body")

/-- A line of `_attachment_summary`. -/
def attachmentLine (i : ℤ) : Except PyExc String := do
  let name ← env.attr "ir.attachment" i "name"
  let mimetype ← env.attr "ir.attachment" i "mimetype"
  return py.str name ++ " (" ++ py.str (orElse mimetype (.str "unknown")) ++ ")"

/-- `except (AccessError, Exception): return []` -/
def orNothing (lines : Except PyExc (List String)) : Except PyExc (List String) :=
  match lines with
  | .ok lines => .ok lines
  | .error e => if e.cls = .baseException then .error e else .ok []

def recentMessages (model : String) (recordId : ℤ) : Except PyExc (List String) :=
  orNothing do
    let ids ← env.search "mail.message" [.list [.str "model", .str "=", .str model],
      .list [.str "res_id", .str "=", .int recordId],
      .list [.str "message_type", .str "in", .list [.str "comment", .str "email"]]] 0 5 (.str "id desc")
    ids.mapM (messageLine py env)

def attachmentSummary (model : String) (recordId : ℤ) : Except PyExc (List String) :=
  orNothing do
    let ids ← env.search "ir.attachment" [.list [.str "res_model", .str "=", .str model],
      .list [.str "res_id", .str "=", .int recordId]] 0 10 .none
    ids.mapM (attachmentLine py env)

def explainText (model : String) (recordId displayName : Value) (stateInfo : Option String)
    (attachments messages : List String) : String :=
  join "\n" ([rule 60, model ++ " / ID " ++ py.str recordId ++ " — " ++
      py.str (orElse displayName (.str (py.str recordId))), rule 60] ++
    (match stateInfo with
      | some s => if s = "" then [] else ["State: " ++ s]
      | none => []) ++
    (if attachments.isEmpty then [] else ["Attachments: " ++ join ", " attachments]) ++
    if messages.isEmpty then [] else "" :: "Recent activity:" :: messages.map fun m => "  • " ++ m)

/-- The structured content of `explain`. -/
def explainStructured (model : String) (recordId displayName : Value) (stateInfo : Option String)
    (attachments messages : List String) : Value :=
  .dict [("model", .str model), ("record_id", recordId), ("display_name", displayName),
    ("state", (stateInfo.map Value.str).getD .none), ("attachments", .list (attachments.map .str)),
    ("recent_messages", .list (messages.map .str))]

def explain (model : String) (recordId : Value) : Except PyExc Value := do
  resolveModel env model
  checkOp py env model "read"
  let i ← browseRecordOrRaise py env model recordId
  let schema := env.fieldsGet model ["type", "string", "selection"]
  let basic ← firstRow (← env.read model [i] none)
  let stateInfo := stateSummary py basic schema stateFields
  let messages ← recentMessages py env model i
  let attachments ← attachmentSummary py env model i
  let displayName := basic.get "display_name"
  return result (explainText py model recordId displayName stateInfo attachments messages)
    (explainStructured model recordId displayName stateInfo attachments messages)

end Capabilities

/-! ### A call -/

/-- A call of one of the four tools, with its arguments. -/
inductive ReadCall where
  | get (model : String) (recordId fields depth : Value)
  | search (model : String) (domain spec fields limit offset order : Value)
  | compare (model : String) (recordIdA recordIdB fields : Value)
  | explain (model : String) (recordId : Value)

def ReadCall.run (py : Builtins) (env : Env) : ReadCall → Except PyExc Value
  | .get model recordId fields depth => fetch py env model recordId fields depth
  | .search model domain spec fields limit offset order =>
    Read.search py env model domain spec fields limit offset order
  | .compare model recordIdA recordIdB fields => Read.compare py env model recordIdA recordIdB fields
  | .explain model recordId => Read.explain py env model recordId

end AdvMcp.Read
