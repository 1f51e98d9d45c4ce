import AdvMcp.Read.SmartFields

/-!
# The text of records

`tools/formatters.py`: `RecordFormatter` and `DatasetFormatter`, which write records as text.  They see
the data of a record and the metadata of its fields, and no database.
-/

namespace AdvMcp.Read

open AdvMcp.Py

/-- `schema.get(name) or {}` -/
def metaOf (schema : Schema) (name : String) : Dict := (schema.lookup name).getD []

/-- `meta.get("type", "unknown")` -/
def fieldType (info : Dict) : String := ((info.getOr "type" (.str "unknown")).str?).getD ""

/-! ### `RecordFormatter` -/

def omitFields : List String :=
  ["__last_update", "write_date", "create_date", "write_uid", "create_uid", "message_follower_ids",
    "message_ids", "message_main_attachment_id"]

def binaryFields : List String := ["binary", "image", "file"]

def maxFieldDisplayLength : ℕ := 2000

def indentText (indentLevel : ℕ) : String := String.join (List.replicate indentLevel "  ")

def rule (n : ℕ) : String := String.join (List.replicate n "=")

def truncateValue (text : String) : String :=
  if maxFieldDisplayLength < text.length then
    prefixText maxFieldDisplayLength text ++ "... [truncated, " ++ toString text.length ++ " chars total]"
  else text

section Record

variable (py : Builtins) (model : String)

def formatNumericValue (value : Value) (type : String) (info : Dict) : String :=
  if type = "monetary" then py.format value ",.2f"
  else if type = "float" then
    let precision : Value :=
      match info.getOr "digits" (.list [.int 16, .int 2]) with
      | .list [_, precision] => precision
      | _ => .int 2
    py.format value (",." ++ py.str precision ++ "f")
  else py.format value ","

def formatDatetimeValue (value : Value) (type : String) : String :=
  match value with
  | .str s => if type = "datetime" && inText " " s then (py.isoOfText s).getD s else s
  | .object t => py.isoOfDate t
  | v => py.str v

/-- The loop over a selection: the label of the first key that is the value. -/
def selectionLabel (value : Value) : List Value → Option Value
  | .list [key, label] :: rest => if py.eq key value then some label else selectionLabel value rest
  | _ :: rest => selectionLabel value rest
  | [] => none

/-- What a pair of an id and a name shows, or the text of the value. -/
def formatPair (value : Value) : String :=
  match value with
  | .list [i, .str name] =>
    if i.isInt then name ++ " (ID: " ++ py.str i ++ ")" else truncateValue (py.str value)
  | _ => truncateValue (py.str value)

def formatFieldValue (fieldName : String) (value : Value) (info : Dict) : String :=
  let type := fieldType info
  if type = "boolean" || (type = "unknown" && value.isBool) then if value.truthy then "Yes" else "No"
  else if value.isUnset then "Not set"
  else if type ∈ ["char", "text", "html"] then truncateValue (py.str value)
  else if type ∈ ["integer", "float", "monetary"] then formatNumericValue py value type info
  else if type ∈ ["date", "datetime"] then formatDatetimeValue py value type
  else if type = "selection" then
    match selectionLabel py value (info.get "selection").items with
    | some label => py.str label ++ " (" ++ py.str value ++ ")"
    | none => py.str value
  else if type ∈ ["one2many", "many2many"] then
    match value with
    | .list xs => if xs.isEmpty then "No records" else toString xs.length ++ " record(s)"
    | v => py.str v
  else if type ∈ binaryFields then "[Binary data - use " ++ model ++ "/" ++ fieldName ++ " to retrieve]"
  else formatPair py value

/-- `_view_all_hint` -/
def viewAllHint (indent type : String) (info : Dict) (value : List Value) (relatedModel : String)
    (parentId : Value) (enabledRelations : Option (List String)) : List String :=
  if enabledRelations.any fun enabled => relatedModel ∉ enabled then
    [indent ++ "  (related model '" ++ relatedModel ++
      "' is not enabled for MCP access, so its records cannot be listed)"]
  else
    let relationField := info.get "relation_field"
    let relatedIds := value.filter Value.isInt
    let (domain, suffix) :=
      if type = "one2many" && relationField.truthy && parentId.isInt then
        (Value.list [.list [relationField, .str "=", parentId]], "")
      else
        (Value.list [.list [.str "id", .str "in", .list (relatedIds.take 50)]],
          if 50 < relatedIds.length then " (first 50 ids)" else "")
    [indent ++ "  → View all: use the search_records tool with model='" ++ relatedModel ++ "', domain=" ++
      py.dumps domain ++ suffix]

/-- `enumerate(summary, 1)` as lines -/
def summaryLines (indent : String) (summary : List (Value × Value)) : List String :=
  summary.mapIdx fun i r =>
    indent ++ "    [" ++ toString (i + 1) ++ "] " ++ py.str r.2 ++ " (id " ++ py.str r.1 ++ ")"

def formatRelationField (fieldName : String) (value : Value) (info : Dict) (indentLevel : ℕ)
    (summary : List (Value × Value)) (parentId : Value) (enabledRelations : Option (List String)) :
    List String :=
  let indent := indentText indentLevel
  let type := fieldType info
  let relatedModel := py.str (info.getOr "relation" (.str "unknown"))
  if type = "many2one" then
    match value with
    | .list [relatedId, relatedName] =>
      [indent ++ fieldName ++ ": " ++ py.str relatedName ++ " (" ++ relatedModel ++ "," ++
        py.str relatedId ++ ")"]
    | _ => [indent ++ fieldName ++ ": Not set"]
  else if type ∈ ["one2many", "many2many"] then
    match value with
    | .list (x :: xs) =>
      (indent ++ fieldName ++ ": " ++ toString (x :: xs).length ++ " record(s)") ::
        if !summary.isEmpty then (indent ++ "  Items:") :: summaryLines py indent summary
        else if relatedModel ≠ "unknown" then
          viewAllHint py indent type info (x :: xs) relatedModel parentId enabledRelations
        else []
    | _ => [indent ++ fieldName ++ ": No records"]
  else []

/-- `v or w` -/
def orElse (v w : Value) : Value := if v.truthy then v else w

def formatRecord (record : Dict) (fieldsMetadata : Schema) (indentLevel : ℕ)
    (relatedSummaries : List (String × List (Value × Value)))
    (enabledRelations : Option (List String)) : String :=
  let indent := indentText indentLevel
  let recordId := record.getOr "id" (.str "Unknown")
  let recordName :=
    orElse (orElse (record.get "display_name") (record.get "name")) (.str ("Record " ++ py.str recordId))
  let header := [indent ++ rule 50, indent ++ "Record: " ++ model ++ "/" ++ py.str recordId,
    indent ++ "Name: " ++ py.str recordName, indent ++ rule 50]
  let shown := record.filter fun p =>
    !(p.1 ∈ omitFields || startsWith "_" p.1) && p.1 ∉ ["id", "name", "display_name"]
  let isRelation := fun p : String × Value =>
    decide (fieldType (metaOf fieldsMetadata p.1) ∈ ["many2one", "one2many", "many2many"])
  let simpleFields := shown.filter fun p => !isRelation p
  let relationFields := shown.filter isRelation
  let simpleLines := simpleFields.map fun p =>
    indent ++ "  " ++ p.1 ++ ": " ++ formatFieldValue py model p.1 p.2 (metaOf fieldsMetadata p.1)
  let relationLines := relationFields.flatMap fun p =>
    formatRelationField py p.1 p.2 (metaOf fieldsMetadata p.1) (indentLevel + 1)
      ((relatedSummaries.lookup p.1).getD []) (record.get "id") enabledRelations
  join "\n" (header ++ (if simpleFields.isEmpty then [] else (indent ++ "Fields:") :: simpleLines) ++
    if relationFields.isEmpty then [] else (indent ++ "Relationships:") :: relationLines)

def summaryFields : List String := ["display_name", "name", "complete_name", "partner_id", "title"]

/-- What one of the summary fields shows. -/
def summaryOf (value : Value) : Option String :=
  if !value.truthy then none
  else match value with
    | .list [i, name] => some (py.str name ++ " (ID: " ++ py.str i ++ ")")
    | .str s => some s
    | _ => none

/-- `_get_record_summary` -/
def getRecordSummary (record : Dict) : String :=
  (summaryFields.findSome? fun field => summaryOf py (record.get field)).getD
    ("ID: " ++ py.str (record.getOr "id" (.str "Unknown")))

end Record

/-! ### `DatasetFormatter` -/

section Dataset

variable (py : Builtins) (model : String)

/-- One condition of a domain. -/
def formatCondition : Value → Option String
  | .list [field, operator, value] => some (py.str field ++ " " ++ py.str operator ++ " " ++ py.str value)
  | .str s => if s ∈ ["&", "|", "!"] then some s else none
  | _ => none

def formatDomain (domain : List Value) : String :=
  if domain.isEmpty then "All records"
  else
    let conditions := domain.filterMap (formatCondition py)
    if conditions.isEmpty then py.str (.list domain) else join " " conditions

/-- The lines of one of the records of `_format_result_records`. -/
def formatResultRecord (fields : Option (List String)) (metadata : Schema) (idx : ℤ) (record : Dict) :
    List String :=
  let shown := ((fields.filter fun fields => fields.length ≤ 5).getD []).filter fun field =>
    record.has field && field ∉ ["id", "name", "display_name"]
  ("[" ++ toString idx ++ "] " ++ getRecordSummary py record) ::
    (shown.map fun field =>
      "    " ++ field ++ ": " ++ formatFieldValue py model field (record.get field) (metaOf metadata field)) ++
    [""]

/-- What the search tells the formatter of the page. -/
structure Page where
  limit : ℤ
  offset : ℤ
  totalCount : ℤ
  nextHint : Option String
  prevHint : Option String
  currentPage : ℤ
  totalPages : ℤ

/-- `format_search_results`, with a total and an offset. -/
def formatSearchResults (records : List Dict) (domain : List Value) (fields : Option (List String))
    (fieldsMetadata : Schema) (page : Page) : String :=
  let count : ℤ := records.length
  let header := [rule 60, "Search Results: " ++ model, rule 60] ++
    (if domain.isEmpty then [] else ["Search criteria: " ++ formatDomain py domain]) ++
    (if page.currentPage ≠ 0 && page.totalPages ≠ 0 then
      ["Page " ++ toString page.currentPage ++ " of " ++ toString page.totalPages] else []) ++
    ["Showing records " ++ toString (page.offset + 1) ++ "-" ++ toString (page.offset + count) ++ " of " ++
      toString page.totalCount] ++
    (if (fields.getD []).isEmpty then [] else ["Fields: " ++ join ", " (fields.getD [])]) ++ [""]
  let body :=
    if records.isEmpty then ["No records found matching the criteria."]
    else (records.mapIdx fun i record =>
      formatResultRecord py model fields fieldsMetadata (page.offset + (i + 1)) record).flatten
  let navigation := (page.prevHint.map fun h => "← Previous page: " ++ h).toList ++
    (page.nextHint.map fun h => "→ Next page: " ++ h).toList
  let summary :=
    if 100 < page.totalCount then
      ["\nDataset Summary:", "Total records: " ++ py.format (.int page.totalCount) ","] ++
        if domain.isEmpty then [] else ["Use additional filters to refine results"]
    else []
  join "\n" (header ++ body ++ (if navigation.isEmpty then [] else "\nNavigation:" :: navigation) ++ summary)

end Dataset

end AdvMcp.Read
