import Mathlib.Data.List.Sort
import AdvMcp.Py.Builtins

/-!
# Smart field selection

`tools/smart_fields.py`: which field names look like secrets, and which fields a record shows by
default.
-/

namespace AdvMcp.Read

open AdvMcp.Py

/-- What `fields_get` returns: the names of the fields with their attributes, in order. -/
abbrev Schema := List (String × Dict)

def defaultMaxSmartFields : ℤ := 15

def essentialFields : List String := ["id", "name", "display_name", "active"]

/-! ### Names of secrets -/

def sensitiveFieldMarkers : List String := ["password", "passwd", "secret", "apikey", "token"]

def sensitiveMarkerSequences : List (List String) :=
  [["api", "key"], ["private", "key"], ["secret", "key"], ["access", "key"]]

def booleanFlagPrefixes : List String := ["is", "has", "can"]

/-- `any(tuple(segments[i : i + width]) == sequence for i in range(len(segments) - width + 1))` -/
def hasSequence (segments sequence : List String) : Bool :=
  (List.range (segments.length + 1 - sequence.length)).any fun i =>
    (segments.drop i).take sequence.length == sequence

def isSensitiveFieldName (lo : Lower) (fieldName : String) : Bool :=
  let segments := splitOn '_' (lo.lower fieldName)
  if segments.getLastD "" = "id" || segments.headD "" ∈ booleanFlagPrefixes then false
  else if sensitiveMarkerSequences.any (hasSequence segments) then true
  else segments.getLastD "" ∈ sensitiveFieldMarkers

/-! ### Scores -/

def excludePrefixes : List String := ["_", "message_", "activity_", "website_message_"]

def excludeFields : List String :=
  ["write_date", "create_date", "write_uid", "create_uid", "__last_update", "access_token",
    "access_warning", "access_url"]

def typeScores : List (String × ℤ) :=
  [("char", 200), ("boolean", 180), ("selection", 170), ("integer", 160), ("float", 160),
    ("monetary", 140), ("date", 150), ("datetime", 150), ("many2one", 120), ("text", 80)]

def businessPatterns : List String :=
  ["state", "status", "stage", "priority", "company", "currency", "amount", "total", "date", "user",
    "partner", "email", "phone", "address", "street", "city", "country", "code", "ref", "number"]

def scoreFieldImportance (lo : Lower) (fieldName : String) (fieldInfo : Dict) : ℤ :=
  if fieldName ∈ essentialFields then 1000
  else if excludePrefixes.any fun p => startsWith p fieldName then 0
  else if fieldName ∈ excludeFields then 0
  else if isSensitiveFieldName lo fieldName then 0
  else
    let score : ℤ := if (fieldInfo.get "required").truthy then 500 else 0
    let fieldType := ((fieldInfo.getOr "type" (.str "")).str?).getD ""
    let score := score + (typeScores.lookup fieldType).getD 50
    let store := (fieldInfo.getOr "store" (.bool true)).truthy
    let score := if store then score + 80 else score
    let score := if (fieldInfo.getOr "searchable" (.bool true)).truthy then score + 40 else score
    let score := if businessPatterns.any fun p => inText p (lo.lower fieldName) then score + 60 else score
    let score := if !store then min score 30 else score
    if fieldType ∈ ["binary", "image", "html"] then 0
    else if fieldType ∈ ["one2many", "many2many"] then 0
    else max score 0

/-! ### The default selection -/

def getSmartDefaultFields (lo : Lower) (fieldsInfo : Schema) (maxFields : ℤ) : List String :=
  let fieldScores := fieldsInfo.map fun p => (p.1, scoreFieldImportance lo p.1 p.2)
  let fieldScores := fieldScores.filter fun p => 0 < p.2
  -- the sort is stable, also in reverse
  let fieldScores := fieldScores.insertionSort fun p q => q.2 ≤ p.2
  let selectedFields := (sliceTo maxFields fieldScores).map (·.1)
  essentialFields.foldl
    (fun selected field =>
      if field ∈ fieldsInfo.map (·.1) && field ∉ selected then selected ++ [field] else selected)
    selectedFields

end AdvMcp.Read
