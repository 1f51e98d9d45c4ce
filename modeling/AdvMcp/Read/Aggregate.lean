import AdvMcp.Lib.Savepoint
import AdvMcp.Read.Capabilities

/-!
# The tool `aggregate`

`aggregate` of `models/read_tools.py`, with `_flat_pivot` and `_cross_tab`, in the order of the source.

* `Grouping` — what the ORM answers to `formatted_read_group`, and Python's `sorted`;
* `listed` — a list in the structured content of an answer; `flatPivot_groups` says how long that of the flat pivot
  is, and `crossTab_ok` what the matrix is.

A tuple is a list.
-/

namespace AdvMcp.Read

open AdvMcp.Py AdvMcp.Lib

/-- `readGroup` takes the model, the domain, the groups, the aggregates, the offset and the limit; `sorted` may
raise on what cannot be compared. -/
structure Grouping where
  readGroup : String → List Value → Value → List Value → ℤ → Option ℤ → Except PyExc (List Dict)
  sorted : List (List Value) → Except PyExc (List (List Value))

/-- `list(v)` -/
def pyList : Value → Except PyExc (List Value)
  | .list xs => .ok xs
  | .dict kvs => .ok (kvs.map fun p => .str p.1)
  | .str s => .ok (s.toList.map fun c => .str (String.singleton c))
  | v => .error (.of .typeError ("'" ++ v.typeName ++ "' object is not iterable"))

/-- What `str.join` takes: strings. -/
def strings (xs : List Value) : Except PyExc (List String) :=
  xs.mapM fun x =>
    match x with
    | .str s => .ok s
    | v => .error (.of .typeError ("sequence item: expected str instance, " ++ v.typeName ++ " found"))

/-- A dictionary made of its items, one after the other. -/
def dictOfItems (items : List (String × Value)) : Dict := items.foldl (fun d p => d.set p.1 p.2) []

section Aggregate

variable (py : Builtins) (env : Env) (G : Grouping)

/-! ### The flat pivot -/

/-- The value of a group in the text. -/
def pivotValue : Value → String
  | .list [i, name] => py.str name ++ " (ID: " ++ py.str i ++ ")"
  | .bool false | .none => "None"
  | v => py.str v

/-- `_format_pivot_text` -/
def formatPivotText (model : String) (groupby aggs : List String) (groups : List Dict) (hasMore : Bool) : String :=
  join "\n" ([rule 60, "Pivot: " ++ model, rule 60, "Group by: " ++ join ", " groupby,
      "Aggregates: " ++ join ", " aggs, ""] ++
    ((groups.zipIdx 1).map fun g => "[" ++ toString g.2 ++ "] " ++
      join " | " ((groupby.map fun key => key ++ "=" ++ pivotValue py (g.1.get key)) ++
        aggs.map fun key => key ++ "=" ++ py.str (g.1.get key))) ++
    if hasMore then ["", "More groups available — use offset to paginate."] else [])

/-- `_flat_pivot` -/
def flatPivot (model : String) (groupby : Value) (aggs filterExpr : List Value) (limit offset : ℤ) :
    Except PyExc Value := do
  let rawGroups ← G.readGroup model filterExpr groupby aggs offset (if limit ≠ 0 then some (limit + 1) else none)
  let hasMore : Bool := limit ≠ 0 && limit < rawGroups.length
  let groups := if hasMore then sliceTo limit rawGroups else rawGroups
  let cleaned := groups.map fun g =>
    g.filter fun p => !startsWith "__" p.1 || aggs.any fun a => a.str? = some p.1
  let keys ← pyList groupby
  let text := formatPivotText py model (← strings keys) (← strings aggs) cleaned hasMore
  return result text (.dict [("groups", .list (cleaned.map .dict)), ("model", .str model),
    ("row_groupby", groupby), ("aggregates", .list aggs), ("has_more", .bool hasMore)])

/-! ### The cross-tab -/

/-- `tuple(g.get(k) for k in keys)` -/
def tupleOf (keys : List String) (g : Dict) : List Value := keys.map g.get

/-- `a == b`, of two tuples -/
def sameTuple (a b : List Value) : Bool :=
  a.length == b.length && (a.zip b).all fun p => py.eq p.1 p.2

/-- The elements of a set, made of its elements one after the other. -/
def distinct : List (List Value) → List (List Value)
  | [] => []
  | a :: l => a :: (distinct l).filter fun b => !sameTuple py a b

/-- The cell of a row and a column: of two groups the later one counts. -/
def cellOf (rows cols : List String) (raw : List Dict) (rv cv : List Value) : Dict :=
  (raw.reverse.find? fun g => sameTuple py (tupleOf rows g) rv && sameTuple py (tupleOf cols g) cv).getD []

/-- A row of the matrix. -/
def matrixRow (rows cols aggs : List String) (raw : List Dict) (colVals : List (List Value)) (rv : List Value) :
    Dict :=
  colVals.foldl (fun row cv =>
    let cell := cellOf py rows cols raw rv cv
    row.set (py.str (.list cv))
      (.dict (if cell.isEmpty then [] else dictOfItems (aggs.map fun a => (a, cell.get a)))))
    [("_row", .dict (dictOfItems (rows.zip rv)))]

/-- `_cross_tab` -/
def crossTab (model : String) (rowGroupby : Value) (colGroupby aggs filterExpr : List Value) :
    Except PyExc Value := do
  let .list rowKeys := rowGroupby
    | throw (.of .typeError ("unsupported operand type(s) for +: '" ++ rowGroupby.typeName ++ "' and 'list'"))
  let raw ← G.readGroup model filterExpr (.list (rowKeys ++ colGroupby)) aggs 0 none
  let rows ← strings rowKeys
  let cols ← strings colGroupby
  let cells ← strings aggs
  let colVals ← G.sorted (distinct py (raw.map (tupleOf cols)))
  let rowVals ← G.sorted (distinct py (raw.map (tupleOf rows)))
  let matrix := rowVals.map (matrixRow py rows cols cells raw colVals)
  let text := join "\n" [rule 60, "Cross-tab: " ++ model, "Rows: " ++ join ", " rows, "Columns: " ++ join ", " cols,
    "Cells: " ++ join ", " cells,
    toString matrix.length ++ " rows × " ++ toString colVals.length ++ " columns"]
  return result text (.dict [("matrix", .list (matrix.map .dict)),
    ("col_values", .list (colVals.map .list)), ("model", .str model)])

/-! ### The tool -/

/-- `[row_groupby]` of a string. -/
def rowGroups : Value → Value
  | .str s => .list [.str s]
  | v => v

/-- `list(aggregates) if aggregates else ["__count"]` -/
def aggregatesOf (aggregates : Value) : Except PyExc (List Value) :=
  if aggregates.truthy then pyList aggregates else .ok [.str "__count"]

def aggregate (model : String) (rowGroupby colGroupby aggregates domain limit offset : Value) :
    Except PyExc Value := do
  resolveModel env model
  checkOp py env model "read"
  if !(rowGroups rowGroupby).truthy then throw (.of .userError "row_groupby must not be empty.")
  let filterExpr ← coerceDomain py domain
  let limit ← clampLimit py env limit
  let offset ← clampOffset py env offset
  let aggs ← aggregatesOf aggregates
  if colGroupby.truthy then
    let colKeys ← pyList colGroupby
    crossTab py G model (rowGroups rowGroupby) colKeys aggs filterExpr
  else flatPivot py G model (rowGroups rowGroupby) aggs filterExpr limit offset

end Aggregate

/-! ### What is listed -/

/-- A list in the structured content of an answer. -/
def listed (key : String) : Value → List Value
  | .dict out =>
    match Dict.get out "structuredContent" with
    | .dict structured => (Dict.get structured key).items
    | _ => []
  | _ => []

section Listed

variable {py : Builtins} {env : Env} {G : Grouping} {model : String} {out : Value}

/-- The flat pivot lists the first groups of those that it reads, up to the limit. -/
lemma flatPivot_groups {groupby : Value} {aggs filterExpr : List Value} {limit offset : ℤ} (hpos : 0 < limit)
    (h : flatPivot py G model groupby aggs filterExpr limit offset = .ok out) :
    ∃ raw, G.readGroup model filterExpr groupby aggs offset (some (limit + 1)) = .ok raw ∧
      ((listed "groups" out).length : ℤ) = min limit raw.length := by
  unfold flatPivot at h
  rw [if_pos (by omega)] at h
  obtain ⟨raw, hraw, h⟩ := except_bind_ok.1 h
  obtain ⟨keys, -, h⟩ := except_bind_ok.1 h
  obtain ⟨names, -, h⟩ := except_bind_ok.1 h
  obtain ⟨cells, -, h⟩ := except_bind_ok.1 h
  obtain rfl := except_pure_ok.1 h
  refine ⟨raw, hraw, ?_⟩
  show ((List.map Value.dict (List.map _ _)).length : ℤ) = _
  rw [List.length_map, List.length_map]
  by_cases hmore : limit < (raw.length : ℤ)
  · have hb : (decide (limit ≠ 0) && decide (limit < (raw.length : ℤ))) = true := by
      simp only [Bool.and_eq_true, decide_eq_true_eq]
      omega
    rw [if_pos hb]
    unfold sliceTo
    rw [if_pos (by omega), List.length_take]
    omega
  · have hb : ¬ (decide (limit ≠ 0) && decide (limit < (raw.length : ℤ))) = true := by
      simp only [Bool.and_eq_true, decide_eq_true_eq]
      omega
    rw [if_neg hb]
    omega

/-- Strings that can be joined. -/
lemma strings_ok {xs : List Value} {l : List String} (h : strings xs = .ok l) : xs = l.map .str := by
  unfold strings at h
  rw [mapM_ok] at h
  induction h with
  | nil => rfl
  | @cons x s _ _ hx _ ih =>
    rw [List.map_cons, ← ih]
    cases x with
    | str t => rw [Except.ok.inj hx]
    | _ => cases hx

lemma strings_str (l : List String) : strings (l.map .str) = .ok l := by
  unfold strings
  rw [mapM_ok, List.forall₂_map_left_iff]
  exact List.forall₂_same.2 fun _ _ => rfl

/-- What the cross-tab is made of. -/
lemma crossTab_ok {rowGroupby : Value} {colGroupby aggs filterExpr : List Value}
    (h : crossTab py G model rowGroupby colGroupby aggs filterExpr = .ok out) :
    ∃ rows cols cells raw colVals rowVals, rowGroupby = .list (rows.map .str) ∧ colGroupby = cols.map .str ∧
      aggs = cells.map .str ∧
      G.readGroup model filterExpr (.list (rows.map .str ++ cols.map .str)) (cells.map .str) 0 none = .ok raw ∧
      G.sorted (distinct py (raw.map (tupleOf cols))) = .ok colVals ∧
      G.sorted (distinct py (raw.map (tupleOf rows))) = .ok rowVals ∧
      listed "matrix" out = rowVals.map fun rv => .dict (matrixRow py rows cols cells raw colVals rv) := by
  cases rowGroupby with
  | list rowKeys =>
    unfold crossTab at h
    obtain ⟨raw, hraw, h⟩ := except_bind_ok.1 h
    obtain ⟨rows, hrows, h⟩ := except_bind_ok.1 h
    obtain ⟨cols, hcols, h⟩ := except_bind_ok.1 h
    obtain ⟨cells, hcells, h⟩ := except_bind_ok.1 h
    obtain ⟨colVals, hcv, h⟩ := except_bind_ok.1 h
    obtain ⟨rowVals, hrv, h⟩ := except_bind_ok.1 h
    obtain rfl := except_pure_ok.1 h
    obtain rfl := strings_ok hrows
    obtain rfl := strings_ok hcols
    obtain rfl := strings_ok hcells
    refine ⟨rows, cols, cells, raw, colVals, rowVals, rfl, rfl, rfl, hraw, hcv, hrv, ?_⟩
    show List.map Value.dict (List.map _ rowVals) = _
    rw [List.map_map]
    rfl
  | _ => cases h

end Listed

end AdvMcp.Read
