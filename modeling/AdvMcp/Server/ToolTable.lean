import AdvMcp.Server.Index

/-!
# The table of the custom tools

The rows of `adv.custom.tool` under whatever its editors do: `create`, `write` and `unlink` with the constraints of
`models/custom_tool.py`, and what happens to the server actions meanwhile.

* `edit`, `after` — one edit, which either passes all constraints or leaves the table as it was;
* `edit_cases` — what an edit that passes does to the rows;
* `table_wellFormed` — after any edits in any order the site with these tools is well-formed;
* `readonly_marked` — a tool that a connection with the scope `adv:read` can run was marked read-only by a system
  administrator.
-/

namespace AdvMcp.Server

open AdvMcp.Lib AdvMcp.Py

/-- The user who edits the table: whether he is an administrator of the module, a system administrator, and the
server actions that he may read. -/
structure Editor where
  advAdmin : Bool
  system : Bool
  readsAction : ℕ → Bool

/-- A row of `adv.custom.tool`. -/
structure ToolRow where
  id : ℕ
  name : String
  description : String
  actionId : ℕ
  inputSchema : String
  isReadonly : Bool
  active : Bool

/-- The values of a `create` or a `write`. -/
structure ToolVals where
  name : Option String
  description : Option String
  actionId : Option ℕ
  inputSchema : Option String
  isReadonly : Option Bool
  active : Option Bool

inductive ToolField where
  | name
  | description
  | actionId
  | inputSchema
  | isReadonly
  | active
  deriving DecidableEq

/-- A new row has all its fields. -/
def allFields : List ToolField := [.name, .description, .actionId, .inputSchema, .isReadonly, .active]

/-- The fields that a `write` has values for. -/
def ToolVals.fields (vals : ToolVals) : List ToolField :=
  allFields.filter fun
    | .name => vals.name.isSome
    | .description => vals.description.isSome
    | .actionId => vals.actionId.isSome
    | .inputSchema => vals.inputSchema.isSome
    | .isReadonly => vals.isReadonly.isSome
    | .active => vals.active.isSome

/-- The rows, the next id, and the `state` of the server actions. -/
structure ToolTable where
  tools : List ToolRow
  nextId : ℕ
  actions : List (ℕ × String)

inductive Edit where
  | create (user : Editor) (vals : List ToolVals)
  | write (user : Editor) (ids : List ℕ) (vals : ToolVals)
  | unlink (user : Editor) (ids : List ℕ)
  | setActionState (actionId : ℕ) (state : String)
  | deleteAction (actionId : ℕ)

section ToolTable

variable {σ : Type} (w : Site σ) (actionOf : ℕ → ServerAction σ)

def ToolRow.toTool (r : ToolRow) : CustomTool σ :=
  ⟨r.name, r.active, r.isReadonly, r.inputSchema, actionOf r.actionId⟩

/-- The site with the tools of the table. -/
def ToolTable.site (s : ToolTable) : Site σ := { w with customTools := s.tools.map (ToolRow.toTool actionOf) }

def ToolVals.apply (vals : ToolVals) (r : ToolRow) : ToolRow :=
  { r with
    name := vals.name.getD r.name
    description := vals.description.getD r.description
    actionId := vals.actionId.getD r.actionId
    inputSchema := vals.inputSchema.getD r.inputSchema
    isReadonly := vals.isReadonly.getD r.isReadonly
    active := vals.active.getD r.active }

/-! ### The constraints -/

/-- `_check_is_readonly_system_only` -/
def checkIsReadonlySystemOnly (user : Editor) (r : ToolRow) : Except PyExc Unit :=
  if r.isReadonly && !user.system then
    .error (.of .validationError ("Only a system administrator may mark a custom tool read-only, " ++
      "because that flag governs the OAuth read/write scope boundary."))
  else .ok ()

/-- `_check_action_is_code` -/
def checkActionIsCode (user : Editor) (actions : List (ℕ × String)) (r : ToolRow) : Except PyExc Unit :=
  if !user.readsAction r.actionId then
    .error (.of .validationError "You do not have access to the selected server action.")
  else if actions.lookup r.actionId ≠ some "code" then
    .error (.of .validationError ("Custom tools must wrap a Python Code server action. Other action types run once " ++
      "per selected record, and a tool call passes no record, so the action would silently do nothing."))
  else .ok ()

/-- The constraint of a field, if the field is written. -/
def constrains (fields : List ToolField) (rows : List ToolRow) (field : ToolField)
    (check : ToolRow → Except PyExc Unit) : Except PyExc Unit :=
  if field ∈ fields then rows.forM check else .ok ()

/-- `_validate_fields`: the constraints in the order of their names. -/
def validateFields (user : Editor) (actions : List (ℕ × String)) (fields : List ToolField) (rows : List ToolRow) :
    Except PyExc Unit := do
  constrains fields rows .actionId (checkActionIsCode user actions)
  constrains fields rows .inputSchema fun r => checkInputSchema w (r.toTool actionOf)
  constrains fields rows .isReadonly (checkIsReadonlySystemOnly user)
  constrains fields rows .name fun r => checkName w (r.toTool actionOf)

/-- The access rights of `security/ir.model.access.csv`. -/
def checkAccess (user : Editor) : Except PyExc Unit :=
  if user.advAdmin then .ok () else .error (.of .accessError "You are not allowed to access 'Adv MCP Custom Tool' records.")

/-- `UNIQUE(name)` -/
def checkUniqueName (rows : List ToolRow) : Except PyExc Unit :=
  if (rows.map (·.name)).Nodup then .ok ()
  else .error (.of .validationError "A custom tool with this name already exists.")

/-- The row of a `create`: the required fields have no default. -/
def newRow (id : ℕ) (vals : ToolVals) : Except PyExc ToolRow :=
  match vals.name, vals.description, vals.actionId with
  | some name, some description, some actionId =>
    .ok ⟨id, name, description, actionId,
      vals.inputSchema.getD "\x7b\"type\": \"object\", \"properties\": \x7b\x7d\x7d", vals.isReadonly.getD false,
      vals.active.getD true⟩
  | _, _, _ => .error (.of .validationError "Missing required value")

/-- The rows of a `create`, with the ids from `next` on. -/
def newRows (next : ℕ) : List ToolVals → Except PyExc (List ToolRow)
  | [] => .ok []
  | vals :: more => do
    let r ← newRow next vals
    return r :: (← newRows (next + 1) more)

/-- One edit of the table. -/
def edit (s : ToolTable) : Edit → Except PyExc ToolTable
  | .create user vals => do
    checkAccess user
    let rows ← newRows s.nextId vals
    checkUniqueName (s.tools ++ rows)
    validateFields w actionOf user s.actions allFields rows
    return { s with tools := s.tools ++ rows, nextId := s.nextId + rows.length }
  | .write user ids vals => do
    checkAccess user
    if ids.any fun id => s.tools.all (·.id ≠ id) then
      throw (.of .missingError "Record does not exist or has been deleted.")
    let tools := updateWhere (fun r => decide (r.id ∈ ids)) vals.apply s.tools
    validateFields w actionOf user s.actions vals.fields (tools.filter fun r => r.id ∈ ids)
    checkUniqueName tools
    return { s with tools }
  | .unlink user ids => do
    checkAccess user
    return { s with tools := s.tools.filter fun r => r.id ∉ ids }
  | .setActionState actionId state =>
    .ok { s with actions := s.actions.map fun p => if p.1 = actionId then (p.1, state) else p }
  | .deleteAction actionId =>
    .ok { s with
      tools := s.tools.filter fun r => r.actionId ≠ actionId
      actions := s.actions.filter fun p => p.1 ≠ actionId }

/-- The table after an edit: one that raises is rolled back. -/
def after (s : ToolTable) (e : Edit) : ToolTable :=
  match edit w actionOf s e with
  | .ok s' => s'
  | .error _ => s

/-- The table after some edits. -/
def history (es : List Edit) (s : ToolTable) : ToolTable := es.foldl (after w actionOf) s

/-! ### What an edit does -/

variable {w actionOf} {s s' : ToolTable} {e : Edit} {r : ToolRow} {user : Editor} {fields : List ToolField}
  {rows : List ToolRow}

lemma constrains_ok {field : ToolField} {check : ToolRow → Except PyExc Unit}
    (h : constrains fields rows field check = .ok ()) (hf : field ∈ fields) : ∀ r ∈ rows, check r = .ok () := by
  unfold constrains at h
  rw [if_pos hf] at h
  exact forM_ok.1 h

/-- The row has passed the constraints of the fields. -/
structure Validated (w : Site σ) (actionOf : ℕ → ServerAction σ) (user : Editor) (actions : List (ℕ × String))
    (fields : List ToolField) (r : ToolRow) : Prop where
  action : .actionId ∈ fields → user.readsAction r.actionId = true ∧ actions.lookup r.actionId = some "code"
  schema : .inputSchema ∈ fields → checkInputSchema w (r.toTool actionOf) = .ok ()
  readonly : .isReadonly ∈ fields → r.isReadonly = true → user.system = true
  name : .name ∈ fields → checkName w (r.toTool actionOf) = .ok ()

lemma checkIsReadonlySystemOnly_ok (h : checkIsReadonlySystemOnly user r = .ok ()) (hr : r.isReadonly = true) :
    user.system = true := by
  unfold checkIsReadonlySystemOnly at h
  cases hs : user.system with
  | true => rfl
  | false => simp [hr, hs] at h

lemma checkActionIsCode_ok {actions : List (ℕ × String)} (h : checkActionIsCode user actions r = .ok ()) :
    user.readsAction r.actionId = true ∧ actions.lookup r.actionId = some "code" := by
  unfold checkActionIsCode at h
  split_ifs at h with h1 h2
  exact ⟨by simpa using h1, by simpa using h2⟩

lemma validateFields_ok {actions : List (ℕ × String)}
    (h : validateFields w actionOf user actions fields rows = .ok ()) :
    ∀ r ∈ rows, Validated w actionOf user actions fields r := by
  unfold validateFields at h
  obtain ⟨⟨⟩, h1, h⟩ := except_bind_ok.1 h
  obtain ⟨⟨⟩, h2, h⟩ := except_bind_ok.1 h
  obtain ⟨⟨⟩, h3, h4⟩ := except_bind_ok.1 h
  intro r hr
  exact ⟨fun hf => checkActionIsCode_ok (constrains_ok h1 hf r hr), fun hf => constrains_ok h2 hf r hr,
    fun hf => checkIsReadonlySystemOnly_ok (constrains_ok h3 hf r hr), fun hf => constrains_ok h4 hf r hr⟩

/-! ### What an edit does to the rows -/

/-- The row has the values, with the default of `is_readonly`, and the id next in order. -/
def RowOf (next : ℕ) (vals : List ToolVals) (r : ToolRow) : Prop :=
  ∃ i v, vals[i]? = some v ∧ r.id = next + i ∧ r.isReadonly = v.isReadonly.getD false

lemma newRows_ok {vals : List ToolVals} {next : ℕ} (h : newRows next vals = .ok rows) :
    rows.map (·.id) = List.range' next rows.length ∧ ∀ r ∈ rows, RowOf next vals r := by
  induction vals generalizing next rows with
  | nil =>
    obtain rfl := Except.ok.inj h
    exact ⟨rfl, fun r hr => by cases hr⟩
  | cons v vals ih =>
    unfold newRows at h
    obtain ⟨r, hr, h⟩ := except_bind_ok.1 h
    obtain ⟨more, hm, h⟩ := except_bind_ok.1 h
    obtain rfl := except_pure_ok.1 h
    have hnew : r.id = next ∧ r.isReadonly = v.isReadonly.getD false := by
      unfold newRow at hr
      split at hr
      · obtain rfl := Except.ok.inj hr
        exact ⟨rfl, rfl⟩
      · cases hr
    obtain ⟨hids, hall⟩ := ih hm
    refine ⟨by rw [List.map_cons, hids, hnew.1, List.length_cons, List.range'_succ], fun r' hr' => ?_⟩
    rcases List.mem_cons.1 hr' with rfl | hr'
    · exact ⟨0, v, rfl, hnew.1, hnew.2⟩
    · obtain ⟨i, v', hv', hid, he⟩ := hall r' hr'
      exact ⟨i + 1, v', hv', by omega, he⟩

/-- The row was created by the edit, and has passed all constraints. -/
def Created (w : Site σ) (actionOf : ℕ → ServerAction σ) (s : ToolTable) (e : Edit) (r : ToolRow) : Prop :=
  ∃ user vals, e = .create user vals ∧ RowOf s.nextId vals r ∧ Validated w actionOf user s.actions allFields r

/-- The row is one of the edit's, and has passed the constraints of the fields that were written. -/
def Written (w : Site σ) (actionOf : ℕ → ServerAction σ) (s : ToolTable) (e : Edit) (r : ToolRow) : Prop :=
  ∃ user ids vals, e = .write user ids vals ∧ r.id ∈ ids ∧ (∃ r₀ ∈ s.tools, r = vals.apply r₀) ∧
    Validated w actionOf user s.actions vals.fields r

/-- **One edit** that passes: every row is as before, or was created, or was written. -/
lemma edit_cases (h : edit w actionOf s e = .ok s') (hr : r ∈ s'.tools) :
    r ∈ s.tools ∨ Created w actionOf s e r ∨ Written w actionOf s e r := by
  cases e with
  | create user vals =>
    obtain ⟨-, -, h⟩ := except_bind_ok.1 h
    obtain ⟨rows, hrows, h⟩ := except_bind_ok.1 h
    obtain ⟨-, -, h⟩ := except_bind_ok.1 h
    obtain ⟨⟨⟩, hval, h⟩ := except_bind_ok.1 h
    obtain rfl := except_pure_ok.1 h
    rcases List.mem_append.1 hr with hr | hr
    · exact Or.inl hr
    · exact Or.inr (Or.inl ⟨user, vals, rfl, (newRows_ok hrows).2 r hr, validateFields_ok hval r hr⟩)
  | write user ids vals =>
    obtain ⟨-, -, h⟩ := except_bind_ok.1 h
    simp only at h
    split_ifs at h
    · cases h
    obtain ⟨⟨⟩, hval, h⟩ := except_bind_ok.1 h
    obtain ⟨-, -, h⟩ := except_bind_ok.1 h
    obtain rfl := except_pure_ok.1 h
    obtain ⟨r₀, h0, rfl⟩ := mem_updateWhere.1 hr
    by_cases hin : r₀.id ∈ ids
    · rw [if_pos (decide_eq_true hin)] at hr ⊢
      have hid : (vals.apply r₀).id ∈ ids := hin
      exact Or.inr (Or.inr ⟨user, ids, vals, rfl, hid, ⟨r₀, h0, rfl⟩,
        validateFields_ok hval _ (List.mem_filter.2 ⟨hr, decide_eq_true hid⟩)⟩)
    · rw [if_neg (by simpa using hin)]
      exact Or.inl h0
  | unlink user ids =>
    obtain ⟨-, -, h⟩ := except_bind_ok.1 h
    obtain rfl := except_pure_ok.1 h
    exact Or.inl (List.mem_of_mem_filter hr)
  | setActionState actionId state =>
    obtain rfl := Except.ok.inj h
    exact Or.inl hr
  | deleteAction actionId =>
    obtain rfl := Except.ok.inj h
    exact Or.inl (List.mem_of_mem_filter hr)

/-! ### Well-formed tables -/

/-- Ids and names are unique, and the constraints of the name and the schema hold. -/
structure TableOk (w : Site σ) (actionOf : ℕ → ServerAction σ) (s : ToolTable) : Prop where
  ids_nodup : (s.tools.map (·.id)).Nodup
  ids_lt : ∀ r ∈ s.tools, r.id < s.nextId
  unique_name : (s.tools.map (·.name)).Nodup
  check_name : ∀ r ∈ s.tools, checkName w (r.toTool actionOf) = .ok ()
  check_input_schema : ∀ r ∈ s.tools, checkInputSchema w (r.toTool actionOf) = .ok ()

lemma checkUniqueName_ok (h : checkUniqueName rows = .ok ()) : (rows.map (·.name)).Nodup := by
  unfold checkUniqueName at h
  split_ifs at h with hn
  exact hn

lemma mem_fields_name {vals : ToolVals} : .name ∈ vals.fields ↔ vals.name.isSome = true := by
  simp [ToolVals.fields, allFields, List.mem_filter]

lemma mem_fields_inputSchema {vals : ToolVals} : .inputSchema ∈ vals.fields ↔ vals.inputSchema.isSome = true := by
  simp [ToolVals.fields, allFields, List.mem_filter]

lemma mem_fields_isReadonly {vals : ToolVals} : .isReadonly ∈ vals.fields ↔ vals.isReadonly.isSome = true := by
  simp [ToolVals.fields, allFields, List.mem_filter]

/-- A constraint that reads one field: it has been checked again, or the field is as it was. -/
lemma edit_name (hs : TableOk w actionOf s) (h : edit w actionOf s e = .ok s') (hr : r ∈ s'.tools) :
    checkName w (r.toTool actionOf) = .ok () := by
  rcases edit_cases h hr with hr | ⟨user, vals, -, -, hv⟩ | ⟨user, ids, vals, -, -, ⟨r₀, h0, rfl⟩, hv⟩
  · exact hs.check_name r hr
  · exact hv.name (by decide)
  · cases hn : vals.name with
    | some name => exact hv.name (mem_fields_name.2 (by rw [hn]; rfl))
    | none =>
      have hsame : (vals.apply r₀).name = r₀.name := by
        unfold ToolVals.apply
        rw [hn, Option.getD_none]
      have h0 := hs.check_name r₀ h0
      unfold checkName ToolRow.toTool at h0 ⊢
      rwa [hsame]

lemma edit_schema (hs : TableOk w actionOf s) (h : edit w actionOf s e = .ok s') (hr : r ∈ s'.tools) :
    checkInputSchema w (r.toTool actionOf) = .ok () := by
  rcases edit_cases h hr with hr | ⟨user, vals, -, -, hv⟩ | ⟨user, ids, vals, -, -, ⟨r₀, h0, rfl⟩, hv⟩
  · exact hs.check_input_schema r hr
  · exact hv.schema (by decide)
  · cases hn : vals.inputSchema with
    | some schema => exact hv.schema (mem_fields_inputSchema.2 (by rw [hn]; rfl))
    | none =>
      have hsame : (vals.apply r₀).inputSchema = r₀.inputSchema := by
        unfold ToolVals.apply
        rw [hn, Option.getD_none]
      have h0 := hs.check_input_schema r₀ h0
      unfold checkInputSchema ToolRow.toTool at h0 ⊢
      rwa [hsame]

/-- The keys of the rows after an edit. -/
lemma edit_keys (hs : TableOk w actionOf s) (h : edit w actionOf s e = .ok s') :
    (s'.tools.map (·.id)).Nodup ∧ (∀ r ∈ s'.tools, r.id < s'.nextId) ∧ (s'.tools.map (·.name)).Nodup := by
  cases e with
  | create user vals =>
    obtain ⟨-, -, h⟩ := except_bind_ok.1 h
    obtain ⟨rows, hrows, h⟩ := except_bind_ok.1 h
    obtain ⟨⟨⟩, hunique, h⟩ := except_bind_ok.1 h
    obtain ⟨-, -, h⟩ := except_bind_ok.1 h
    obtain rfl := except_pure_ok.1 h
    have hids := (newRows_ok hrows).1
    have hnew : ∀ r ∈ rows, s.nextId ≤ r.id ∧ r.id < s.nextId + rows.length := by
      intro r hr
      have hid : r.id ∈ List.range' s.nextId rows.length := by
        rw [← hids]
        exact List.mem_map_of_mem hr
      rwa [List.mem_range'_1] at hid
    refine ⟨?_, fun r hr => ?_, checkUniqueName_ok hunique⟩
    · rw [List.map_append]
      refine hs.ids_nodup.append (hids ▸ List.nodup_range') fun k hk hk' => ?_
      obtain ⟨r, hr, rfl⟩ := List.mem_map.1 hk
      obtain ⟨r', hr', he⟩ := List.mem_map.1 hk'
      have hlt := hs.ids_lt r hr
      have hge := (hnew r' hr').1
      omega
    · rcases List.mem_append.1 hr with hr | hr
      · have hlt := hs.ids_lt r hr
        simp only
        omega
      · exact (hnew r hr).2
  | write user ids vals =>
    obtain ⟨-, -, h⟩ := except_bind_ok.1 h
    simp only at h
    split_ifs at h
    · cases h
    obtain ⟨-, -, h⟩ := except_bind_ok.1 h
    obtain ⟨⟨⟩, hunique, h⟩ := except_bind_ok.1 h
    obtain rfl := except_pure_ok.1 h
    refine ⟨?_, fun r hr => ?_, checkUniqueName_ok hunique⟩
    · have hsame : (updateWhere (fun r => decide (r.id ∈ ids)) vals.apply s.tools).map ToolRow.id =
          s.tools.map ToolRow.id := map_updateWhere ToolRow.id fun r => rfl
      show (List.map ToolRow.id _).Nodup
      rw [hsame]
      exact hs.ids_nodup
    · obtain ⟨r₀, h0, rfl⟩ := mem_updateWhere.1 hr
      have hlt := hs.ids_lt r₀ h0
      split_ifs <;> exact hlt
  | unlink user ids =>
    obtain ⟨-, -, h⟩ := except_bind_ok.1 h
    obtain rfl := except_pure_ok.1 h
    exact ⟨hs.ids_nodup.sublist (List.filter_sublist.map _), fun r hr => hs.ids_lt r (List.mem_of_mem_filter hr),
      hs.unique_name.sublist (List.filter_sublist.map _)⟩
  | setActionState actionId state =>
    obtain rfl := Except.ok.inj h
    exact ⟨hs.ids_nodup, hs.ids_lt, hs.unique_name⟩
  | deleteAction actionId =>
    obtain rfl := Except.ok.inj h
    exact ⟨hs.ids_nodup.sublist (List.filter_sublist.map _), fun r hr => hs.ids_lt r (List.mem_of_mem_filter hr),
      hs.unique_name.sublist (List.filter_sublist.map _)⟩

lemma TableOk.after (hs : TableOk w actionOf s) (e : Edit) : TableOk w actionOf (after w actionOf s e) := by
  unfold Server.after
  cases h : edit w actionOf s e with
  | error x => exact hs
  | ok s' =>
    obtain ⟨hids, hlt, hnames⟩ := edit_keys hs h
    exact ⟨hids, hlt, hnames, fun _ => edit_name hs h, fun _ => edit_schema hs h⟩

lemma TableOk.history (hs : TableOk w actionOf s) (es : List Edit) : TableOk w actionOf (history w actionOf es s) := by
  unfold Server.history
  induction es generalizing s with
  | nil => exact hs
  | cons e es ih => exact ih (hs.after e)

/-- A table without tools. -/
def newTable (actions : List (ℕ × String)) : ToolTable := ⟨[], 1, actions⟩

lemma tableOk_newTable (actions : List (ℕ × String)) : TableOk w actionOf (newTable actions) :=
  ⟨List.nodup_nil, fun _ hr => absurd hr List.not_mem_nil, List.nodup_nil, fun _ hr => absurd hr List.not_mem_nil,
    fun _ hr => absurd hr List.not_mem_nil⟩

/-- **The site stays well-formed.**  The index is that of any classes, and the custom tools are what any edits by
any users have left, in any order and with any changes to the server actions in between. -/
theorem table_wellFormed (w : Site σ) (actionOf : ℕ → ServerAction σ) (mro : List (Klass σ)) (hloads : w.loads "" = none)
    (es : List Edit) (actions : List (ℕ × String)) :
    WellFormed ((history { w with index := builtins mro } actionOf es (newTable actions)).site
      { w with index := builtins mro } actionOf) := by
  have hs : TableOk _ _ (history { w with index := builtins mro } actionOf es (newTable actions)) :=
    (tableOk_newTable actions).history es
  refine ⟨?_, hloads, ?_, fun t ht => ?_, fun t ht => ?_⟩
  · show ((builtins mro).map (·.1)).Nodup
    unfold builtins
    rw [List.map_map, getAdvTools_eq, List.map_map]
    exact firsts_nodup
  · show ((List.map (ToolRow.toTool actionOf) _).map (·.name)).Nodup
    rw [List.map_map]
    exact hs.unique_name
  · obtain ⟨r, hr, rfl⟩ := List.mem_map.1 ht
    exact hs.check_name r hr
  · obtain ⟨r, hr, rfl⟩ := List.mem_map.1 ht
    exact hs.check_input_schema r hr

/-! ### Who has marked a tool read-only -/

/-- A system administrator marks the row read-only. -/
def MarksReadonly (s : ToolTable) (id : ℕ) : Edit → Prop
  | .create user vals => user.system = true ∧ ∃ i v, vals[i]? = some v ∧ id = s.nextId + i ∧ v.isReadonly = some true
  | .write user ids vals => user.system = true ∧ id ∈ ids ∧ vals.isReadonly = some true
  | _ => False

/-- **One edit**: a read-only row was one before, or the edit has marked it. -/
lemma edit_readonly (h : edit w actionOf s e = .ok s') (hr : r ∈ s'.tools) (hro : r.isReadonly = true) :
    (∃ r₀ ∈ s.tools, r₀.id = r.id ∧ r₀.isReadonly = true) ∨ MarksReadonly s r.id e := by
  rcases edit_cases h hr with hr | ⟨user, vals, rfl, ⟨i, v, hv, hid, he⟩, hval⟩ |
    ⟨user, ids, vals, rfl, hid, ⟨r₀, h0, rfl⟩, hval⟩
  · exact Or.inl ⟨r, hr, rfl, hro⟩
  · refine Or.inr ⟨hval.readonly (by decide) hro, i, v, hv, hid, ?_⟩
    rw [he] at hro
    cases hi : v.isReadonly with
    | none => simp [hi] at hro
    | some b => simpa [hi] using hro
  · cases hi : vals.isReadonly with
    | none =>
      refine Or.inl ⟨r₀, h0, rfl, ?_⟩
      simpa [ToolVals.apply, hi] using hro
    | some b =>
      refine Or.inr ⟨hval.readonly (mem_fields_isReadonly.2 (by rw [hi]; rfl)) hro, hid, ?_⟩
      simpa [ToolVals.apply, hi] using hro

/-- A read-only row of the table was marked by one of the edits. -/
lemma history_readonly {actions : List (ℕ × String)} (es : List Edit)
    (hr : r ∈ (history w actionOf es (newTable actions)).tools) (hro : r.isReadonly = true) :
    ∃ before e later, es = before ++ e :: later ∧
      MarksReadonly (history w actionOf before (newTable actions)) r.id e := by
  induction es using List.reverseRecOn generalizing r with
  | nil => cases hr
  | append_singleton es e ih =>
    have hstep : history w actionOf (es ++ [e]) (newTable actions) =
        after w actionOf (history w actionOf es (newTable actions)) e := List.foldl_concat ..
    rw [hstep] at hr
    have hearlier : ∀ r₀ ∈ (history w actionOf es (newTable actions)).tools, r₀.id = r.id → r₀.isReadonly = true →
        ∃ before e' later, es ++ [e] = before ++ e' :: later ∧
          MarksReadonly (history w actionOf before (newTable actions)) r.id e' := by
      intro r₀ h0 hid h0ro
      obtain ⟨before, e', later, rfl, hm⟩ := ih h0 h0ro
      exact ⟨before, e', later ++ [e], by simp, hid ▸ hm⟩
    unfold after at hr
    cases h : edit w actionOf (history w actionOf es (newTable actions)) e with
    | error x =>
      rw [h] at hr
      exact hearlier r hr rfl hro
    | ok s' =>
      rw [h] at hr
      rcases edit_readonly h hr hro with ⟨r₀, h0, hid, h0ro⟩ | hm
      · exact hearlier r₀ h0 hid h0ro
      · exact ⟨es, e, [], rfl, hm⟩

/-- **The read-only boundary.**  A connection without the scope to write runs a custom tool only if one of the edits
of the table, by a system administrator, has marked the tool read-only, whoever else has edited the tools since. -/
theorem readonly_marked (w : Site σ) (actionOf : ℕ → ServerAction σ) (es : List Edit) (actions : List (ℕ × String))
    {q : Session} {args : Dict} {db : σ} {c : Call σ} {t : CustomTool σ} (hq : writePermitted q = false)
    (hc : callOf ((history w actionOf es (newTable actions)).site w actionOf) args = some c) (ht : c.tool = .custom t)
    (hran : (invokeTool ((history w actionOf es (newTable actions)).site w actionOf) q args db).ran ≠ []) :
    ∃ r ∈ (history w actionOf es (newTable actions)).tools, r.toTool actionOf = t ∧
      ∃ before e later, es = before ++ e :: later ∧
        MarksReadonly (history w actionOf before (newTable actions)) r.id e := by
  generalize hs : history w actionOf es (newTable actions) = s at hc hran ⊢
  have hadmitted : c.Admitted (s.site w actionOf) q db := by
    rw [invokeTool_of_call hc] at hran
    have htried : c.Tried (s.site w actionOf) q db (c.tryBlock (s.site w actionOf) q db) := tryBlock_tried
    have hran' : (c.tryBlock (s.site w actionOf) q db).ran ≠ [] := hran
    generalize c.tryBlock (s.site w actionOf) q db = a at htried hran'
    cases htried with
    | checkRaised e h => exact absurd rfl hran'
    | refused message h => exact absurd rfl hran'
    | incomplete message h hs hm => exact absurd rfl hran'
    | returned ha output respSummary db' h => exact ha
    | raised ha x db' h => exact ha
  have hro : t.isReadonly = true := by
    have hscope := hadmitted.scope
    unfold Call.ReadOnly at hscope
    rw [ht] at hscope
    cases hb : t.isReadonly with
    | true => rfl
    | false =>
      refine absurd ⟨?_, hq⟩ hscope
      simp [toolMeta, requiresWriteScope, hb, Dict.get, Value.isTrue]
  have hmem : t ∈ s.tools.map (ToolRow.toTool actionOf) := by
    rcases resolveTool_some (resolveTool_of_call hc) with ⟨b, -, he⟩ | ⟨-, -, t', hmem, -, -, he⟩
    · rw [ht] at he
      cases he
    · rw [ht] at he
      rwa [Tool.custom.inj he]
  obtain ⟨r, hr, rfl⟩ := List.mem_map.1 hmem
  subst hs
  exact ⟨r, hr, rfl, history_readonly es hr hro⟩

end ToolTable

/-- A system administrator, and an administrator of the module. -/
def rootUser : Editor := ⟨true, true, fun _ => true⟩

def deskManager : Editor := ⟨true, false, fun _ => true⟩

/-- A tool that is marked read-only, and is then given another server action by somebody else. -/
def deskEdits : List Edit :=
  [.create rootUser [⟨some "open_tickets", some "Lists the open tickets", some 7, some "{}", some true, none⟩],
    .write deskManager [1] ⟨none, none, some 8, none, none, none⟩]

def deskActions : List (ℕ × String) := [(7, "code"), (8, "code")]

theorem table_wellFormed_desk : WellFormed
    ((history { deskSite with index := builtins [baseClass] } (fun _ => deskSite.deskAction) deskEdits
      (newTable deskActions)).site { deskSite with index := builtins [baseClass] } (fun _ => deskSite.deskAction)) :=
  table_wellFormed deskSite (fun _ => deskSite.deskAction) [baseClass] rfl deskEdits deskActions

theorem readonly_marked_desk :
    ∃ r ∈ (history deskSite (fun _ => deskSite.deskAction) deskEdits (newTable deskActions)).tools,
      r.toTool (fun _ => deskSite.deskAction) = ⟨"open_tickets", true, true, "{}", deskSite.deskAction⟩ ∧
      ∃ before e later, deskEdits = before ++ e :: later ∧
        MarksReadonly (history deskSite (fun _ => deskSite.deskAction) before (newTable deskActions)) r.id e := by
  have hcall : callOf ((history deskSite (fun _ => deskSite.deskAction) deskEdits (newTable deskActions)).site deskSite
      (fun _ => deskSite.deskAction)) [("name", .str "open_tickets")] =
      some ⟨"open_tickets", .custom ⟨"open_tickets", true, true, "{}", deskSite.deskAction⟩, []⟩ := rfl
  have hran : (invokeTool ((history deskSite (fun _ => deskSite.deskAction) deskEdits (newTable deskActions)).site
      deskSite (fun _ => deskSite.deskAction)) readSession [("name", .str "open_tickets")] ()).ran ≠ [] :=
    List.cons_ne_nil _ _
  exact readonly_marked deskSite (fun _ => deskSite.deskAction) deskEdits deskActions rfl hcall rfl hran

end AdvMcp.Server
