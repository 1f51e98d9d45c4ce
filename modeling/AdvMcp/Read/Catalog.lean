import AdvMcp.Read.Aggregate
import AdvMcp.Read.Validation
import AdvMcp.Read.Caps

/-!
# The tools that describe

`describe`, `me`, `count` and `resources` of `models/read_tools.py`, with `describe_session` of
`server/helpers.py`.

* `describe` — the open models, or the fields of one;
* `me` — the session of the caller;
* `count_total` — `count` is the `total` that every page of `search` shows.
-/

namespace AdvMcp.Read

open AdvMcp.Access AdvMcp.Lib AdvMcp.Py

/-! ### The session -/

structure Company where
  id : ℤ
  name : String
  displayName : String

/-- `env.user`, as far as the tools read it; an empty `tz` is none. -/
structure SessionUser where
  uid : ℕ
  name : String
  displayName : String
  login : String
  tz : String
  partnerId : ℤ
  company : Company
  companies : List Company

/-- What a call adds to the database: the user, the OAuth scope if there is one, and the date. -/
structure Viewer where
  user : Except PyExc SessionUser
  oauthScope : Option String
  today : String

def datetimeHandling : String :=
  "Datetime handling:\n- All datetimes stored and returned by Odoo are in UTC.\n" ++
    "- Provide datetimes to tools in UTC.\n- Convert to the user's timezone only for display."

/-- `_one_line` -/
def oneLine (value : String) : String := replace '\n' " " (replace '\r' " " value)

/-- The text about a user. -/
def sessionText (user : SessionUser) : String :=
  let company (c : Company) : String := oneLine c.displayName ++ " (ID: " ++ toString c.id ++ ")"
  join "\n" (["You are connected to Odoo via Advanced MCP Server as:",
      "- User: " ++ oneLine user.displayName ++ " (login: " ++ oneLine user.login ++ ")",
      "- Timezone: " ++ (if user.tz = "" then "UTC (user has no timezone set)" else user.tz),
      "- Active company: " ++ company user.company] ++
    (if 1 < user.companies.length then ["- Allowed companies: " ++ join ", " (user.companies.map company)] else []) ++
    ["", datetimeHandling])

/-- `describe_session` -/
def describeSession (user : Except PyExc SessionUser) : Except PyExc String :=
  match user with
  | .ok user => .ok (sessionText user)
  | .error e => if e.cls = .baseException then .error e else .ok datetimeHandling

section Tools

variable (py : Builtins) (env : Env)

/-! ### `describe` -/

/-- `{op: ... for op in ("read", "create", "write", "unlink")}` -/
def resourceOperations (e : Resource) : Dict :=
  [Operation.read, .create, .write, .unlink].map fun op => (op.name, .bool (e.operations op))

def resourceEntry (e : Resource) : Value :=
  .dict [("model", .str e.model), ("name", .str e.name), ("operations", .dict (resourceOperations e))]

/-- A line of `_catalog_resources`. -/
def resourceLine (e : Resource) : String :=
  let allowed := join ", " (([Operation.read, .create, .write, .unlink].filter e.operations).map (·.name))
  "- " ++ e.name ++ " (" ++ e.model ++ ") [" ++ (if allowed = "" then "no operations" else allowed) ++ "]"

/-- `_catalog_resources` -/
def catalog : Value :=
  let enriched := listAccessibleModels env.registry
  result
    (join "\n" ([rule 60, "Accessible resources (" ++ toString enriched.length ++ ")", rule 60] ++
      (if enriched.isEmpty then ["No resources are currently accessible through this gateway."] else []) ++
      enriched.map resourceLine))
    (.dict [("resources", .list (enriched.map resourceEntry))])

/-- `fname in allfields` -/
def inNames (names : Value) (fname : String) : Except PyExc Bool :=
  match names with
  | .list xs => .ok (xs.any fun x => py.eq (.str fname) x)
  | .dict kvs => .ok (Dict.has kvs fname)
  | .str s => .ok (inText fname s)
  | v => .error (.of .typeError ("argument of type '" ++ v.typeName ++ "' is not iterable"))

/-- `rs.fields_get(field_names or None, attributes=...)` -/
def fieldsNamed (model : String) (names : Value) : Except PyExc Schema :=
  if names.truthy then filtered (fun f => inNames py names f.1) (env.fieldsGet model schemaFieldAttributes)
  else .ok (env.fieldsGet model schemaFieldAttributes)

/-- A line of `_format_schema_text`. -/
def schemaLine (f : String × Dict) : String :=
  let ftype := py.str (orElse (f.2.get "type") (.str "?"))
  let rel := f.2.get "relation"
  let label := f.2.get "string"
  let flags := ["required", "readonly"].filter fun fl => (f.2.get fl).truthy
  let sel := f.2.get "selection"
  f.1 ++ " (" ++ (if rel.truthy then ftype ++ "→" ++ py.str rel else ftype) ++ ")" ++
    (if label.truthy then " — " ++ py.str label else "") ++
    (if flags.isEmpty then "" else " [" ++ join ", " flags ++ "]") ++
    if sel.truthy then ": " ++ join ", " (sel.items.map fun s => py.str (s.items.headD .none)) else ""

/-- `_model_access_summary` -/
def modelAccessSummary (model : String) : Value :=
  .dict [("model", .str model), ("note", .str "Use browse_schema without 'model' to see allowed ops")]

/-- `_inspect_model` -/
def inspectModel (model : String) (fieldNames : Value) : Except PyExc Value := do
  resolveModel env model
  checkOp py env model "read"
  let raw ← fieldsNamed py env model fieldNames
  let fields := raw.insertionSort fun f g => f.1 ≤ g.1
  return result
    (join "\n" ([rule 60, "Schema: " ++ model ++ " (" ++ toString fields.length ++ " fields)", rule 60] ++
      fields.map (schemaLine py)))
    (.dict [("model", .str model), ("fields", .list (fields.map fun f => .dict (("name", .str f.1) :: f.2))),
      ("total_fields", .int fields.length), ("access", modelAccessSummary model)])

/-! ### `me` -/

/-- A count that is left out when it cannot be made. -/
def activityCount (key : String) (count : Except PyExc ℤ) : Except PyExc Dict :=
  match count with
  | .ok n => .ok [(key, .int n)]
  | .error e => if e.cls = .baseException then .error e else .ok []

/-- `_whoami_activity_context` -/
def whoamiActivityContext (user : SessionUser) (today : String) : Except PyExc Dict := do
  let pending ← activityCount "pending_activities" (env.searchCount "mail.activity"
    [.list [.str "user_id", .str "=", .int user.uid], .list [.str "date_deadline", .str "<=", .object today]])
  let unread ← activityCount "unread_messages" (env.searchCount "mail.notification"
    [.list [.str "res_partner_id", .str "=", .int user.partnerId], .list [.str "is_read", .str "=", .bool false]])
  return pending ++ unread

def me (q : Viewer) : Except PyExc Value := do
  let baseText ← describeSession q.user
  let resources := listAccessibleModels env.registry
  let scope := (q.oauthScope.filter (· ≠ "")).getD "api_key"
  let user ← q.user
  let activity ← whoamiActivityContext env user q.today
  return result
    (baseText ++ "\nPermitted resources: " ++ toString resources.length ++ " models | Scope: " ++ scope)
    (.dict ([("user", .str user.name), ("uid", .int user.uid),
      ("tz", .str (if user.tz = "" then "UTC" else user.tz)), ("company", .str user.company.name),
      ("permitted_resources", .list ((permittedResources env.registry).map .str)),
      ("active_scope", .str scope)] ++ activity))

/-! ### `count` -/

/-- The answer of `count`. -/
def counted (model : String) (total : ℤ) (filterExpr : List Value) : Value :=
  result (model ++ ": " ++ toString total ++ " records match")
    (.dict [("model", .str model), ("count", .int total), ("domain", .list filterExpr)])

def count (model : String) (domain : Value) : Except PyExc Value := do
  resolveModel env model
  checkOp py env model "read"
  let filterExpr ← coerceDomain py domain
  let total ← env.searchCount model filterExpr
  return counted model total filterExpr

/-! ### `resources` -/

/-- The templates, with their examples. -/
def resourceTemplates : List (String × String × String) :=
  [("odoo://record/\x7bmodel\x7d/\x7bid\x7d/\x7bfield\x7d", "Fetch a record's binary or image field.",
      "odoo://record/res.partner/10/image_1920"),
    ("odoo://attachment/\x7bid\x7d", "Fetch an ir.attachment by ID.", "odoo://attachment/42")]

def resources : Value :=
  result
    (join "\n" ([rule 60, "Resource catalog", rule 60] ++
      resourceTemplates.map fun t => "- " ++ t.1 ++ ": " ++ t.2.1))
    (.dict [("templates", .list (resourceTemplates.map fun t => .dict [("uri_template", .str t.1),
        ("description", .str t.2.1), ("example", .str t.2.2)])),
      ("accessible_resources", .int (listAccessibleModels env.registry).length)])

end Tools

/-! ### Two ways to count -/

section Count

variable {py : Builtins} {env : Env} {model : String} {domain fields order limit offset r : Value}

/-- A domain that both read alike is one filter. -/
lemma filter_count (D : ParserDocs py) (hd : ReadAlike py domain) {f : List Value}
    (hf : buildFilter py domain .none = .ok f) : coerceDomain py domain = .ok f := by
  cases domain with
  | none => exact hf
  | list clauses =>
    rw [buildFilter_none] at hf
    exact hf
  | str s =>
    rcases (sameFilter_str D s).2 hd with ⟨f', hf', hc⟩ | ⟨e, e', he, -⟩
    · rwa [← Except.ok.inj (hf'.symm.trans hf)]
    · rw [hf] at he
      cases he
  | _ => exact absurd hd id

/-- **The total of every page is the count.**  Over a fixed result set, and for every domain that both tools read
alike, whatever page is asked for: the `total` that `search` shows, counted or taken from a first page that is not
full, is what `count` answers for the same domain. -/
theorem count_total (D : ParserDocs py) (hd : ReadAlike py domain) (R : ResultSet py env model domain .none fields order)
    (h : search py env model domain .none fields limit offset order = .ok r) :
    ∃ found : Found, r = found.answer py env model ∧
      count py env model domain = .ok (counted model found.page.totalCount R.filterExpr) := by
  rw [search_eq] at h
  obtain ⟨found, hfound, rfl⟩ : ∃ found : Found,
      searchFound py env model domain .none fields order limit offset = .ok found ∧
        found.answer py env model = r := by
    cases hs : searchFound py env model domain .none fields order limit offset with
    | error e =>
      rw [hs] at h
      cases h
    | ok found =>
      rw [hs] at h
      exact ⟨found, rfl, Except.ok.inj h⟩
  refine ⟨found, rfl, ?_⟩
  -- the page that was asked for
  obtain ⟨l, hl⟩ : ∃ l, clampLimit py env limit = .ok l := by
    cases hl : clampLimit py env limit with
    | ok l => exact ⟨l, rfl⟩
    | error e =>
      unfold searchFound at hfound
      rw [R.resolved, R.allowed, R.filter, hl] at hfound
      cases hfound
  obtain ⟨o, ho⟩ : ∃ o, clampOffset py env offset = .ok o := by
    cases ho : clampOffset py env offset with
    | ok o => exact ⟨o, rfl⟩
    | error e =>
      unfold searchFound at hfound
      rw [R.resolved, R.allowed, R.filter, hl, ho] at hfound
      cases hfound
  obtain ⟨hpos, -⟩ := clampLimit_spec hl
  have hnonneg : 0 ≤ o := clampOffset_nonneg ho
  obtain ⟨l, rfl⟩ := Int.eq_ofNat_of_zero_le (by omega : 0 ≤ l)
  obtain ⟨o, rfl⟩ := Int.eq_ofNat_of_zero_le hnonneg
  obtain ⟨found', hfound', -, htotal, -⟩ := R.found (by omega) hl ho
  obtain rfl := Except.ok.inj (hfound.symm.trans hfound')
  unfold count
  rw [R.resolved, R.allowed, ok_bind, ok_bind, filter_count D hd R.filter, ok_bind, R.count, ok_bind, htotal, R.length]
  rfl

/-- Twenty-five partners, counted on the last page. -/
theorem count_total_partners : ∃ r, ∃ found : Found,
    search plainBuiltins (numberedEnv 25) "res.partner" .none .none (.list [.str "name"]) (.int 10) (.int 20) .none =
        .ok r ∧ r = Found.answer plainBuiltins (numberedEnv 25) "res.partner" found ∧
      count plainBuiltins (numberedEnv 25) "res.partner" .none =
        .ok (counted "res.partner" found.page.totalCount (numberedSet 25).filterExpr) := by
  have h : search plainBuiltins (numberedEnv 25) "res.partner" .none .none (.list [.str "name"]) (.int 10)
      (.int 20) .none = .ok _ := rfl
  obtain ⟨found, hr, hc⟩ :=
    count_total plainBuiltins_parsers (show ReadAlike plainBuiltins .none from trivial) (numberedSet 25) h
  exact ⟨_, found, h, hr, hc⟩

end Count

end AdvMcp.Read
