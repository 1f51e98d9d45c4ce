import AdvMcp.Lib.Table
import AdvMcp.Read.Paging
import AdvMcp.Server.Atomic

/-!
# The list of the tools against the calls

`tools/list` filters the index and the custom tools; `tools/call` resolves one name and checks it.

* `enumerateTools` — `_enumerate_tools`, with `_visible_tools` of the custom tools;
* `checkName`, `checkInputSchema` — the constraints of `adv.custom.tool`, and `WellFormed`, a site whose
  rows satisfy them;
* `Passes` — what a call checks of its name, and `ran_iff_passes`, that the tool of a complete call is run
  exactly then;
* `listed_iff_passes` — the names are distinct, and are those that pass.
-/

namespace AdvMcp.Server

open AdvMcp.Lib AdvMcp.OAuth AdvMcp.Py AdvMcp.Read

/-- The texts of the tools, the gateway's parameters, and `desc % {"default": …, "max": …}`. -/
structure Catalog where
  description : String → String
  title : String → Option String
  py : Builtins
  env : Env
  fill : String → ℤ × ℤ → Except PyExc String

section ToolList

variable {σ : Type} (w : Site σ) (k : Catalog) (q : Session)

/-! ### The list -/

/-- `argument of type 'int' is not iterable` -/
def notIterable (v : Value) : PyExc :=
  .of .typeError ("argument of type '" ++ v.typeName ++ "' is not iterable")

/-- `"%(default)s" in desc` -/
def hasDefault : Value → Except PyExc Bool
  | .str desc => .ok (inText "%(default)s" desc)
  | .list xs => .ok (xs.any fun x => x.str? = some "%(default)s")
  | .dict kvs => .ok (Dict.has kvs "%(default)s")
  | v => .error (notIterable v)

/-- `_adv_live_input_schema` -/
def advLiveInputSchema (schema : Dict) : Except PyExc Dict :=
  match schema.getOr "properties" (.dict []) with
  | .dict props =>
    match Dict.get props "limit" with
    | .dict limit => do
      let desc := Dict.getOr limit "description" (.str "")
      if !(← hasDefault desc) then return schema
      match desc with
      | .str text =>
        let filled ← k.fill text (limitBounds k.py k.env)
        return schema.set "properties"
          (.dict (Dict.set props "limit" (.dict (Dict.set limit "description" (.str filled)))))
      | v => throw (.of .typeError ("unsupported operand type(s) for %: '" ++ v.typeName ++ "' and 'dict'"))
    | _ => .ok schema
  | v => .error (noGet v)

/-- The entry of a builtin tool. -/
def builtinEntry (name : String) (info : ToolMeta) : Except PyExc Dict := do
  let schema ← advLiveInputSchema k info.inputSchema
  return [("name", .str name), ("description", .str (k.description name)), ("inputSchema", .dict schema)] ++
    (match (k.title name).filter (· ≠ "") with
      | some title => [("title", .str title)]
      | none => []) ++
    (if info.annotations.isEmpty then [] else [("annotations", .dict info.annotations)])

def customAnnotations (t : CustomTool σ) : Dict :=
  [("readOnlyHint", .bool t.isReadonly), ("destructiveHint", .bool (!t.isReadonly))]

/-- The entry of a custom tool. -/
def customEntry (t : CustomTool σ) (schema : Dict) : Dict :=
  [("name", .str t.name), ("title", .str t.name), ("description", .str (k.description t.name)),
    ("inputSchema", .dict schema), ("annotations", .dict (customAnnotations t))]

/-- `_visible_tools` -/
def visibleTools (db : σ) : Except PyExc (List (CustomTool σ)) :=
  filtered (fun t => userCanRun w t db) (w.customTools.filter (·.active))

/-- What the loop over the visible tools appends for one of them. -/
def listedEntry (t : CustomTool σ) : Option Dict :=
  if requiresWriteScope (customAnnotations t) && !writePermitted q then none
  else (parsedInputSchema w t).map (customEntry k t)

/-- `_enumerate_tools` -/
def enumerateTools (db : σ) : Except PyExc Dict := do
  let writeOk := writePermitted q
  let builtIn ← (w.index.filter fun p => writeOk || !requiresWriteScope p.2.info.annotations).mapM
    fun p => builtinEntry k p.1 p.2.info
  let visible ← visibleTools w db
  let custom := visible.filterMap (listedEntry w k q)
  return [("tools", .list ((builtIn ++ custom).map .dict))]

/-- The name of an entry. -/
def entryName : Value → Option String
  | .dict entry => (Dict.get entry "name").str?
  | _ => none

/-- The names in a list of tools. -/
def listedNames (out : Dict) : List String :=
  match out.get "tools" with
  | .list tools => tools.filterMap entryName
  | _ => []

/-! ### The constraints of the custom tools -/

/-- `_TOOL_NAME_RE.fullmatch(name)` -/
def toolNameRe (name : String) : Bool :=
  1 ≤ name.length && name.length ≤ 64 && name.toList.all fun c => c.isAlphanum || c = '_' || c = '-'

/-- `_check_name` -/
def checkName (t : CustomTool σ) : Except PyExc Unit :=
  if !toolNameRe t.name then
    .error (.of .validationError ("Invalid tool name '" ++ t.name ++
      "': use 1-64 characters from A-Z, a-z, 0-9, underscore or hyphen."))
  else if (w.index.lookup t.name).isSome then
    .error (.of .validationError ("'" ++ t.name ++
      "' is the name of a builtin tool; pick a different name."))
  else .ok ()

/-- `_check_input_schema` -/
def checkInputSchema (t : CustomTool σ) : Except PyExc Unit :=
  match w.loads t.inputSchema with
  | none => .error (.of .validationError "Input schema must be valid JSON")
  | some (.dict schema) =>
    match Dict.get schema "type" with
    | .none | .str "object" =>
      match Dict.get schema "required" with
      | .none => .ok ()
      | .list required =>
        if required.all fun item => item.str?.isSome then .ok ()
        else .error (.of .validationError "Input schema 'required' must be a list of property name strings.")
      | _ => .error (.of .validationError "Input schema 'required' must be a list of property name strings.")
    | type => .error (.of .validationError
        ("Input schema 'type' must be \"object\", got \"" ++ type.pyStr w.repr ++ "\"."))
  | some _ => .error (.of .validationError
      "Input schema must be a JSON object, e.g. \x7b\"type\": \"object\", \"properties\": \x7b\x7d\x7d.")

/-- The index is a dictionary, an empty text is no JSON, and the custom tools satisfy their
constraints. -/
structure WellFormed : Prop where
  index_nodup : (w.index.map (·.1)).Nodup
  loads_empty : w.loads "" = none
  unique_name : (w.customTools.map (·.name)).Nodup
  check_name : ∀ t ∈ w.customTools, checkName w t = .ok ()
  check_input_schema : ∀ t ∈ w.customTools, checkInputSchema w t = .ok ()

/-! ### The checks of a call -/

/-- The tool exists, the caller may run it, and the scope of the connection allows it. -/
def Passes (db : σ) (name : String) : Prop :=
  ∃ tool, resolveTool w name = .ok (some tool) ∧ ∀ incoming, (⟨name, tool, incoming⟩ : Call σ).permission w db = .ok true ∧
    ¬ (⟨name, tool, incoming⟩ : Call σ).ReadOnly w q

variable {w k q} {c : Call σ} {args out : Dict} {db : σ} {t : CustomTool σ} {b : Builtin σ} {name : String}

/-- The arguments of a call are not read by these checks. -/
lemma passes_iff {tool : Tool σ} (h : resolveTool w name = .ok (some tool)) (incoming : Dict) :
    Passes w q db name ↔ (⟨name, tool, incoming⟩ : Call σ).permission w db = .ok true ∧
      ¬ (⟨name, tool, incoming⟩ : Call σ).ReadOnly w q := by
  constructor
  · rintro ⟨tool', h', hp⟩
    obtain rfl : tool = tool' := Option.some.inj (Except.ok.inj (h.symm.trans h'))
    exact hp incoming
  · intro hp
    exact ⟨tool, h, fun _ => hp⟩

/-- The tool of a call with all its arguments is run exactly when its name passes. -/
lemma ran_iff_passes (hc : callOf w args = some c)
    (hm : missingArgs (toolMeta w c.tool).inputSchema c.incoming = []) :
    (invokeTool w q args db).ran = [toolMeta w c.tool] ↔ Passes w q db c.name := by
  rw [passes_iff (resolveTool_of_call hc) c.incoming, invokeTool_of_call hc]
  show (c.tryBlock w q db).ran = _ ↔ _
  have ht : c.Tried w q db (c.tryBlock w q db) := tryBlock_tried
  generalize c.tryBlock w q db = a at ht
  cases ht with
  | checkRaised e h =>
    refine iff_of_false (by simp) ?_
    rintro ⟨hp, -⟩
    rw [h] at hp
    cases hp
  | refused message h =>
    refine iff_of_false (by simp) ?_
    rintro ⟨hp, hs⟩
    rcases h with h | ⟨-, h⟩
    · rw [h] at hp
      cases hp
    · exact hs h
  | incomplete message h hs hm' => exact absurd hm hm'
  | returned ha output respSummary db' h => exact iff_of_true rfl ⟨ha.permission, ha.scope⟩
  | raised ha x db' h => exact iff_of_true rfl ⟨ha.permission, ha.scope⟩

/-- A builtin tool is run for whoever may write, and for all if it is read-only. -/
lemma passes_builtin (h : w.index.lookup name = some b) :
    Passes w q db name ↔ (writePermitted q || !requiresWriteScope b.info.annotations) = true := by
  have hr : resolveTool w name = .ok (some (.builtin b)) := by
    unfold resolveTool
    rw [h]
  rw [passes_iff hr []]
  simp only [Call.permission, Call.ReadOnly, toolMeta, true_and]
  cases writePermitted q <;> cases requiresWriteScope b.info.annotations <;> simp

/-! ### Well-formed sites -/

/-- A name in the index is that of its one tool. -/
lemma WellFormed.lookup_of_mem (hw : WellFormed w) (h : (name, b) ∈ w.index) :
    w.index.lookup name = some b := by
  cases hl : w.index.lookup name with
  | none =>
    rw [List.lookup_eq_none_iff] at hl
    simpa using hl _ h
  | some b' =>
    obtain ⟨l₁, l₂, he, -⟩ := List.lookup_eq_some_iff.1 hl
    have hmem : (name, b') ∈ w.index := by
      rw [he]
      exact List.mem_append_right _ List.mem_cons_self
    have := Apart.of_nodup hw.index_nodup (name, b') hmem (name, b) h rfl
    rw [(Prod.mk.inj this).2]

lemma WellFormed.toolNameRe_of_mem (hw : WellFormed w) (ht : t ∈ w.customTools) : toolNameRe t.name = true := by
  have h := hw.check_name t ht
  unfold checkName at h
  cases hn : toolNameRe t.name with
  | true => rfl
  | false =>
    rw [hn] at h
    cases h

/-- No custom tool has the name of a builtin one. -/
lemma WellFormed.lookup_custom (hw : WellFormed w) (ht : t ∈ w.customTools) :
    w.index.lookup t.name = none := by
  have h := hw.check_name t ht
  unfold checkName at h
  rw [hw.toolNameRe_of_mem ht] at h
  cases hl : w.index.lookup t.name with
  | none => rfl
  | some b => simp [hl] at h

/-- The schema of a custom tool is parsed. -/
lemma WellFormed.parsed (hw : WellFormed w) (ht : t ∈ w.customTools) :
    ∃ schema, parsedInputSchema w t = some schema := by
  have h := hw.check_input_schema t ht
  unfold checkInputSchema at h
  unfold parsedInputSchema
  have h0 : t.inputSchema ≠ "" := by
    intro h0
    rw [h0, hw.loads_empty] at h
    cases h
  rw [if_neg h0]
  cases hl : w.loads t.inputSchema with
  | none =>
    rw [hl] at h
    cases h
  | some v =>
    rw [hl] at h
    cases v with
    | dict schema => exact ⟨schema, rfl⟩
    | _ => cases h

/-- The characters of a tool name are plain ones. -/
lemma plain_of_toolNameRe {name : String} (h : toolNameRe name = true) :
    ∀ ch ∈ name.toList, ch ≠ '\x00' ∧ ch.toNat < 128 := by
  intro ch hch
  simp only [toolNameRe, Bool.and_eq_true, List.all_eq_true] at h
  have hc := h.2 ch hch
  constructor
  · rintro rfl
    revert hc
    decide
  · simp only [Bool.or_eq_true, decide_eq_true_eq] at hc
    rcases hc with (hc | rfl) | rfl
    · have hn := isAlphanum_toNat hc
      omega
    · decide
    · decide

/-- The name of a custom tool is searched. -/
lemma WellFormed.searched (hw : WellFormed w) (ht : t ∈ w.customTools) : w.search.raises t.name = none :=
  w.search.plain _ (plain_of_toolNameRe (hw.toolNameRe_of_mem ht))

/-- A custom tool is found under its name while it is active. -/
lemma WellFormed.resolve_custom (hw : WellFormed w) (ht : t ∈ w.customTools) (ha : t.active = true) :
    resolveTool w t.name = .ok (some (.custom t)) := by
  unfold resolveTool resolveCustomTool
  rw [hw.lookup_custom ht, hw.searched ht]
  have hf : w.customTools.find? (fun u => u.name = t.name && u.active) = some t :=
    (Apart.of_nodup hw.unique_name).find?_eq_some ht (by simp [ha]) fun u _ hu => by
      simp only [Bool.and_eq_true, decide_eq_true_eq] at hu
      exact hu.1
  simp only
  rw [hf]
  rfl

/-- What passes is a tool of the index or an active custom tool. -/
lemma Passes.cases (h : Passes w q db name) : (∃ b, w.index.lookup name = some b) ∨
    ∃ t ∈ w.customTools, t.active = true ∧ t.name = name := by
  obtain ⟨tool, hr, -⟩ := h
  rcases resolveTool_some hr with ⟨b, hl, -⟩ | ⟨-, -, t, ht, hn, ha, -⟩
  · exact Or.inl ⟨b, hl⟩
  · exact Or.inr ⟨t, ht, ha, hn⟩

lemma WellFormed.passes_custom (hw : WellFormed w) (ht : t ∈ w.customTools) (ha : t.active = true) :
    Passes w q db t.name ↔ userCanRun w t db = .ok true ∧ (listedEntry w k q t).isSome = true := by
  obtain ⟨schema, hs⟩ := hw.parsed ht
  rw [passes_iff (hw.resolve_custom ht ha) []]
  refine and_congr_right fun _ => ?_
  unfold listedEntry Call.ReadOnly
  rw [hs]
  show ¬ (requiresWriteScope [("readOnlyHint", .bool t.isReadonly)] = true ∧ _) ↔ _
  have hr : requiresWriteScope (customAnnotations t) =
      requiresWriteScope [("readOnlyHint", .bool t.isReadonly)] := rfl
  rw [hr]
  cases requiresWriteScope [("readOnlyHint", .bool t.isReadonly)] <;> cases writePermitted q <;> simp

/-! ### What is listed -/

lemma entryName_builtin {info : ToolMeta} {entry : Dict} (h : builtinEntry k name info = .ok entry) :
    entryName (.dict entry) = some name := by
  unfold builtinEntry at h
  obtain ⟨schema, -, h⟩ := except_bind_ok.1 h
  obtain rfl := except_pure_ok.1 h
  rfl

lemma entryName_listed {entry : Dict} (h : listedEntry w k q t = some entry) :
    entryName (.dict entry) = some t.name := by
  unfold listedEntry at h
  split_ifs at h
  obtain ⟨schema, -, rfl⟩ := Option.map_eq_some_iff.1 h
  rfl

lemma names_builtIn {l : List (String × Builtin σ)} {entries : List Dict}
    (h : l.mapM (fun p => builtinEntry k p.1 p.2.info) = .ok entries) :
    (entries.map Value.dict).filterMap entryName = l.map (·.1) := by
  rw [mapM_ok] at h
  induction h with
  | nil => rfl
  | cons he _ ih => rw [List.map_cons, List.filterMap_cons_some (entryName_builtin he), ih, List.map_cons]

lemma names_custom (l : List (CustomTool σ)) :
    ((l.filterMap (listedEntry w k q)).map Value.dict).filterMap entryName =
      (l.filter fun t => (listedEntry w k q t).isSome).map (·.name) := by
  induction l with
  | nil => rfl
  | cons t l ih =>
    cases he : listedEntry w k q t with
    | none => rw [List.filterMap_cons_none he, ih, List.filter_cons_of_neg (by simp [he])]
    | some entry =>
      rw [List.filterMap_cons_some he, List.map_cons, List.filterMap_cons_some (entryName_listed he), ih,
        List.filter_cons_of_pos (by simp [he]), List.map_cons]

/-- The names that are listed: those of the index, and of the visible custom tools. -/
lemma listedNames_eq (h : enumerateTools w k q db = .ok out) :
    ∃ visible, visibleTools w db = .ok visible ∧ listedNames out =
      (w.index.filter fun p => writePermitted q || !requiresWriteScope p.2.info.annotations).map (·.1) ++
        (visible.filter fun t => (listedEntry w k q t).isSome).map (·.name) := by
  unfold enumerateTools at h
  obtain ⟨builtIn, hb, h⟩ := except_bind_ok.1 h
  obtain ⟨visible, hv, h⟩ := except_bind_ok.1 h
  obtain rfl := except_pure_ok.1 h
  refine ⟨visible, hv, ?_⟩
  show List.filterMap entryName (List.map Value.dict (builtIn ++ visible.filterMap (listedEntry w k q))) = _
  rw [List.map_append, List.filterMap_append, names_builtIn hb, names_custom]

lemma mem_visibleTools {visible : List (CustomTool σ)} (h : visibleTools w db = .ok visible) :
    t ∈ visible ↔ (t ∈ w.customTools ∧ t.active = true) ∧ userCanRun w t db = .ok true := by
  rw [mem_filtered h, List.mem_filter]

/-- **The list and the calls.**  The names that are listed are distinct, and are those that pass the checks of
a call: a call with all its arguments runs its tool exactly when its name is listed. -/
theorem listed_iff_passes (hw : WellFormed w) (h : enumerateTools w k q db = .ok out) :
    (listedNames out).Nodup ∧ (∀ name, name ∈ listedNames out ↔ Passes w q db name) ∧
      ∀ args c, callOf w args = some c → missingArgs (toolMeta w c.tool).inputSchema c.incoming = [] →
        ((invokeTool w q args db).ran = [toolMeta w c.tool] ↔ c.name ∈ listedNames out) := by
  obtain ⟨visible, hv, he⟩ := listedNames_eq h
  have hmem : ∀ name, name ∈ listedNames out ↔ Passes w q db name := by
    intro name
    rw [he, List.mem_append]
    constructor
    · rintro (hb | hc)
      · obtain ⟨⟨n, b⟩, hf, rfl⟩ := List.mem_map.1 hb
        obtain ⟨hi, hp⟩ := List.mem_filter.1 hf
        exact (passes_builtin (hw.lookup_of_mem hi)).2 hp
      · obtain ⟨t, hf, rfl⟩ := List.mem_map.1 hc
        obtain ⟨hm, hl⟩ := List.mem_filter.1 hf
        obtain ⟨⟨ht, ha⟩, hu⟩ := (mem_visibleTools hv).1 hm
        exact (hw.passes_custom ht ha).2 ⟨hu, hl⟩
    · intro hp
      rcases hp.cases with ⟨b, hl⟩ | ⟨t, ht, ha, rfl⟩
      · obtain ⟨l₁, l₂, hi, -⟩ := List.lookup_eq_some_iff.1 hl
        refine Or.inl (List.mem_map.2 ⟨(name, b), List.mem_filter.2 ⟨?_, (passes_builtin hl).1 hp⟩, rfl⟩)
        rw [hi]
        exact List.mem_append_right _ List.mem_cons_self
      · obtain ⟨hu, hs⟩ := (hw.passes_custom ht ha).1 hp
        exact Or.inr (List.mem_map.2 ⟨t, List.mem_filter.2 ⟨(mem_visibleTools hv).2 ⟨⟨ht, ha⟩, hu⟩, hs⟩, rfl⟩)
  refine ⟨?_, hmem, fun args c hc hm => ?_⟩
  · rw [he, List.nodup_append]
    refine ⟨hw.index_nodup.sublist (List.filter_sublist.map _), hw.unique_name.sublist ?_, ?_⟩
    · exact ((List.filter_sublist.trans (filtered_sublist hv)).trans List.filter_sublist).map _
    · rintro n hb m hc rfl
      obtain ⟨⟨n, b⟩, hf, rfl⟩ := List.mem_map.1 hb
      obtain ⟨t, ht, hn⟩ := List.mem_map.1 hc
      have hlook := hw.lookup_of_mem (List.mem_filter.1 hf).1
      have hcust := hw.lookup_custom ((mem_visibleTools hv).1 (List.mem_filter.1 ht).1).1.1
      simp only at hn
      rw [hn, hlook] at hcust
      cases hcust
  · rw [hmem]
    exact ran_iff_passes hc hm

end ToolList

def limitSchema : Dict :=
  [("type", .str "object"), ("properties", .dict [("limit", .dict [("type", .str "integer"),
    ("description", .str "default %(default)s, max %(max)s")])])]

/-- A site with a tool that reads, one that writes, and a custom tool of each kind. -/
def deskSite : Site Unit where
  index := [("count", ⟨⟨some "read", limitSchema, [("readOnlyHint", .bool true)]⟩, fun _ => pure (.dict [])⟩),
    ("drop", ⟨⟨some "unlink", [], [("readOnlyHint", .bool false)]⟩, fun _ => pure (.dict [])⟩)]
  customTools := [⟨"open_tickets", true, true, "{}", deskAction⟩, ⟨"close_all", true, false, "{}", deskAction⟩]
  models := ["helpdesk.ticket"]
  allGroupIds := fun _ => .ok [1, 7]
  hasWriteAccess := fun _ _ => .ok true
  readResource := fun _ => throw (.of .userError "Invalid resource URI")
  loads := fun s => if s = "" then none else some (.dict [])
  dumps := fun _ => pure "null"
  dictOf := fun _ => pure []
  rendered := fun _ => true
  repr := fun _ => "{}"
  scrub := id
where
  deskAction : ServerAction Unit :=
    { groupIds := fun _ => .ok [7]
      modelName := fun _ => .ok "helpdesk.ticket"
      state := fun _ => .ok "code"
      run := fun _ => pure .none }

def deskCatalog : Catalog where
  description := fun name => "Runs " ++ name
  title := fun _ => none
  py := plainBuiltins
  env := numberedEnv 3
  fill := fun _ _ => .ok "default 10, max 100"

def readSession : Session := ⟨4, "203.0.113.9", some "adv:read", some "oauth", some 1, none, none, 2⟩

lemma deskSite_wellFormed : WellFormed deskSite where
  index_nodup := by decide
  loads_empty := rfl
  unique_name := by decide
  check_name := by
    intro t ht
    simp only [deskSite, List.mem_cons, List.not_mem_nil, or_false] at ht
    rcases ht with rfl | rfl <;> rfl
  check_input_schema := by
    intro t ht
    simp only [deskSite, List.mem_cons, List.not_mem_nil, or_false] at ht
    rcases ht with rfl | rfl <;> rfl

/-- The tools that a connection with the scope `adv:read` is shown. -/
def deskTools : Dict :=
  [("tools", .list [.dict [("name", .str "count"), ("description", .str "Runs count"),
      ("inputSchema", .dict [("type", .str "object"), ("properties", .dict [("limit", .dict [("type", .str "integer"),
        ("description", .str "default 10, max 100")])])]), ("annotations", .dict [("readOnlyHint", .bool true)])],
    .dict [("name", .str "open_tickets"), ("title", .str "open_tickets"), ("description", .str "Runs open_tickets"),
      ("inputSchema", .dict []), ("annotations", .dict [("readOnlyHint", .bool true), ("destructiveHint", .bool false)])]])]

theorem listed_iff_passes_desk : (listedNames deskTools).Nodup ∧
    (∀ name, name ∈ listedNames deskTools ↔ Passes deskSite readSession () name) ∧
      ∀ args c, callOf deskSite args = some c →
        missingArgs (toolMeta deskSite c.tool).inputSchema c.incoming = [] →
          ((invokeTool deskSite readSession args ()).ran = [toolMeta deskSite c.tool] ↔
            c.name ∈ listedNames deskTools) :=
  listed_iff_passes (k := deskCatalog) deskSite_wellFormed rfl

end AdvMcp.Server
