import AdvMcp.Lib.Monitor
import AdvMcp.Read.Catalog
import AdvMcp.Server.Executed
import AdvMcp.Server.Flow
import AdvMcp.Server.Links
import AdvMcp.Tools.Attach

/-!
# All tools, and what they may do

The fifteen tools of the module behind `tools/call`, and the monitor that their writes obey.

* `readTool` — the tools of `models/read_tools.py`, with their keywords;
* `Orm.everyTool` — these and the tools of `models/write_tools.py`;
* `Permitted` — the gate that stands in front of each kind of operation;
* `call_mediated` — a request does nothing but permitted operations, whoever makes it and with whatever
  arguments;
* `call_counted` — nor more of them than the limiter would have to count;
* `history_mediated` — nor do many requests, each for the user and within the scope of its own session, between
  other changes of the database;
* `closed_untouched` — what is done on a model is done where the user has access to it.
-/

namespace AdvMcp.Tools

open AdvMcp.Access AdvMcp.Lib AdvMcp.Py AdvMcp.Read AdvMcp.Rpc AdvMcp.Server

/-! ### The tools -/

section ReadTools

variable (py : Builtins) (env : Read.Env) (G : Grouping) (q : Viewer)

/-- `describe` -/
def describe (model fieldNames : Value) : Except PyExc Value :=
  if !model.truthy then .ok (catalog env)
  else do inspectModel py env (← modelArg py model) fieldNames

/-- The tools that read, under their names. -/
def readTool (name : String) (args : Dict) : Except PyExc Value :=
  let bind (function : String) := bindArguments ("AdvDataCapabilities." ++ function ++ "()")
  let model := modelArg py (args.get "model")
  match name with
  | "describe" => do
    bind "describe" [] ["model", "field_names"] args
    describe py env (args.get "model") (args.get "field_names")
  | "get" => do
    bind "fetch" ["model", "record_id"] ["fields", "depth"] args
    fetch py env (← model) (args.get "record_id") (args.get "fields") (args.getOr "depth" (.int 0))
  | "search" => do
    bind "search" ["model"] ["domain", "spec", "fields", "limit", "offset", "order"] args
    Read.search py env (← model) (args.get "domain") (args.get "spec") (args.get "fields") (args.get "limit")
      (args.getOr "offset" (.int 0)) (args.get "order")
  | "aggregate" => do
    bind "aggregate" ["model", "row_groupby"] ["col_groupby", "aggregates", "domain", "limit", "offset"] args
    aggregate py env G (← model) (args.get "row_groupby") (args.get "col_groupby") (args.get "aggregates")
      (args.get "domain") (args.get "limit") (args.getOr "offset" (.int 0))
  | "me" => do
    bind "me" [] [] args
    me env q
  | "count" => do
    bind "count" ["model"] ["domain"] args
    Read.count py env (← model) (args.get "domain")
  | "explain" => do
    bind "explain" ["model", "record_id"] [] args
    explain py env (← model) (args.get "record_id")
  | "compare" => do
    bind "compare" ["model", "record_id_a", "record_id_b"] ["fields"] args
    Read.compare py env (← model) (args.get "record_id_a") (args.get "record_id_b") (args.get "fields")
  | "resources" => do
    bind "resources" [] [] args
    return resources env
  | _ => .error (.of .exception ("'adv.tool.mixin' object has no attribute '" ++ name ++ "'"))

end ReadTools

section Every

variable {σ : Type} (O : Orm σ) (G : σ → Grouping) (q : σ → Viewer)

/-- The method of a tool. -/
def Orm.everyTool (name : String) (args : Dict) : EStateM PyExc (Journal σ Performed) Value :=
  if name = "pipeline" then O.pipeline args
  else if name ∈ batchAllowed then O.tool name args
  else if name = "attach" then O.attach args
  else peek fun s => readTool O.py (O.env s.1) (G s.1) (q s.1) name args

/-- `dict(v)` -/
def dictOf : Value → Except PyExc Dict
  | .dict kvs => .ok kvs
  | v => .error (.of .typeError ("'" ++ v.typeName ++ "' object is not iterable"))

/-- The site with all tools of the module. -/
def serving (w : Site σ) : Site (Journal σ Performed) :=
  ({ (w.onJournal : Site (Journal σ Performed)) with dictOf := fun v => peek fun _ => dictOf v } :
    Site (Journal σ Performed)).shipped (O.everyTool G q)

end Every

/-! ### The gates -/

section Gates

variable {σ : Type} (O : Orm σ)

/-- The model is known, and open to the operation by the gateway and by Odoo. -/
structure Open (db : σ) (model operation : String) : Prop where
  known : (O.env db).models model = true
  accessible : isModelAccessible (O.env db).registry model = true
  enabled : verifyModelOperation (O.env db).registry O.py.lower model operation = true
  native : (O.env db).checkAccess model operation = none

/-- An operation, from the database in which it is done to the one that it leaves, behind its gate. -/
inductive Permitted : σ → Performed → σ → Prop
  | created {db db' : σ} {model : String} {values : Dict} {i : ℤ} (gate : Open O db model "create")
    (done : O.create model values db = .ok i db') : Permitted db ⟨model, "create"⟩ db'
  | written {db db' : σ} {model : String} {values : Dict} {i : ℤ} (gate : Open O db model "write")
    (present : (O.env db).present model i = true) (done : O.write model i values db = .ok () db') :
    Permitted db ⟨model, "write"⟩ db'
  | deleted {db db' : σ} {model : String} {i : ℤ} (gate : Open O db model "unlink")
    (present : (O.env db).present model i = true) (done : O.unlink model i db = .ok () db') :
    Permitted db ⟨model, "unlink"⟩ db'
  | invoked {db db' : σ} {model name : String} {inv : Invocation} {out : Value}
    (known : (O.env db).models model = true)
    (gate : Granted (O.env db).registry O.py.lower O.odoo model name inv)
    (done : O.invoke inv db = .ok out db') : Permitted db ⟨model, inv.method⟩ db'
  | uploaded {db db' : σ} {resModel : Value} {values : Dict} {i : ℤ} (gate : Opens O.py (O.env db) resModel)
    (parent : charText O.py (values.get "res_model") = charText O.py resModel)
    (done : O.create "ir.attachment" values db = .ok i db') : Permitted db ⟨"ir.attachment", "create"⟩ db'

end Gates

section Obeys

variable {σ : Type} {O : Orm σ} {G : σ → Grouping} {q : σ → Viewer} {args : Dict} {s : Journal σ Performed}

lemma openedModel_open {db : σ} {v : Value} {operation model : String}
    (h : openedModel O.py (O.env db) v operation = .ok model) : Open O db model operation := by
  obtain ⟨m, hm, h⟩ := except_bind_ok.1 h
  obtain ⟨⟨⟩, hr, h⟩ := except_bind_ok.1 h
  obtain ⟨⟨⟩, hc, h⟩ := except_bind_ok.1 h
  obtain rfl := except_pure_ok.1 h
  obtain ⟨-, hknown, hacc⟩ := resolveModel_ok.1 hr
  refine ⟨hknown, hacc, checkOp_ok hc, ?_⟩
  unfold checkOp at hc
  split_ifs at hc
  exact orRaise_ok hc

lemma add_obeys : ObeysAt (Permitted O) s (O.add args) := by
  refine obeys_peek_bind fun a ha => ?_
  obtain ⟨model, values⟩ := a
  obtain ⟨⟨⟩, -, ha⟩ := except_bind_ok.1 ha
  obtain ⟨m, hm, ha⟩ := except_bind_ok.1 ha
  obtain ⟨vs, -, ha⟩ := except_bind_ok.1 ha
  obtain ⟨rfl, rfl⟩ := Prod.mk.inj (except_pure_ok.1 ha)
  simp only
  split_ifs
  · exact obeys_peek _
  · exact obeys_bind (obeys_logged fun i db hc => .created (openedModel_open hm) hc) fun _ _ _ => obeys_peek _

lemma edit_obeys : ObeysAt (Permitted O) s (O.edit args) := by
  refine obeys_peek_bind fun a ha => ?_
  obtain ⟨model, recordId, values⟩ := a
  obtain ⟨⟨⟩, -, ha⟩ := except_bind_ok.1 ha
  obtain ⟨m, hm, ha⟩ := except_bind_ok.1 ha
  obtain ⟨vs, -, ha⟩ := except_bind_ok.1 ha
  obtain ⟨i, hi, ha⟩ := except_bind_ok.1 ha
  obtain ⟨rfl, h⟩ := Prod.mk.inj (except_pure_ok.1 ha)
  obtain ⟨rfl, rfl⟩ := Prod.mk.inj h
  exact obeys_bind (obeys_logged fun _ db hw => .written (openedModel_open hm) (browse_present hi) hw)
    fun _ _ _ => obeys_peek _

lemma drop_obeys : ObeysAt (Permitted O) s (O.drop args) := by
  refine obeys_peek_bind fun a ha => ?_
  obtain ⟨model, recordId, name, affected⟩ := a
  obtain ⟨⟨⟩, -, ha⟩ := except_bind_ok.1 ha
  obtain ⟨m, hm, ha⟩ := except_bind_ok.1 ha
  obtain ⟨i, hi, ha⟩ := except_bind_ok.1 ha
  obtain ⟨n, -, ha⟩ := except_bind_ok.1 ha
  obtain ⟨aff, -, ha⟩ := except_bind_ok.1 ha
  obtain ⟨rfl, h⟩ := Prod.mk.inj (except_pure_ok.1 ha)
  obtain ⟨rfl, -⟩ := Prod.mk.inj h
  exact obeys_bind (obeys_logged fun _ db hu => .deleted (openedModel_open hm) (browse_present hi) hu)
    fun _ _ _ => obeys_pure _

/-- What `run` calls has passed its gate. -/
lemma run_gate {env : Read.Env} {py : Builtins} {odoo : Odoo} {model : String}
    {method recordIds posArgs kwargs : Value} {inv : Invocation} (h : Tools.run py env odoo model method recordIds posArgs kwargs = .ok inv) :
    env.models model = true ∧ ∃ name, Granted env.registry py.lower odoo model name inv := by
  obtain ⟨-, hm, -, -⟩ := run_names h
  refine ⟨(resolveModel_ok.1 hm).2.1, ?_⟩
  cases inv with
  | call m name ids posArgs kwArgs =>
    obtain ⟨rfl, -, -, -, -, hc, hg, -⟩ := run_call_iff.1 h
    exact ⟨name, .call ids posArgs kwArgs hg.accessible (hg.called hc)⟩
  | post m id kw =>
    obtain ⟨rfl, name, -, hc, hg⟩ := run_post h
    exact ⟨name, .post id kw hg.accessible hc (hg.chatter hc)⟩

lemma run_obeys : ObeysAt (Permitted O) s (O.run args) := by
  refine obeys_peek_bind fun a ha => ?_
  obtain ⟨model, inv⟩ := a
  obtain ⟨⟨⟩, -, ha⟩ := except_bind_ok.1 ha
  obtain ⟨m, -, ha⟩ := except_bind_ok.1 ha
  obtain ⟨i, hi, ha⟩ := except_bind_ok.1 ha
  obtain ⟨rfl, rfl⟩ := Prod.mk.inj (except_pure_ok.1 ha)
  obtain ⟨hknown, name, hg⟩ := run_gate hi
  exact obeys_bind (obeys_logged fun _ db hv => .invoked hknown hg hv) fun _ _ _ => obeys_pure _

lemma attach_obeys : ObeysAt (Permitted O) s (O.attach args) := by
  refine obeys_peek_bind fun a ha => ?_
  obtain ⟨size, values⟩ := a
  obtain ⟨hup, -, -, -, -, -, -, hparent⟩ := attachArgs_ok ha
  exact obeys_bind (obeys_logged fun _ db hc => .uploaded (checkUploadAllowed_ok hup) hparent hc)
    fun _ _ _ => obeys_pure _

lemma tool_obeys (name : String) : ObeysAt (Permitted O) s (O.tool name args) := by
  unfold Orm.tool
  split
  · exact add_obeys
  · exact edit_obeys
  · exact drop_obeys
  · exact run_obeys

/-- The operations of a batch, one after the other: each is checked in the database that the ones before it
left. -/
lemma sequential_monitored {earlier rs : List (Value × Value)} {ops : List Value} {s s' : Journal σ Performed}
    (h : Sequential O.tool O.py.repr earlier ops s rs s') : Monitored (Permitted O) s s' := by
  induction h with
  | nil => exact .refl
  | cons _ _ _ hcall _ _ ih => exact (tool_obeys _ _ _ hcall).trans ih

lemma pipeline_obeys : ObeysAt (Permitted O) s (O.pipeline args) := by
  refine obeys_peek_bind fun _ _ => ?_
  unfold Tools.pipeline
  split
  · rename_i op ops _
    split_ifs
    · exact obeys_throw _
    · refine obeys_bind (obeys_savepoint fun results s' h => ?_) fun _ _ _ => obeys_pure _
      have h0 : Names [] [] := fun name => rfl
      obtain ⟨rs, hseq, -⟩ := (runOps_iff h0).1 h
      exact sequential_monitored hseq
  · exact obeys_throw _

/-- **Every tool** does nothing but permitted operations. -/
theorem everyTool_obeys (name : String) : ObeysAt (Permitted O) s (O.everyTool G q name args) := by
  unfold Orm.everyTool
  split_ifs
  · exact pipeline_obeys
  · exact tool_obeys name
  · exact attach_obeys
  · exact obeys_peek _

/-- A tool does no more operations than its batch has, and else at most one. -/
lemma everyTool_counted {name : String} {out : Value} {s' : Journal σ Performed}
    (h : O.everyTool G q name args s = .ok out s') :
    ∃ ps, s'.2 = s.2 ++ ps ∧ ps.length ≤ toolOperations name args := by
  unfold Orm.everyTool at h
  unfold toolOperations
  by_cases hp : name = "pipeline"
  · rw [if_pos hp] at h ⊢
    obtain ⟨ps, hps, hlen, -⟩ := pipeline_done h
    exact ⟨ps, hps, hlen⟩
  · rw [if_neg hp] at h ⊢
    split_ifs at h
    · rcases tool_ok h with ⟨-, -, rfl, -⟩ | ⟨-, p, hj⟩
      · exact ⟨[], (List.append_nil _).symm, Nat.zero_le 1⟩
      · exact ⟨[p], hj, le_refl 1⟩
    · obtain ⟨⟨size, values⟩, s₁, hargs, h⟩ := bind_ok.1 h
      obtain ⟨-, rfl⟩ := peek_ok.1 hargs
      obtain ⟨i, s₂, hc, h⟩ := bind_ok.1 h
      obtain ⟨-, hj⟩ := logged_ok.1 hc
      obtain ⟨-, rfl⟩ := pure_ok.1 h
      exact ⟨[_], hj, le_refl 1⟩
    · obtain ⟨-, rfl⟩ := peek_ok.1 h
      exact ⟨[], (List.append_nil _).symm, Nat.zero_le 1⟩

end Obeys

/-! ### Requests -/

section Requests

variable {σ : Type} {O : Orm σ} {G : σ → Grouping} {q : σ → Viewer} {w : Site σ} {r : Session} {args : Dict}
  {c : Call (Journal σ Performed)} {output : Dict} {s s' : Journal σ Performed}

/-- The tool of a call is one of the module under its name, or a custom tool. -/
lemma serving_tool (hc : callOf (serving O G q w) args = some c) :
    (∃ info, shippedTools.lookup c.name = some info ∧ c.tool = .builtin ⟨info, O.everyTool G q c.name⟩) ∨
      (shippedTools.lookup c.name = none ∧ ∃ t : CustomTool σ, c.tool = .custom t.onJournal) := by
  refine (shipped_tool hc).imp_right ?_
  rintro ⟨hl, t, hmem, -, -, ht⟩
  obtain ⟨t₀, -, rfl⟩ := List.mem_map.1 hmem
  exact ⟨hl, t₀, ht⟩

/-- The body of a builtin tool is its method. -/
lemma serving_body {info : ToolMeta} (hb : c.tool = .builtin ⟨info, O.everyTool G q c.name⟩)
    (h : c.body (serving O G q w) s = .ok output s') :
    ∃ out, O.everyTool G q c.name c.incoming s = .ok out s' := by
  unfold Call.body at h
  rw [hb] at h
  obtain ⟨raw, s₁, hrun, h⟩ := bind_ok.1 h
  obtain ⟨out, s₂, hdict, h⟩ := bind_ok.1 h
  obtain ⟨-, rfl⟩ := pure_ok.1 h
  obtain ⟨-, rfl⟩ := peek_ok.1 (adaptExcept_ok.1 hdict)
  exact ⟨raw, adaptExcept_ok.1 hrun⟩

/-- The body of a custom tool writes nothing in the journal. -/
lemma serving_custom {t : CustomTool σ} (ht : c.tool = .custom t.onJournal)
    (h : c.body (serving O G q w) s = .ok output s') : s'.2 = s.2 := by
  unfold Call.body at h
  rw [ht] at h
  obtain ⟨raw, s₁, hrun, h⟩ := bind_ok.1 h
  obtain ⟨text, s₂, hdumps, h⟩ := bind_ok.1 h
  obtain ⟨-, rfl⟩ := pure_ok.1 h
  exact (unlogged_ok.1 (adaptExcept_ok.1 hdumps)).2.trans
    (unlogged_ok.1 (runTool_ok (adaptExcept_ok.1 hrun)).2.2).2

/-- The summary of a result raises for no tool that is served. -/
lemma serving_summary {e : PyExc} (hc : callOf (serving O G q w) args = some c)
    (hb : c.body (serving O G q w) s = .ok output s') :
    buildRespSummary (serving O G q w) c.name output (extractIds c.incoming) ≠ .error e := by
  intro he
  obtain ⟨hname, ⟨structured, hs⟩, -⟩ := buildRespSummary_error he
  rcases serving_tool hc with ⟨info, hl, -⟩ | ⟨-, t, ht⟩
  · have hnone : shippedTools.lookup "aggregate_records" = none := rfl
    rw [hname, hnone] at hl
    cases hl
  · rw [custom_unstructured ht hb] at hs
    cases hs

/-- A request leaves the data alone, or an admitted call leaves what the body of its tool left. -/
lemma served_cases (O : Orm σ) (G : σ → Grouping) (q : σ → Viewer) (w : Site σ) (r : Session) (args : Dict)
    (s : Journal σ Performed) :
    committed (serving O G q w) s (invokeTool (serving O G q w) r args s) = s ∨
      ∃ c output, callOf (serving O G q w) args = some c ∧ c.Admitted (serving O G q w) r s ∧
        c.body (serving O G q w) s =
          .ok output (committed (serving O G q w) s (invokeTool (serving O G q w) r args s)) := by
  cases hc : callOf (serving O G q w) args with
  | none =>
    exact Or.inl (committed_self (invokeTool_of_none hc).db_eq)
  | some c =>
    rw [invokeTool_of_call hc]
    have ht : c.Tried (serving O G q w) r s (c.tryBlock (serving O G q w) r s) := tryBlock_tried
    generalize c.tryBlock (serving O G q w) r s = a at ht
    cases ht with
    | checkRaised e hp => exact Or.inl (committed_self rfl)
    | refused message hg => exact Or.inl (committed_self rfl)
    | incomplete message hp hs hm => exact Or.inl (committed_self rfl)
    | returned ha output respSummary s' h =>
      have hcomm : committed (serving O G q w) s (c.finish (serving O G q w) r
          { outcome := .ok output, db := s', ran := [toolMeta (serving O G q w) c.tool], respSummary }) =
            if (serving O G q w).rendered output then s' else s := committed_ok rfl
      rw [hcomm]
      split_ifs
      · exact Or.inr ⟨c, output, rfl, ha, (attempt_ok h).1⟩
      · exact Or.inl rfl
    | raised ha x s' h =>
      rcases attempt_error h with ⟨rfl, -⟩ | ⟨output, e, hb, he, -⟩
      · exact Or.inl (committed_self (caught_db x))
      · exact absurd he (serving_summary hc hb)

/-- A tool that only reads is one of the read tools. -/
lemma everyTool_reads {info : ToolMeta} {name : String} (hl : shippedTools.lookup name = some info)
    (hr : requiresWriteScope info.annotations = false) :
    O.everyTool G q name args = peek fun s => readTool O.py (O.env s.1) (G s.1) (q s.1) name args := by
  have hwrites : ∀ n ∈ ["pipeline", "add", "edit", "drop", "run", "attach"],
      ((shippedTools.lookup n).all fun i => requiresWriteScope i.annotations) = true := by decide
  have hnot : name ∉ ["pipeline", "add", "edit", "drop", "run", "attach"] := by
    intro hn
    have hw := hwrites name hn
    rw [hl, Option.all_some, hr] at hw
    cases hw
  simp only [List.mem_cons, List.not_mem_nil, or_false, not_or] at hnot
  unfold Orm.everyTool
  rw [if_neg hnot.1, if_neg (by simp [batchAllowed, hnot]), if_neg hnot.2.2.2.2.2]

end Requests

/-! ### Histories -/

/-- What the database is to a user. -/
structure User (σ : Type) where
  orm : Orm σ
  grouping : σ → Grouping
  viewer : σ → Viewer
  site : Site σ

section Histories

variable {σ : Type}

def User.serving (u : User σ) : Site (Journal σ Performed) := Tools.serving u.orm u.grouping u.viewer u.site

/-- The data after a `tools/call`. -/
def User.after (u : User σ) (r : Session) (args : Dict) (s : Journal σ Performed) : Journal σ Performed :=
  committed u.serving s (invokeTool u.serving r args s)

/-- The code of the custom tool that the request names ran, for a user who may run it and within the scope. -/
structure RanCustom (u : User σ) (r : Session) (args : Dict) (t : CustomTool σ) (db db' : σ) : Prop where
  listed : t ∈ u.site.customTools
  named : args.get "name" = .str t.name
  active : t.active = true
  may : userCanRun u.site t db = .ok true
  code : t.action.state db = .ok "code"
  scope : writePermitted r = true ∨ t.isReadonly = true
  ran : ∃ arguments out db₁ v text, incomingOf args = .dict arguments ∧ t.action.run arguments db = .ok out db₁ ∧
    u.site.dumps v db₁ = .ok text db'

/-- A request of some session, or something from elsewhere. -/
inductive Moment where
  | request (r : Session) (args : Dict)
  | elsewhere

variable (U : ℕ → User σ) (outside : σ → σ → Prop)

/-- What a moment does to the data. -/
inductive Happens : Moment → Journal σ Performed → Journal σ Performed → Prop
  | request (r : Session) (args : Dict) (s : Journal σ Performed) :
    Happens (.request r args) s ((U r.uid).after r args s)
  | elsewhere {s : Journal σ Performed} {db : σ} (h : outside s.1 db) : Happens .elsewhere s (db, s.2)

/-- An operation of a request: behind its gate, for the user of its session, whose scope may write. -/
def Behind : Moment → σ → Performed → σ → Prop
  | .request r _, db, p, db' => writePermitted r = true ∧ Permitted (U r.uid).orm db p db'
  | .elsewhere, _, _, _ => False

/-- A change that is no operation of a tool of the module: from elsewhere, or by the custom tool of a request. -/
def Foreign : Moment → σ → σ → Prop
  | .request r args, db, db' => ∃ t, RanCustom (U r.uid) r args t db db'
  | .elsewhere, db, db' => outside db db'

variable {U outside} {u : User σ} {r : Session} {s t : Journal σ Performed} {m : Moment}
  {l : List (Moment × Journal σ Performed)}

/-- A custom tool whose body returned did run. -/
lemma ran_of_body {c : Call (Journal σ Performed)} {args output : Dict} {s' : Journal σ Performed}
    (hc : callOf u.serving args = some c) (hl : shippedTools.lookup c.name = none)
    (ha : c.Admitted u.serving r s) (hb : c.body u.serving s = .ok output s') :
    ∃ tool, RanCustom u r args tool s.1 s'.1 := by
  obtain ⟨hname, -, -, hin⟩ := callOf_some hc
  rcases shipped_tool hc with ⟨info, hl', -⟩ | ⟨-, t, hmem, hn, hactive, ht⟩
  · rw [hl] at hl'
    cases hl'
  · obtain ⟨t₀, hlisted, rfl⟩ := List.mem_map.1 hmem
    have hscope : ¬ (requiresWriteScope [("readOnlyHint", .bool t₀.isReadonly)] = true ∧
        writePermitted r = false) := by
      have h := ha.scope
      unfold Call.ReadOnly at h
      rw [ht] at h
      exact h
    have hbody := body_produces hb
    rw [ht] at hbody
    cases hbody with
    | custom _ hallowed hcode hrun hdumps =>
      refine ⟨t₀, hlisted, hname.trans (congrArg Value.str hn.symm), hactive, hallowed, hcode, ?_, _, _, _, _, _,
        hin, (unlogged_ok.1 hrun).1, (unlogged_ok.1 hdumps).1⟩
      cases hw : writePermitted r with
      | true => exact Or.inl rfl
      | false =>
        refine Or.inr (Bool.not_eq_false _ ▸ fun hro => hscope ⟨?_, hw⟩)
        rw [hro]
        rfl

/-- **A request** does nothing but permitted operations, one after the other, and with a read-only scope nothing
at all; or it runs the code of the custom tool that it names. -/
theorem call_mediated (u : User σ) (r : Session) (args : Dict) (s : Journal σ Performed) :
    (Monitored (Permitted u.orm) s (u.after r args s) ∧
      (writePermitted r = false → u.after r args s = s)) ∨
    ((u.after r args s).2 = s.2 ∧ ∃ t, RanCustom u r args t s.1 (u.after r args s).1) := by
  rcases served_cases u.orm u.grouping u.viewer u.site r args s with h | ⟨c, output, hc, ha, hb⟩
  · have h : u.after r args s = s := h
    rw [h]
    exact Or.inl ⟨.refl, fun _ => rfl⟩
  · change c.body u.serving s = .ok output (u.after r args s) at hb
    rcases serving_tool hc with ⟨info, hl, ht⟩ | ⟨hl, tool, ht⟩
    · obtain ⟨out, hrun⟩ := serving_body ht hb
      refine Or.inl ⟨everyTool_obeys _ _ _ hrun, fun hw => ?_⟩
      have hscope := ha.scope
      unfold Call.ReadOnly at hscope
      rw [ht] at hscope
      have hread : requiresWriteScope info.annotations = false := Bool.not_eq_true _ ▸ fun hr => hscope ⟨hr, hw⟩
      rw [everyTool_reads hl hread] at hrun
      exact (peek_ok.1 hrun).2.symm
    · exact Or.inr ⟨serving_custom ht hb, ran_of_body hc hl ha hb⟩

/-- **A request** does no more operations on business data than its batch has, and else at most one. -/
theorem call_counted (u : User σ) (r : Session) (args : Dict) (s : Journal σ Performed) :
    ∃ ps, (u.after r args s).2 = s.2 ++ ps ∧ ps.length ≤ Route.toolsCall.operations (.dict args) := by
  rcases served_cases u.orm u.grouping u.viewer u.site r args s with h | ⟨c, output, hc, -, hb⟩
  · have h : u.after r args s = s := h
    rw [h]
    exact ⟨[], (List.append_nil _).symm, Nat.zero_le _⟩
  · change c.body u.serving s = .ok output (u.after r args s) at hb
    rcases serving_tool hc with ⟨info, hl, ht⟩ | ⟨hl, tool, ht⟩
    · obtain ⟨hname, -, -, hin⟩ := callOf_some hc
      have hops : Route.toolsCall.operations (.dict args) = toolOperations c.name c.incoming := by
        simp only [Route.operations, hname, hin]
      obtain ⟨out, hrun⟩ := serving_body ht hb
      rw [hops]
      exact everyTool_counted hrun
    · exact ⟨[], (serving_custom ht hb).trans (List.append_nil _).symm, Nat.zero_le _⟩

lemma monitored_behind {args : Dict} (hr : writePermitted r = true) (h : Monitored (Permitted (U r.uid).orm) s t) :
    Monitored (Behind U (.request r args)) s t :=
  Relation.ReflTransGen.mono (fun _ _ ⟨p, hj, hp⟩ => ⟨p, hj, hr, hp⟩) _ _ h

/-- One step of a history. -/
lemma happens_mediated (h : Happens U outside m s t) : Acts (Behind U) (Foreign U outside) m s t := by
  cases h with
  | elsewhere h => exact Or.inr ⟨h, rfl⟩
  | request r args =>
    rcases call_mediated (U r.uid) r args s with ⟨hm, hro⟩ | ⟨hj, tool, hran⟩
    · cases hw : writePermitted r with
      | true => exact Or.inl (monitored_behind hw hm)
      | false =>
        rw [hro hw]
        exact Or.inl .refl
    · exact Or.inr ⟨⟨tool, hran⟩, hj⟩

/-- An entry of a history is made by one of its requests, which does it from `u` to `v`. -/
def MadeBy (U : ℕ → User σ) (s : Journal σ Performed) (l : List (Moment × Journal σ Performed)) (p : Performed)
    (r : Session) (args : Dict) (u v : Journal σ Performed) : Prop :=
  ∃ earlier t later, l = earlier ++ (.request r args, t) :: later ∧
    MadeBetween (Behind U (.request r args)) (lastOf s earlier) t p u v

lemma history_acts (h : Steps (Happens U outside) s l) : Steps (Acts (Behind U) (Foreign U outside)) s l :=
  h.mono fun _ _ _ => happens_mediated

/-- What happens from elsewhere leaves no entry. -/
lemma history_made (h : Steps (Happens U outside) s l) :
    ∃ ps, (lastOf s l).2 = s.2 ++ ps ∧ ∀ p ∈ ps, ∃ r args u v, MadeBy U s l p r args u v := by
  obtain ⟨ps, hps, hall⟩ := (history_acts h).entries
  refine ⟨ps, hps, fun p hp => ?_⟩
  obtain ⟨earlier, m, t, later, u, v, hl, hmade⟩ := hall p hp
  cases m with
  | request r args => exact ⟨r, args, u, v, earlier, t, later, hl, hmade⟩
  | elsewhere => exact absurd hmade.behind id

/-- **Histories.**  Whatever the users of the gateway ask for, in any order and between any changes from
elsewhere: each moment of the history does operations that go to the journal, each behind its gate for the user of
its session, whose scope may write, or it runs a custom tool, or is from elsewhere.  The journal only gets longer,
and each new entry was made by one of the requests, behind its gate as the database then was. -/
theorem history_mediated (h : Steps (Happens U outside) s l) :
    Steps (Acts (Behind U) (Foreign U outside)) s l ∧
      ∃ ps, (lastOf s l).2 = s.2 ++ ps ∧ ∀ p ∈ ps, ∃ r args u v, MadeBy U s l p r args u v :=
  ⟨history_acts h, history_made h⟩

/-! ### Closed models -/

lemma Permitted.accessible {O : Orm σ} {db db' : σ} {p : Performed} (h : Permitted O db p db') :
    p.model = "ir.attachment" ∨ isModelAccessible (O.env db).registry p.model = true := by
  cases h with
  | created gate => exact Or.inr gate.accessible
  | written gate => exact Or.inr gate.accessible
  | deleted gate => exact Or.inr gate.accessible
  | invoked _ gate =>
    cases gate with
    | post _ _ accessible => exact Or.inr accessible
    | call _ _ _ accessible => exact Or.inr accessible
  | uploaded => exact Or.inl rfl

/-- **Closed models.**  What a history does on a model, other than to create attachments through their records, is
done where the gateway gives the user of the request access to the model. -/
theorem closed_untouched {model : String} (hmodel : model ≠ "ir.attachment") (h : Steps (Happens U outside) s l) :
    ∃ ps, (lastOf s l).2 = s.2 ++ ps ∧ ∀ p ∈ ps, p.model = model → ∃ r args u v, MadeBy U s l p r args u v ∧
      isModelAccessible ((U r.uid).orm.env u.1).registry model = true := by
  obtain ⟨ps, hps, hall⟩ := history_made h
  refine ⟨ps, hps, fun p hp hm => ?_⟩
  obtain ⟨r, args, u, v, hmade⟩ := hall p hp
  obtain ⟨earlier, t, later, hl, hbetween⟩ := hmade
  refine ⟨r, args, u, v, ⟨earlier, t, later, hl, hbetween⟩, ?_⟩
  subst hm
  exact hbetween.behind.2.accessible.resolve_left hmodel

end Histories

/-! ### A day of sales -/

/-- All users share the sales orders. -/
def seller : User ℕ where
  orm := saleOrm
  grouping _ := noGrouping
  viewer _ := ⟨.error (.of .accessError ""), none, "2026-01-31"⟩
  site := saleSite

def readingSession : Session := { apiKeySession with oauthScope := some "adv:read", authMethod := some "oauth" }

/-- An order is edited, records come from elsewhere, and a read-only session tries to confirm an order. -/
def saleDay : List (Moment × Journal ℕ Performed) :=
  [(.request apiKeySession editOrder, (0, [⟨"sale.order", "write"⟩])), (.elsewhere, (5, [⟨"sale.order", "write"⟩])),
    (.request readingSession confirmOrder, (5, [⟨"sale.order", "write"⟩]))]

lemma sale_day : Steps (Happens (fun _ => seller) fun db db' => db ≤ db') (0, []) saleDay := by
  have hedit : seller.after apiKeySession editOrder (0, []) = (0, [⟨"sale.order", "write"⟩]) := by decide +kernel
  have hread : seller.after readingSession confirmOrder (5, [⟨"sale.order", "write"⟩]) =
      (5, [⟨"sale.order", "write"⟩]) := by decide +kernel
  have h₁ : Happens (fun _ => seller) (fun db db' => db ≤ db') _ (0, []) _ :=
    .request apiKeySession editOrder (0, [])
  have h₃ : Happens (fun _ => seller) (fun db db' => db ≤ db') _ (5, [⟨"sale.order", "write"⟩]) _ :=
    .request readingSession confirmOrder (5, [⟨"sale.order", "write"⟩])
  rw [hedit] at h₁
  rw [hread] at h₃
  exact .cons h₁ (.cons (.elsewhere (by omega)) (.cons h₃ (.nil _)))

/-- The update of the day was behind its gate, in the session of its request. -/
theorem history_mediated_sale :
    Steps (Acts (Behind fun _ => seller) (Foreign (fun _ => seller) fun db db' => db ≤ db')) (0, []) saleDay ∧
      ∃ ps, ([⟨"sale.order", "write"⟩] : List Performed) = [] ++ ps ∧
        ∀ p ∈ ps, ∃ r args u v, MadeBy (fun _ => seller) (0, []) saleDay p r args u v :=
  history_mediated sale_day

/-- The order was open to the user who edited it. -/
theorem closed_untouched_order : ∃ ps, ([⟨"sale.order", "write"⟩] : List Performed) = [] ++ ps ∧
    ∀ p ∈ ps, p.model = "sale.order" → ∃ r args u v, MadeBy (fun _ => seller) (0, []) saleDay p r args u v ∧
      isModelAccessible (saleCalls true).registry "sale.order" = true :=
  closed_untouched (by simp) sale_day

end AdvMcp.Tools
