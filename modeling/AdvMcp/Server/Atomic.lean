import AdvMcp.Server.Outcome

/-!
# The reply to a call against the data

What a tool writes before it fails is taken back by the savepoint around its body; what is written and
answered with a success is kept.

* `committed` — the data after the request;
* `Produces` — what the method of a builtin tool, or the server action of a custom one, makes of the data
  and of the reply (`body_produces`);
* `Atomic` — an error leaves the data as it was, and a success leaves what the tool produced;
* `attempt_error` — an exception leaves the inner `try` from the body, or from the summary behind it;
* `atomic_iff` — on any site a call is atomic unless the summary raises after a body that wrote;
* `shipped_atomic` — with the tools of the module and any custom ones it never does.
-/

namespace AdvMcp.Server

open AdvMcp.Lib AdvMcp.Py

section Data

variable {σ : Type} {w : Site σ} {q : Session} {c : Call σ} {args : Dict} {db : σ}

/-- The data after the request: an exception that leaves the controller rolls it back, and so does a result
that JSON cannot hold. -/
def committed (w : Site σ) (db : σ) (h : Handled σ) : σ :=
  match h.outcome with
  | .ok out => if w.rendered out then h.db else db
  | .error (.gateway _ _) => h.db
  | .error (.exc _) => db

/-- `raw_out if raw_out is not None else _("The action completed successfully.")` -/
def completed : Value → Value
  | .none => .str "The action completed successfully."
  | v => v

/-- **What a tool produces**: its bound method, or its server action, is run on the arguments, and the value
that comes back is made into the output. -/
inductive Produces (w : Site σ) : Tool σ → Dict → σ → Dict → σ → Prop
  | builtin (b : Builtin σ) {incoming output : Dict} {rawOut : Value} {db db₁ db' : σ}
    (hrun : b.bound incoming db = .ok rawOut db₁) (hdict : w.dictOf rawOut db₁ = .ok output db') :
    Produces w (.builtin b) incoming db
      ((output.setdefault "content" (.list [])).set "isError" (.bool false)) db'
  | custom (t : CustomTool σ) {incoming : Dict} {rawOut : Value} {text : String} {db db₁ db' : σ}
    (hallowed : userCanRun w t db = .ok true) (hcode : t.action.state db = .ok "code")
    (hrun : t.action.run incoming db = .ok rawOut db₁)
    (hdumps : w.dumps (completed rawOut) db₁ = .ok text db') :
    Produces w (.custom t) incoming db
      [("content", .list [.dict [("type", .str "text"), ("text", .str text)]]), ("isError", .bool false)] db'

/-- An error leaves the data as it was, and a success leaves what the tool that the arguments name produced
with the arguments that they hold. -/
structure Atomic (w : Site σ) (args : Dict) (db : σ) (h : Handled σ) : Prop where
  failed : (reply w h.outcome).succeeded = false → committed w db h = db
  succeeded : (reply w h.outcome).succeeded = true → ∃ name tool incoming output,
    args.get "name" = .str name ∧ resolveTool w name = .ok (some tool) ∧ incomingOf args = .dict incoming ∧
      reply w h.outcome = .result output ∧ Produces w tool incoming db output (committed w db h)

/-- A custom tool that returns was allowed to run, and ran its server action. -/
lemma runTool_ok {t : CustomTool σ} {arguments : Dict} {rawOut : Value} {db' : σ}
    (h : runTool w t arguments db = .ok rawOut db') : userCanRun w t db = .ok true ∧
      t.action.state db = .ok "code" ∧ t.action.run arguments db = .ok rawOut db' := by
  unfold runTool at h
  obtain ⟨allowed, s, hp, h⟩ := bind_ok.1 h
  obtain ⟨ha, rfl⟩ := peek_ok.1 hp
  cases allowed with
  | false => cases h
  | true =>
    obtain ⟨state, s', hp, h⟩ := bind_ok.1 h
    obtain ⟨hstate, rfl⟩ := peek_ok.1 hp
    by_cases hc : state = "code"
    · rw [if_neg (not_not.2 hc)] at h
      exact ⟨ha, hc ▸ hstate, h⟩
    · rw [if_pos hc] at h
      cases h

/-- The body of a call is what its tool produces. -/
lemma body_produces {output : Dict} {db' : σ} (h : c.body w db = .ok output db') :
    Produces w c.tool c.incoming db output db' := by
  obtain ⟨name, tool, incoming⟩ := c
  unfold Call.body at h
  cases tool with
  | builtin b =>
    obtain ⟨rawOut, s, hrun, h⟩ := bind_ok.1 h
    obtain ⟨output', s', hdict, h⟩ := bind_ok.1 h
    obtain ⟨rfl, rfl⟩ := pure_ok.1 h
    exact .builtin b (adaptExcept_ok.1 hrun) (adaptExcept_ok.1 hdict)
  | custom t =>
    obtain ⟨rawOut, s, hrun, h⟩ := bind_ok.1 h
    obtain ⟨text, s', hdumps, h⟩ := bind_ok.1 h
    obtain ⟨rfl, rfl⟩ := pure_ok.1 h
    obtain ⟨hallowed, hcode, hrun⟩ := runTool_ok (adaptExcept_ok.1 hrun)
    exact .custom t hallowed hcode hrun (adaptExcept_ok.1 hdumps)

lemma committed_self {h : Handled σ} (hdb : h.db = db) : committed w db h = db := by
  unfold committed
  split
  · split_ifs
    · exact hdb
    · rfl
  · exact hdb
  · rfl

lemma committed_ok {h : Handled σ} {out : Dict} (ho : h.outcome = .ok out) :
    committed w db h = if w.rendered out then h.db else db := by
  unfold committed
  rw [ho]

/-- What fails and leaves the data alone is atomic. -/
lemma atomic_of_failed {h : Handled σ} (hf : (reply w h.outcome).succeeded = false)
    (hdb : committed w db h = db) : Atomic w args db h :=
  ⟨fun _ => hdb, fun hs => by rw [hf] at hs; cases hs⟩

/-! ### What leaves the inner `try` -/

lemma attempt_ok {output : Dict} {respSummary : Option String} {db' : σ}
    (h : c.attempt w db = .ok (output, respSummary) db') :
    c.body w db = .ok output db' ∧
      buildRespSummary w c.name output (extractIds c.incoming) = .ok respSummary := by
  unfold Call.attempt at h
  obtain ⟨output', t, hb, h⟩ := bind_ok.1 h
  obtain ⟨summary, t', hp, h⟩ := bind_ok.1 h
  obtain ⟨he, rfl⟩ := pure_ok.1 h
  obtain ⟨rfl, rfl⟩ := Prod.mk.inj he
  obtain ⟨hs, rfl⟩ := peek_ok.1 (adaptExcept_ok.1 hp)
  exact ⟨savepoint_ok.1 hb, hs⟩

/-- **An exception** leaves the body, and then the data is as it was; or it leaves the summary, behind the
savepoint. -/
lemma attempt_error {x : BodyError} {db' : σ} (h : c.attempt w db = .error x db') :
    db' = db ∧ (∃ t, c.body w db = .error x t) ∨ ∃ output e, c.body w db = .ok output db' ∧
      buildRespSummary w c.name output (extractIds c.incoming) = .error e ∧ x = .raised e := by
  unfold Call.attempt at h
  rcases bind_error.1 h with hb | ⟨output, t, hb, h⟩
  · exact Or.inl (savepoint_error.1 hb)
  · rcases bind_error.1 h with ha | ⟨summary, t', -, hr⟩
    · obtain ⟨e, rfl, hp⟩ := adaptExcept_error.1 ha
      obtain ⟨hs, rfl⟩ := peek_error.1 hp
      exact Or.inr ⟨output, e, savepoint_ok.1 hb, hs, rfl⟩
    · cases hr

/-- The summary raises for one name only, on a structured result whose groups have no length. -/
lemma buildRespSummary_error {name : String} {output : Dict} {recordIds : Option (List Value)} {e : PyExc}
    (h : buildRespSummary w name output recordIds = .error e) :
    name = "aggregate_records" ∧ (∃ structured, output.get "structuredContent" = .dict structured) ∧
      e.cls = .typeError := by
  unfold buildRespSummary at h
  simp only at h
  split at h
  · rename_i structured hs
    by_cases h1 : (name = "search_records" && Dict.has structured "total") = true
    · rw [if_pos h1] at h
      cases h
    rw [if_neg h1] at h
    by_cases h2 : (name = "aggregate_records" && Dict.has structured "groups") = true
    · rw [if_pos h2] at h
      rw [Bool.and_eq_true, decide_eq_true_eq] at h2
      refine ⟨h2.1, ⟨structured, hs⟩, ?_⟩
      generalize Dict.get structured "groups" = v at h
      cases v with
      | list xs => cases h
      | dict kvs => cases h
      | str s => cases h
      | _ =>
        obtain rfl := Except.error.inj h
        rfl
    · rw [if_neg h2] at h
      cases h
  · cases h

/-! ### Calls -/

/-- The body wrote, and its summary raises: the reply to it is an error that can be sent. -/
def Call.SummaryLost (w : Site σ) (c : Call σ) (db : σ) : Prop :=
  ∃ output db' e, c.body w db = .ok output db' ∧ db' ≠ db ∧
    buildRespSummary w c.name output (extractIds c.incoming) = .error e ∧
    w.rendered (capabilityError (sanitizeMessage w.scrub e.text)) = true

lemma capabilityError_failed (message : String) :
    (reply w (.ok (capabilityError message))).succeeded = false := (failed_capabilityError message).2

/-- What the `except` clauses make of an exception is a failure. -/
lemma caught_failed (x : BodyError) : (reply w (c.caught w q db x).outcome).succeeded = false := by
  have hx : Caught w q c db x (c.caught w q db x) := caught_spec x
  generalize c.caught w q db x = a at hx
  cases hx with
  | told x detail hd hb ha => exact capabilityError_failed _
  | retried e hc => exact not_succeeded e
  | denied e message hc => exact capabilityError_failed _
  | escaped e hc => exact not_succeeded e

lemma caught_db (x : BodyError) : (c.caught w q db x).db = db := by
  have hx : Caught w q c db x (c.caught w q db x) := caught_spec x
  generalize c.caught w q db x = a at hx
  cases hx <;> rfl

/-- The error of a summary is told to the client. -/
lemma caught_summary {e : PyExc} (he : e.cls = .typeError) : (c.caught w q db (.raised e)).outcome =
    .ok (capabilityError (sanitizeMessage w.scrub e.text)) := by
  simp only [Call.caught, he]

/-- A call that ended well has its summary. -/
lemma not_lost_of_ok {output : Dict} {respSummary : Option String} {db' : σ}
    (h : c.attempt w db = .ok (output, respSummary) db') : ¬ c.SummaryLost w db := by
  obtain ⟨hb, hs⟩ := attempt_ok h
  rintro ⟨output', db'', e, hb', -, he, -⟩
  obtain ⟨rfl, -⟩ := EStateM.Result.ok.inj (hb.symm.trans hb')
  rw [hs] at he
  cases he

/-- A result that is returned is kept if it can be sent. -/
lemma atomic_returned (hc : callOf w args = some c) {output : Dict} {respSummary : Option String} {db' : σ}
    (h : c.attempt w db = .ok (output, respSummary) db') : Atomic w args db (c.finish w q
      { outcome := .ok output, db := db', ran := [toolMeta w c.tool], respSummary }) := by
  have hr : (reply w (.ok output)).succeeded = true ↔ w.rendered output = true :=
    succeeded_iff (by rw [attempt_success h]; rfl)
  refine ⟨fun hf => if_neg fun hw => ?_, fun hsucc => ?_⟩
  · rw [← hr] at hw
    exact absurd hw (Bool.eq_false_iff.1 hf)
  · have hw : w.rendered output = true := hr.1 hsucc
    obtain ⟨hname, -, htool, hincoming⟩ := callOf_some hc
    refine ⟨c.name, c.tool, c.incoming, output, hname, htool, hincoming, if_pos hw, ?_⟩
    have hcomm : committed w db (c.finish w q
        { outcome := .ok output, db := db', ran := [toolMeta w c.tool], respSummary }) = db' := if_pos hw
    rw [hcomm]
    exact body_produces (attempt_ok h).1

/-- The data after a summary that raised: the savepoint was released. -/
lemma committed_summary {e : PyExc} (he : e.cls = .typeError) (db' : σ) :
    committed w db (c.finish w q { c.caught w q db' (.raised e) with ran := [toolMeta w c.tool] }) =
      if w.rendered (capabilityError (sanitizeMessage w.scrub e.text)) then db' else db := by
  have ho : (c.caught w q db' (.raised e)).outcome = _ := caught_summary he
  rw [committed_ok ho]
  show (if _ then (c.caught w q db' (.raised e)).db else db) = _
  rw [caught_db]

/-- An exception that leaves the inner `try` is atomic unless the summary is lost. -/
lemma raised_atomic_iff {x : BodyError} {db' : σ} (h : c.attempt w db = .error x db') :
    Atomic w args db (c.finish w q { c.caught w q db' x with ran := [toolMeta w c.tool] }) ↔
      ¬ c.SummaryLost w db := by
  have hfail : (reply w (c.caught w q db' x).outcome).succeeded = false := caught_failed x
  rcases attempt_error h with ⟨rfl, t, hb⟩ | ⟨output, e, hb, he, rfl⟩
  · -- the savepoint has put the data back
    refine iff_of_true (atomic_of_failed hfail (committed_self (caught_db x))) ?_
    rintro ⟨output, db', e, hb', -⟩
    rw [hb] at hb'
    cases hb'
  · -- the savepoint was released
    have hcomm : committed w db (c.finish w q
        { c.caught w q db' (.raised e) with ran := [toolMeta w c.tool] }) = _ :=
      committed_summary (buildRespSummary_error he).2.2 db'
    constructor
    · rintro hat ⟨output', db'', e', hb', hne, he', hr⟩
      obtain ⟨rfl, rfl⟩ := EStateM.Result.ok.inj (hb.symm.trans hb')
      obtain rfl : e = e' := Except.error.inj (he.symm.trans he')
      have hdb := hat.failed hfail
      rw [hcomm, if_pos hr] at hdb
      exact hne hdb
    · intro hl
      refine atomic_of_failed hfail (hcomm.trans ?_)
      split_ifs with hr
      · by_contra hne
        exact hl ⟨output, db', e, hb, hne, he, hr⟩
      · rfl

/-- **A call** that gets to the `try` is atomic unless its summary is lost. -/
lemma call_atomic_iff (hc : callOf w args = some c) :
    Atomic w args db (c.finish w q (c.tryBlock w q db)) ↔ (c.Admitted w q db → ¬ c.SummaryLost w db) := by
  have ht : c.Tried w q db (c.tryBlock w q db) := tryBlock_tried
  generalize c.tryBlock w q db = a at ht
  cases ht with
  | checkRaised e hp =>
    refine iff_of_true (atomic_of_failed (not_succeeded e) (committed_self rfl)) fun ha => ?_
    have h := ha.permission
    rw [hp] at h
    cases h
  | refused message hg =>
    refine iff_of_true (atomic_of_failed (capabilityError_failed _) (committed_self rfl)) fun ha => ?_
    rcases hg with h | ⟨-, h⟩
    · rw [ha.permission] at h
      cases h
    · exact absurd h ha.scope
  | incomplete message hp hs hm =>
    exact iff_of_true (atomic_of_failed (capabilityError_failed _) (committed_self rfl)) fun ha =>
      absurd ha.complete hm
  | returned ha output respSummary db' h =>
    exact iff_of_true (atomic_returned hc h) fun _ => not_lost_of_ok h
  | raised ha x db' h =>
    rw [raised_atomic_iff h]
    exact ⟨fun hl _ => hl, fun hl => hl ha⟩

/-- **A call on any site** is atomic if and only if it does not lose its summary. -/
theorem atomic_iff (w : Site σ) (q : Session) (args : Dict) (db : σ) :
    Atomic w args db (invokeTool w q args db) ↔
      ∀ c, callOf w args = some c → c.Admitted w q db → ¬ c.SummaryLost w db := by
  cases hc : callOf w args with
  | none =>
    have hu : Untried w q args db (invokeTool w q args db) := invokeTool_of_none hc
    exact iff_of_true (atomic_of_failed hu.failed (committed_self hu.db_eq)) fun c h => by cases h
  | some c =>
    rw [invokeTool_of_call hc, call_atomic_iff hc]
    constructor
    · intro h c' hc'
      rwa [← Option.some.inj hc']
    · exact fun h => h c rfl

end Data

/-! ### The tools of the module -/

/-- The metadata that `adv_tool` is given. -/
def toolInfo (operation : Option String) (required : List String)
    (readOnly destructive idempotent openWorld : Bool) : ToolMeta where
  operation := operation
  inputSchema :=
    [("type", .str "object")] ++
      if required.isEmpty then [] else [("required", .list (required.map .str))]
  annotations :=
    [("readOnlyHint", .bool readOnly), ("destructiveHint", .bool destructive),
      ("idempotentHint", .bool idempotent), ("openWorldHint", .bool openWorld)]

/-- The tools of `models/read_tools.py` and `models/write_tools.py`. -/
def shippedTools : List (String × ToolMeta) :=
  [("describe", toolInfo none [] true false true false),
    ("get", toolInfo (some "read") ["model", "record_id"] true false true false),
    ("search", toolInfo (some "read") ["model"] true false true true),
    ("aggregate", toolInfo (some "read") ["model", "row_groupby"] true false true true),
    ("me", toolInfo none [] true false true false),
    ("count", toolInfo (some "read") ["model"] true false true true),
    ("explain", toolInfo (some "read") ["model", "record_id"] true false true false),
    ("compare", toolInfo (some "read") ["model", "record_id_a", "record_id_b"] true false true false),
    ("resources", toolInfo none [] true false true false),
    ("add", toolInfo (some "create") ["model", "values"] false false false true),
    ("edit", toolInfo (some "write") ["model", "record_id", "values"] false false true true),
    ("drop", toolInfo (some "unlink") ["model", "record_id"] false true false false),
    ("run", toolInfo none ["model", "method"] false false false true),
    ("attach", toolInfo (some "create") ["filename", "content"] false false false false),
    ("pipeline", toolInfo (some "create") ["operations"] false true false true)]

section Shipped

variable {σ : Type}

/-- The site with the tools of the module, whatever their methods do. -/
def Site.shipped (w : Site σ) (bound : String → Dict → EStateM PyExc σ Value) : Site σ :=
  { w with index := shippedTools.map fun t => (t.1, ⟨t.2, bound t.1⟩) }

/-- A tool of the index is one of the tools of the module. -/
lemma lookup_shipped {σ : Type} (bound : String → Dict → EStateM PyExc σ Value) (name : String)
    (l : List (String × ToolMeta)) :
    (l.map fun t => (t.1, (⟨t.2, bound t.1⟩ : Builtin σ))).lookup name =
      (l.lookup name).map fun info => ⟨info, bound name⟩ := by
  induction l with
  | nil => rfl
  | cons t l ih =>
    obtain ⟨n, info⟩ := t
    rw [List.map_cons, List.lookup_cons, List.lookup_cons]
    cases hn : name == n with
    | true => rw [beq_iff_eq.1 hn]; rfl
    | false => exact ih

/-- The tool of a call is one of the module under its name, or an active custom tool. -/
lemma shipped_tool {w : Site σ} {bound : String → Dict → EStateM PyExc σ Value} {args : Dict} {c : Call σ}
    (hc : callOf (w.shipped bound) args = some c) :
    (∃ info, shippedTools.lookup c.name = some info ∧ c.tool = .builtin ⟨info, bound c.name⟩) ∨
      (shippedTools.lookup c.name = none ∧ ∃ t ∈ w.customTools,
        t.name = c.name ∧ t.active = true ∧ c.tool = .custom t) := by
  have hindex : (w.shipped bound).index.lookup c.name =
    (shippedTools.lookup c.name).map fun info => ⟨info, bound c.name⟩ := lookup_shipped _ _ _
  rcases resolveTool_some (resolveTool_of_call hc) with ⟨b, hl, ht⟩ | ⟨hl, -, t, hmem, hn, ha, ht⟩
  · rw [hindex] at hl
    obtain ⟨info, hi, rfl⟩ := Option.map_eq_some_iff.1 hl
    exact Or.inl ⟨info, hi, ht⟩
  · rw [hindex, Option.map_eq_none_iff] at hl
    exact Or.inr ⟨hl, t, hmem, hn, ha, ht⟩

/-- A custom tool has no structured result. -/
lemma custom_unstructured {w : Site σ} {c : Call σ} {t : CustomTool σ} {db db' : σ} {output : Dict}
    (ht : c.tool = .custom t) (h : c.body w db = .ok output db') :
    output.get "structuredContent" = .none := by
  unfold Call.body at h
  rw [ht] at h
  obtain ⟨rawOut, s, -, h⟩ := bind_ok.1 h
  obtain ⟨text, s', -, h⟩ := bind_ok.1 h
  obtain ⟨rfl, -⟩ := pure_ok.1 h
  rfl

/-- **Replies and data.**  With the tools of the module, whatever their methods do, and any custom tools, a
call that is answered with an error leaves the data as it was, and one that is answered with a success leaves
the data that its tool produced. -/
theorem shipped_atomic (w : Site σ) (bound : String → Dict → EStateM PyExc σ Value) (q : Session)
    (args : Dict) (db : σ) : Atomic (w.shipped bound) args db (invokeTool (w.shipped bound) q args db) := by
  rw [atomic_iff]
  rintro c hc - ⟨output, db', e, hb, -, he, -⟩
  obtain ⟨hname, ⟨structured, hs⟩, -⟩ := buildRespSummary_error he
  rcases shipped_tool hc with ⟨info, hl, -⟩ | ⟨-, t, -, -, -, ht⟩
  · have hnone : shippedTools.lookup "aggregate_records" = none := rfl
    rw [hname, hnone] at hl
    cases hl
  · rw [custom_unstructured ht hb] at hs
    cases hs

end Shipped

end AdvMcp.Server
