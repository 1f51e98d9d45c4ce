import AdvMcp.Server.Handler

/-!
# The audit event of a request against the client's reply

* `Reply` — what `process` and the dispatcher make of the end of a handler method;
* `Call.Tried` — the ways in which the outer `try` of a call can end (`tryBlock_tried`);
* `Audited` — exactly one event, of the kind that the reply calls for, and none for an aborted request;
* `Untried` — the ways in which a call can end in front of that `try` (`invokeTool_of_none`);
* `audited_iff` — a request is audited so unless the search for a custom tool or its permission check raises,
  what leaves the body is not an `Exception`, or the result is one that JSON cannot hold.
-/

namespace AdvMcp.Server

open AdvMcp.Audit AdvMcp.Lib AdvMcp.Py

/-! ### Requests and replies -/

inductive Request where
  | toolsCall (args : Dict)
  | resourcesRead (args : Dict)

/-- What the client gets; an aborted request is rolled back, and run again or answered by Odoo. -/
inductive Reply where
  | result (out : Dict)
  | error (errorType detail : String)
  | aborted

/-- A result that is not marked as an error. -/
def Reply.succeeded : Reply → Bool
  | .result out => !(out.get "isError").isTrue
  | _ => false

section Site

variable {σ : Type} (w : Site σ) (q : Session)

def handle (r : Request) (db : σ) : Handled σ :=
  match r with
  | .toolsCall args => invokeTool w q args db
  | .resourcesRead args => fetchResource w q args db

/-- `process` and `make_json_response`: a `GatewayError` is its own error, an `OperationalError` aborts the
request, and any other failure is an internal error. -/
def reply : Except Raised Dict → Reply
  | .ok out => if w.rendered out then .result out else .error "internal_error" genericErrorMessage
  | .error (.gateway errorType detail) => .error errorType detail
  | .error (.exc e) =>
    if e.cls = .operationalError then .aborted else .error "internal_error" genericErrorMessage

lemma reply_ok (out : Dict) : reply w (.ok out) =
    if w.rendered out then .result out else .error "internal_error" genericErrorMessage := rfl

lemma reply_exc (e : PyExc) : reply w (.error (.exc e)) =
    if e.cls = .operationalError then .aborted else .error "internal_error" genericErrorMessage := rfl

/-- The call that `_invoke_tool` makes of its arguments, if it gets to the `try`. -/
def callOf (args : Dict) : Option (Call σ) :=
  match args.get "name" with
  | .str name =>
    if name = "" then none
    else match resolveTool w name, incomingOf args with
      | .ok (some tool), .dict incoming => some ⟨name, tool, incoming⟩
      | _, _ => none
  | _ => none

/-- The search for the tool that the arguments name raises. -/
def SearchRaises (args : Dict) (e : PyExc) : Prop :=
  ∃ name, args.get "name" = .str name ∧ name ≠ "" ∧ resolveTool w name = .error e

/-- The scope of the connection does not allow the tool. -/
def Call.ReadOnly (c : Call σ) : Prop :=
  requiresWriteScope (toolMeta w c.tool).annotations = true ∧ writePermitted q = false

/-- The call passes the checks in front of the tool. -/
structure Call.Admitted (c : Call σ) (db : σ) : Prop where
  permission : c.permission w db = .ok true
  scope : ¬ c.ReadOnly w q
  complete : missingArgs (toolMeta w c.tool).inputSchema c.incoming = []

/-- The call is refused by the permission of its custom tool, by the scope, or by an `AccessError`. -/
def Call.Refused (c : Call σ) (db : σ) : Prop :=
  c.permission w db = .ok false ∨ (c.permission w db = .ok true ∧ c.ReadOnly w q) ∨
    (c.Admitted w q db ∧ ∃ e db', c.attempt w db = .error (.raised e) db' ∧ e.cls = .accessError)

/-- The request is refused. -/
def Refused (db : σ) : Request → Prop
  | .toolsCall args => ∃ c, callOf w args = some c ∧ c.Refused w q db
  | .resourcesRead args => ∃ uri e db', args.get "uri" = .str uri ∧ uri ≠ "" ∧
      w.readResource uri db = .error e db' ∧ e.cls = .accessError

/-- Exactly one event, of the kind that the reply calls for; none if the request is aborted. -/
def Audited (h : Handled σ) (refused : Prop) : Prop :=
  (reply w h.outcome = .aborted ∧ h.events = []) ∨
    (reply w h.outcome ≠ .aborted ∧ ∃ event, h.events = [event] ∧
      (event.1 = .dataAccess ↔ (reply w h.outcome).succeeded = true) ∧
      (event.1 = .permissionDenied ↔ refused) ∧
      ((reply w h.outcome).succeeded = false → ¬ refused → event.1 = .error))

/-- What a computation ends with is a result that JSON can hold, or an `Exception`. -/
def Steady {ε α : Type} (out : α → Dict) (base : ε → Prop) : EStateM.Result ε σ α → Prop
  | .ok a _ => w.rendered (out a) = true
  | .error x _ => ¬ base x

/-- What leaves the inner `try` is not an `Exception`. -/
def BodyError.Base : BodyError → Prop
  | .raised e => e.cls = .baseException
  | .result _ => False

/-- The permission check does not raise, and the tool, if it is run, ends steadily. -/
def Call.Steady (c : Call σ) (db : σ) : Prop :=
  (∀ e, c.permission w db ≠ .error e) ∧
    (c.Admitted w q db → Server.Steady w Prod.fst BodyError.Base (c.attempt w db))

/-- The `contents` of a resource. -/
def contentsOf (entry : Dict) : Dict := [("contents", .list [.dict entry])]

def Request.Steady (db : σ) : Request → Prop
  | .toolsCall args => (∀ e, SearchRaises w args e → e.cls = .operationalError) ∧
      ∀ c, callOf w args = some c → c.Steady w q db
  | .resourcesRead args => ∀ uri, args.get "uri" = .str uri → uri ≠ "" →
      Server.Steady w contentsOf (fun e => e.cls = .baseException) (w.readResource uri db)

/-! ### How a call ends -/

/-- The ways in which the outer `try` can end. -/
inductive Call.Tried (c : Call σ) (db : σ) : TryEnd σ → Prop
  | checkRaised (e : PyExc) (h : c.permission w db = .error e) :
    Tried c db { outcome := .error (.exc e), db }
  | refused (message : String)
    (h : c.permission w db = .ok false ∨ (c.permission w db = .ok true ∧ c.ReadOnly w q)) :
    Tried c db { outcome := .ok (capabilityError message), db, rejected := true
                 events := [accessDenied q (c.operation w) c.modelName] }
  | incomplete (message : String) (h : c.permission w db = .ok true) (hs : ¬ c.ReadOnly w q)
    (hm : missingArgs (toolMeta w c.tool).inputSchema c.incoming ≠ []) :
    Tried c db { outcome := .ok (capabilityError message), db, rejected := true
                 events := [emitE400 w q (.str c.name) message] }
  | returned (ha : c.Admitted w q db) (output : Dict) (respSummary : Option String) (db' : σ)
    (h : c.attempt w db = .ok (output, respSummary) db') :
    Tried c db { outcome := .ok output, db := db', ran := [toolMeta w c.tool], respSummary }
  | raised (ha : c.Admitted w q db) (x : BodyError) (db' : σ) (h : c.attempt w db = .error x db') :
    Tried c db { c.caught w q db' x with ran := [toolMeta w c.tool] }

variable {w q} {c : Call σ} {args : Dict} {db : σ}

lemma tryBlock_tried : c.Tried w q db (c.tryBlock w q db) := by
  unfold Call.tryBlock
  simp only
  split
  · rename_i e hp
    exact .checkRaised e hp
  · rename_i allowed hp
    cases allowed with
    | false => exact .refused _ (Or.inl hp)
    | true =>
      simp only [Bool.not_true, Bool.false_eq_true, if_false]
      split_ifs with hs hm
      · have hro : c.ReadOnly w q := by simpa [Call.ReadOnly] using hs
        exact .refused _ (Or.inr ⟨hp, hro⟩)
      · have hro : ¬ c.ReadOnly w q := by simpa [Call.ReadOnly] using hs
        exact .incomplete _ hp hro (by simpa using hm)
      · have hro : ¬ c.ReadOnly w q := by simpa [Call.ReadOnly] using hs
        have ha : c.Admitted w q db := ⟨hp, hro, by simpa using hm⟩
        split
        · rename_i h
          exact .returned ha _ _ _ h
        · rename_i h
          exact .raised ha _ _ h

/-- A tool that is found is in the index, or an active custom tool of a name that is searched. -/
lemma resolveTool_some {name : String} {tool : Tool σ} (h : resolveTool w name = .ok (some tool)) :
    (∃ b, w.index.lookup name = some b ∧ tool = .builtin b) ∨
      (w.index.lookup name = none ∧ w.search.raises name = none ∧ ∃ t ∈ w.customTools,
        t.name = name ∧ t.active = true ∧ tool = .custom t) := by
  unfold resolveTool resolveCustomTool at h
  cases hl : w.index.lookup name with
  | some b =>
    rw [hl] at h
    exact Or.inl ⟨b, rfl, (Option.some.inj (Except.ok.inj h)).symm⟩
  | none =>
    rw [hl] at h
    cases hr : w.search.raises name with
    | some e =>
      rw [hr] at h
      cases h
    | none =>
      rw [hr] at h
      obtain ⟨t, hf, ht⟩ := Option.map_eq_some_iff.1 (Except.ok.inj h)
      have hp := List.find?_some hf
      simp only [Bool.and_eq_true, decide_eq_true_eq] at hp
      exact Or.inr ⟨rfl, rfl, t, List.mem_of_find?_eq_some hf, hp.1, hp.2, ht.symm⟩

/-- What a call is made of. -/
lemma callOf_some (h : callOf w args = some c) : args.get "name" = .str c.name ∧ c.name ≠ "" ∧
    resolveTool w c.name = .ok (some c.tool) ∧ incomingOf args = .dict c.incoming := by
  unfold callOf at h
  generalize args.get "name" = v at h ⊢
  cases v with
  | str name =>
    simp only at h
    split_ifs at h with h0
    split at h
    · rename_i tool incoming ht hi
      obtain rfl := Option.some.inj h
      exact ⟨rfl, h0, ht, hi⟩
    · cases h
  | _ => cases h

/-- The tool of a call is found under its name. -/
lemma resolveTool_of_call (h : callOf w args = some c) : resolveTool w c.name = .ok (some c.tool) :=
  (callOf_some h).2.2.1

/-- The search for the tool of a call did not raise. -/
lemma not_searchRaises (h : callOf w args = some c) (e : PyExc) : ¬ SearchRaises w args e := by
  obtain ⟨hn, -, hr, -⟩ := callOf_some h
  rintro ⟨name, hn', -, he⟩
  obtain rfl : c.name = name := Value.str.inj (hn.symm.trans hn')
  rw [hr] at he
  cases he

/-- A call that gets to the `try` ends as its `finally` block leaves it. -/
lemma invokeTool_of_call (h : callOf w args = some c) :
    invokeTool w q args db = c.finish w q (c.tryBlock w q db) := by
  obtain ⟨hn, h0, hr, hi⟩ := callOf_some h
  unfold invokeTool
  simp only [hn, if_neg h0, hr, hi]

/-- A call that is rejected before: an `E400` event, and an error that names the message. -/
structure Rejected (w : Site σ) (q : Session) (db : σ) (h : Handled σ) : Prop where
  event : ∃ v message, h.events = [emitE400 w q v message]
  outcome : ∃ message, h.outcome = .error (.gateway "invalid_params" message) ∨
    h.outcome = .ok (capabilityError message)
  db_eq : h.db = db
  ran : h.ran = []

lemma rejectCall_rejected (v : Value) (message : String) :
    Rejected w q db (rejectCall w q v message db) :=
  ⟨⟨v, message, rfl⟩, ⟨message, Or.inl rfl⟩, rfl, rfl⟩

/-- A call that ends in front of the `try`: it is rejected, or the search for its tool raises. -/
inductive Untried (w : Site σ) (q : Session) (args : Dict) (db : σ) : Handled σ → Prop
  | rejected {h : Handled σ} (hr : Rejected w q db h) (hs : ∀ e, ¬ SearchRaises w args e) :
    Untried w q args db h
  | raised (e : PyExc) (hs : SearchRaises w args e) : Untried w q args db ⟨.error (.exc e), db, [], []⟩

lemma Untried.db_eq {h : Handled σ} (hu : Untried w q args db h) : h.db = db := by
  cases hu with
  | rejected hr hs => exact hr.db_eq
  | raised e hs => rfl

lemma Untried.ran {h : Handled σ} (hu : Untried w q args db h) : h.ran = [] := by
  cases hu with
  | rejected hr hs => exact hr.ran
  | raised e hs => rfl

lemma invokeTool_of_none (h : callOf w args = none) : Untried w q args db (invokeTool w q args db) := by
  unfold callOf at h
  unfold invokeTool
  cases hn : args.get "name" with
  | str name =>
    simp only [hn] at h ⊢
    split_ifs at h ⊢ with h0
    · refine .rejected (rejectCall_rejected _ _) ?_
      rintro e ⟨name', hn', h0', -⟩
      rw [hn] at hn'
      exact h0' ((Value.str.inj hn').symm.trans h0)
    · cases ht : resolveTool w name with
      | error e => exact .raised e ⟨name, hn, h0, ht⟩
      | ok found =>
        have hs : ∀ e, ¬ SearchRaises w args e := by
          rintro e ⟨name', hn', -, he⟩
          rw [hn] at hn'
          rw [← Value.str.inj hn', ht] at he
          cases he
        cases found with
        | none => exact .rejected (rejectCall_rejected _ _) hs
        | some tool =>
          simp only
          split
          · rename_i incoming hi
            simp [ht, hi] at h
          · exact .rejected ⟨⟨_, _, rfl⟩, ⟨_, Or.inr rfl⟩, rfl, rfl⟩ hs
  | _ =>
    refine .rejected (rejectCall_rejected _ _) ?_
    rintro e ⟨name', hn', -⟩
    rw [hn] at hn'
    cases hn'

/-! ### Events and replies that match -/

section Match

variable {h : Handled σ} {event : Event} {refused : Prop}

/-- A success is called for by a success. -/
lemma audited_access (he : h.events = [event]) (hk : event.1 = .dataAccess) (hr : ¬ refused) :
    Audited w h refused ↔ (reply w h.outcome).succeeded = true := by
  constructor
  · rintro (⟨-, h0⟩ | ⟨-, e, h1, hs, -⟩)
    · rw [he] at h0
      cases h0
    · obtain rfl : event = e := by simpa [he] using h1
      exact hs.1 hk
  · intro hs
    refine Or.inr ⟨fun ha => ?_, event, he, ⟨fun _ => hs, fun _ => hk⟩, ⟨fun hd => ?_, fun h => absurd h hr⟩,
      fun hf => ?_⟩
    · rw [ha] at hs
      cases hs
    · rw [hk] at hd
      cases hd
    · rw [hs] at hf
      cases hf

/-- A failure of the client's that is not aborted. -/
def Failed (w : Site σ) (outcome : Except Raised Dict) : Prop :=
  reply w outcome ≠ .aborted ∧ (reply w outcome).succeeded = false

lemma audited_denied (he : h.events = [event]) (hk : event.1 = .permissionDenied) (hr : refused)
    (hf : Failed w h.outcome) : Audited w h refused := by
  refine Or.inr ⟨hf.1, event, he, ?_, ⟨fun _ => hr, fun _ => hk⟩, fun _ hn => absurd hr hn⟩
  rw [hk, hf.2]
  simp

lemma audited_error (he : h.events = [event]) (hk : event.1 = .error) (hr : ¬ refused)
    (hf : Failed w h.outcome) : Audited w h refused := by
  refine Or.inr ⟨hf.1, event, he, ?_, ?_, fun _ _ => hk⟩
  · rw [hk, hf.2]
    simp
  · rw [hk]
    exact iff_of_false (by simp) hr

lemma failed_capabilityError (message : String) : Failed w (.ok (capabilityError message)) := by
  unfold Failed
  rw [reply_ok]
  split_ifs
  · exact ⟨by simp, rfl⟩
  · exact ⟨by simp, rfl⟩

lemma failed_gateway (errorType detail : String) : Failed w (.error (.gateway errorType detail)) :=
  ⟨by simp [reply], rfl⟩

/-- An exception that leaves the handler is no success. -/
lemma not_succeeded (e : PyExc) : (reply w (.error (.exc e))).succeeded = false := by
  rw [reply_exc]
  split_ifs <;> rfl

lemma recordToolCall_access {toolName operation : String} {modelName reqSummary respSummary : Option String}
    {recordIds : Option (List Value)} : (recordToolCall w q toolName modelName operation none recordIds
      reqSummary respSummary).1 = .dataAccess := rfl

lemma recordToolCall_error {toolName operation detail : String}
    {modelName reqSummary respSummary : Option String} {recordIds : Option (List Value)}
    (hd : detail ≠ "") : (recordToolCall w q toolName modelName operation (some detail) recordIds
      reqSummary respSummary).1 = .error := by
  unfold recordToolCall
  rw [Option.filter_some_pos (by simpa using hd)]
  rfl

/-- A rejected request leaves its one error. -/
lemma Rejected.audited (hr : Rejected w q db h) (hn : ¬ refused) : Audited w h refused := by
  obtain ⟨v, message, he⟩ := hr.event
  obtain ⟨message', ho | ho⟩ := hr.outcome
  · exact audited_error he rfl hn (ho ▸ failed_gateway _ _)
  · exact audited_error he rfl hn (ho ▸ failed_capabilityError _)

/-- What the search raises leaves no event: that is right for an aborted request only. -/
lemma search_audited_iff (e : PyExc) :
    Audited w (⟨.error (.exc e), db, [], []⟩ : Handled σ) refused ↔ e.cls = .operationalError := by
  constructor
  · rintro (⟨ha, -⟩ | ⟨-, event, he, -⟩)
    · by_contra hc
      rw [reply_exc, if_neg hc] at ha
      cases ha
    · cases he
  · intro hc
    exact Or.inl ⟨by rw [reply_exc, if_pos hc], rfl⟩

/-- A call that ends in front of the `try` is no success. -/
lemma Untried.failed {args : Dict} (hu : Untried w q args db h) : (reply w h.outcome).succeeded = false := by
  cases hu with
  | rejected hr hs =>
    obtain ⟨message, ho | ho⟩ := hr.outcome
    · rw [ho]
      rfl
    · rw [ho]
      exact (failed_capabilityError message).2
  | raised e hs => exact not_succeeded e

end Match

/-! ### Calls -/

/-- What the tool returns is marked as a success. -/
lemma body_success {output : Dict} {db' : σ} (h : c.body w db = .ok output db') :
    output.get "isError" = .bool false := by
  obtain ⟨name, tool, incoming⟩ := c
  unfold Call.body at h
  cases tool with
  | custom t =>
    obtain ⟨rawOut, s, -, h⟩ := bind_ok.1 h
    obtain ⟨text, s', -, h⟩ := bind_ok.1 h
    obtain ⟨rfl, -⟩ := pure_ok.1 h
    rfl
  | builtin b =>
    obtain ⟨rawOut, s, -, h⟩ := bind_ok.1 h
    obtain ⟨output', s', -, h⟩ := bind_ok.1 h
    obtain ⟨rfl, -⟩ := pure_ok.1 h
    exact Dict.get_set _ _ _

lemma attempt_success {output : Dict} {respSummary : Option String} {db' : σ}
    (h : c.attempt w db = .ok (output, respSummary) db') : output.get "isError" = .bool false := by
  unfold Call.attempt at h
  obtain ⟨output', t, hb, h⟩ := bind_ok.1 h
  obtain ⟨summary, t', -, h⟩ := bind_ok.1 h
  obtain ⟨he, -⟩ := pure_ok.1 h
  obtain ⟨rfl, -⟩ := Prod.mk.inj he
  exact body_success (savepoint_ok.1 hb)

/-- The reply to a result that is not marked as an error is a success if JSON can hold it. -/
lemma succeeded_iff {output : Dict} (h : (output.get "isError").isTrue = false) :
    (reply w (.ok output)).succeeded = true ↔ w.rendered output = true := by
  rw [reply_ok]
  split_ifs with hr
  · simp [Reply.succeeded, h, hr]
  · simp [Reply.succeeded, hr]

/-- The ways in which the `except` clauses of the inner `try` end. -/
inductive Caught (w : Site σ) (q : Session) (c : Call σ) (db : σ) : BodyError → TryEnd σ → Prop
  | told (x : BodyError) (detail : String) (hd : detail ≠ "") (hb : ¬ x.Base)
    (ha : ∀ e, x = .raised e → e.cls ≠ .accessError) :
    Caught w q c db x { outcome := .ok (capabilityError detail), db, errorDetail := some detail }
  | retried (e : PyExc) (h : e.cls = .operationalError) :
    Caught w q c db (.raised e) { outcome := .error (.exc e), db, concurrencyRetry := true }
  | denied (e : PyExc) (message : String) (h : e.cls = .accessError) :
    Caught w q c db (.raised e)
      { outcome := .ok (capabilityError message), db, rejected := true
        events := [accessDenied q (c.operation w) c.modelName] }
  | escaped (e : PyExc) (h : e.cls = .baseException) :
    Caught w q c db (.raised e) { outcome := .error (.exc e), db }

lemma caught_spec (x : BodyError) : Caught w q c db x (c.caught w q db x) := by
  cases x with
  | result cause => exact .told _ _ (sanitizeException_ne _) (fun h => h) (by simp)
  | raised e =>
    cases hc : e.cls with
    | operationalError => simpa [Call.caught, hc] using Caught.retried e hc
    | accessError => simpa [Call.caught, hc] using Caught.denied e _ hc
    | baseException => simpa [Call.caught, hc] using Caught.escaped e hc
    | _ =>
      simp only [Call.caught, hc]
      refine .told _ _ ?_ (by simp [BodyError.Base, hc]) (by simp [hc])
      first | exact sanitizeException_ne _ | exact sanitizeMessage_ne _

/-- A refusal is one of the gates, or the `AccessError` of a call that passes them. -/
lemma refused_of_admitted (ha : c.Admitted w q db) :
    c.Refused w q db ↔ ∃ e db', c.attempt w db = .error (.raised e) db' ∧ e.cls = .accessError := by
  constructor
  · rintro (h | ⟨-, h⟩ | ⟨-, h⟩)
    · rw [ha.permission] at h
      cases h
    · exact absurd h ha.scope
    · exact h
  · exact fun h => Or.inr (Or.inr ⟨ha, h⟩)

/-- A call whose permission check raises is not refused. -/
lemma not_refused_of_raised {e : PyExc} (hp : c.permission w db = .error e) : ¬ c.Refused w q db := by
  have hne : ∀ allowed, c.permission w db ≠ .ok allowed := by
    intro allowed h
    rw [hp] at h
    cases h
  rintro (h | ⟨h, -⟩ | ⟨h, -⟩)
  · exact hne _ h
  · exact hne _ h
  · exact hne _ h.permission

/-- A call that passes the gates, but is not admitted, is not refused. -/
lemma not_refused_of_not_admitted (hp : c.permission w db = .ok true) (hs : ¬ c.ReadOnly w q)
    (hna : ¬ c.Admitted w q db) : ¬ c.Refused w q db := by
  rintro (h | ⟨-, h⟩ | ⟨h, -⟩)
  · rw [hp] at h
    cases h
  · exact hs h
  · exact hna h

/-- A call that is not admitted ends steadily if its permission check does not raise. -/
lemma steady_of_not_admitted {allowed : Bool} (hp : c.permission w db = .ok allowed)
    (hna : ¬ c.Admitted w q db) : c.Steady w q db := by
  refine ⟨fun e he => ?_, fun ha => absurd ha hna⟩
  rw [hp] at he
  cases he

/-- A call that is admitted is as steady as its tool. -/
lemma steady_of_admitted (ha : c.Admitted w q db) :
    c.Steady w q db ↔ Steady w Prod.fst BodyError.Base (c.attempt w db) := by
  refine ⟨fun hs => hs.2 ha, fun hs => ⟨fun e he => ?_, fun _ => hs⟩⟩
  rw [ha.permission] at he
  cases he

/-- **The audit of an exception** that leaves the inner `try`. -/
lemma caught_audited_iff (x : BodyError) (db' : σ) :
    Audited w (c.finish w q { c.caught w q db' x with ran := [toolMeta w c.tool] })
      (∃ e, x = .raised e ∧ e.cls = .accessError) ↔ ¬ x.Base := by
  have hx : Caught w q c db' x (c.caught w q db' x) := caught_spec x
  generalize c.caught w q db' x = a at hx
  cases hx with
  | told x detail hd hb hna =>
    refine iff_of_true (audited_error rfl (recordToolCall_error hd) ?_ (failed_capabilityError _)) hb
    rintro ⟨e, he, hc⟩
    exact hna e he hc
  | retried e hc =>
    refine iff_of_true (Or.inl ⟨?_, rfl⟩) (by simp [BodyError.Base, hc])
    show reply w (.error (.exc e)) = .aborted
    rw [reply_exc, if_pos hc]
  | denied e message hc =>
    exact iff_of_true (audited_denied rfl rfl ⟨e, rfl, hc⟩ (failed_capabilityError _))
      (by simp [BodyError.Base, hc])
  | escaped e hc =>
    refine iff_of_false ?_ fun hn => hn hc
    rw [audited_access rfl recordToolCall_access (by simp [hc])]
    exact Bool.eq_false_iff.1 (not_succeeded e)

/-- **The audit of a call** that gets to the `try`. -/
lemma call_audited_iff :
    Audited w (c.finish w q (c.tryBlock w q db)) (c.Refused w q db) ↔ c.Steady w q db := by
  have ht : c.Tried w q db (c.tryBlock w q db) := tryBlock_tried
  generalize c.tryBlock w q db = a at ht
  cases ht with
  | checkRaised e hp =>
    -- the `finally` block records an access
    refine iff_of_false ?_ fun hs => hs.1 e hp
    rw [audited_access rfl recordToolCall_access (not_refused_of_raised hp)]
    exact Bool.eq_false_iff.1 (not_succeeded e)
  | refused message hg =>
    refine iff_of_true (audited_denied rfl rfl (hg.imp_right Or.inl) (failed_capabilityError _)) ?_
    rcases hg with h | ⟨h, hro⟩
    · refine steady_of_not_admitted h fun ha => ?_
      rw [ha.permission] at h
      cases h
    · exact steady_of_not_admitted h fun ha => ha.scope hro
  | incomplete message hp hs hm =>
    have hna : ¬ c.Admitted w q db := fun ha => hm ha.complete
    exact iff_of_true (audited_error rfl rfl (not_refused_of_not_admitted hp hs hna)
      (failed_capabilityError _)) (steady_of_not_admitted hp hna)
  | returned ha output respSummary db' h =>
    have hr : ¬ c.Refused w q db := by
      rw [refused_of_admitted ha, h]
      rintro ⟨e, t, he, -⟩
      cases he
    rw [audited_access rfl recordToolCall_access hr, steady_of_admitted ha, h]
    exact succeeded_iff (by rw [attempt_success h]; rfl)
  | raised ha x db' h =>
    have href : c.Refused w q db ↔ ∃ e, x = .raised e ∧ e.cls = .accessError := by
      rw [refused_of_admitted ha, h]
      constructor
      · rintro ⟨e, t, he, hc⟩
        exact ⟨e, (EStateM.Result.error.inj he).1, hc⟩
      · rintro ⟨e, rfl, hc⟩
        exact ⟨e, db', rfl, hc⟩
    rw [href, steady_of_admitted ha, h]
    exact caught_audited_iff x db'

/-! ### Resources -/

/-- A read of a resource is refused. -/
def FetchRefused (w : Site σ) (uri : String) (db : σ) : Prop :=
  ∃ e db', w.readResource uri db = .error e db' ∧ e.cls = .accessError

/-- **The audit of a read** that gets to the `try`. -/
lemma fetch_audited_iff (uri : String) :
    Audited w (fetchFinish w q uri (fetchTry w q uri db)) (FetchRefused w uri db) ↔
      Steady w contentsOf (fun e => e.cls = .baseException) (w.readResource uri db) := by
  unfold fetchTry FetchRefused
  cases hr : w.readResource uri db with
  | ok entry db' =>
    simp only
    rw [audited_access rfl recordToolCall_access (by rintro ⟨e, t, he, -⟩; cases he)]
    exact succeeded_iff rfl
  | error e db' =>
    have href : (∃ e' t, EStateM.Result.error e db' = (.error e' t : EStateM.Result PyExc σ Dict) ∧
        e'.cls = .accessError) ↔ e.cls = .accessError := by
      constructor
      · rintro ⟨e', t, he, hc⟩
        rwa [(EStateM.Result.error.inj he).1]
      · exact fun hc => ⟨e, db', rfl, hc⟩
    simp only [Steady]
    rw [href]
    unfold fetchCaught
    cases hc : e.cls with
    | accessError =>
      exact iff_of_true (audited_denied rfl rfl rfl (failed_gateway _ _)) (by simp)
    | operationalError =>
      refine iff_of_true (Or.inl ⟨?_, rfl⟩) (by simp)
      show reply w (.error (.exc e)) = .aborted
      rw [reply_exc, if_pos hc]
    | baseException =>
      refine iff_of_false ?_ fun hn => hn rfl
      rw [audited_access rfl recordToolCall_access (by simp)]
      exact Bool.eq_false_iff.1 (not_succeeded e)
    | _ =>
      refine iff_of_true (audited_error rfl (recordToolCall_error ?_) (by simp) (failed_gateway _ _))
        (by simp)
      exact sanitizeException_ne _

lemma fetchResource_of_uri {uri : String} (h : args.get "uri" = .str uri) (h0 : uri ≠ "") :
    fetchResource w q args db = fetchFinish w q uri (fetchTry w q uri db) := by
  unfold fetchResource
  simp only [h, if_neg h0]

lemma fetchResource_of_none (h : ∀ uri, args.get "uri" = .str uri → uri = "") :
    Rejected w q db (fetchResource w q args db) := by
  unfold fetchResource
  split
  · rename_i uri hu
    rw [if_pos (h uri hu)]
    exact rejectCall_rejected _ _
  · exact rejectCall_rejected _ _

/-! ### Every request -/

lemma toolsCall_of_call (q : Session) (db : σ) (h : callOf w args = some c) :
    (Refused w q db (.toolsCall args) ↔ c.Refused w q db) ∧
      ((Request.toolsCall args).Steady w q db ↔ c.Steady w q db) := by
  constructor
  · constructor
    · rintro ⟨c', hc, hr⟩
      rwa [← Option.some.inj (hc.symm.trans h)]
    · exact fun hr => ⟨c, h, hr⟩
  · constructor
    · exact fun hs => hs.2 c h
    · refine fun hs => ⟨fun e he => absurd he (not_searchRaises h e), fun c' hc => ?_⟩
      rwa [← Option.some.inj (h.symm.trans hc)]

/-- What a search raises is one exception. -/
lemma SearchRaises.unique {e e' : PyExc} (h : SearchRaises w args e) (h' : SearchRaises w args e') : e = e' := by
  obtain ⟨name, hn, -, he⟩ := h
  obtain ⟨name', hn', -, he'⟩ := h'
  obtain rfl : name = name' := Value.str.inj (hn.symm.trans hn')
  exact Except.error.inj (he.symm.trans he')

/-- A call that comes to no tool is rejected, or its search raises. -/
lemma untried_audited_iff (hc : callOf w args = none) :
    Audited w (handle w q (.toolsCall args) db) (Refused w q db (.toolsCall args)) ↔
      (Request.toolsCall args).Steady w q db := by
  have hr : ¬ Refused w q db (.toolsCall args) := by
    rintro ⟨c, hn, -⟩
    rw [hc] at hn
    cases hn
  have hcs : ∀ c, callOf w args = some c → c.Steady w q db := by
    intro c hn
    rw [hc] at hn
    cases hn
  have hu : Untried w q args db (handle w q (.toolsCall args) db) := invokeTool_of_none hc
  generalize handle w q (.toolsCall args) db = h at hu ⊢
  cases hu with
  | rejected hrej hs => exact iff_of_true (hrej.audited hr) ⟨fun e he => absurd he (hs e), hcs⟩
  | raised e hs =>
    rw [search_audited_iff]
    exact ⟨fun h => ⟨fun e' he' => hs.unique he' ▸ h, hcs⟩, fun h => h.1 e hs⟩

lemma resourcesRead_of_uri (w : Site σ) (q : Session) (db : σ) {uri : String}
    (h : args.get "uri" = .str uri) (h0 : uri ≠ "") :
    (Refused w q db (.resourcesRead args) ↔ FetchRefused w uri db) ∧
      ((Request.resourcesRead args).Steady w q db ↔
        Steady w contentsOf (fun e => e.cls = .baseException) (w.readResource uri db)) := by
  constructor
  · constructor
    · rintro ⟨uri', e, db', hu, -, hr⟩
      obtain rfl := Value.str.inj (h.symm.trans hu)
      exact ⟨e, db', hr⟩
    · rintro ⟨e, db', hr⟩
      exact ⟨uri, e, db', h, h0, hr⟩
  · constructor
    · exact fun hs => hs uri h h0
    · intro hs uri' hu _
      rwa [← Value.str.inj (h.symm.trans hu)]

end Site

/-- **The audit of a request.**  Whatever the site and the arguments, exactly one event of the kind that
the reply calls for is emitted, and none for an aborted request, if and only if the search for the tool that
is called and its permission check do not raise, what leaves its body is an `Exception`, and JSON can hold
its result. -/
theorem audited_iff {σ : Type} (w : Site σ) (q : Session) (r : Request) (db : σ) :
    Audited w (handle w q r db) (Refused w q db r) ↔ r.Steady w q db := by
  cases r with
  | toolsCall args =>
    cases hc : callOf w args with
    | none => exact untried_audited_iff hc
    | some c =>
      obtain ⟨hr, hs⟩ := toolsCall_of_call q db hc
      have hh : handle w q (.toolsCall args) db = c.finish w q (c.tryBlock w q db) :=
        invokeTool_of_call hc
      rw [hr, hs, hh]
      exact call_audited_iff
  | resourcesRead args =>
    by_cases hu : ∃ uri, args.get "uri" = .str uri ∧ uri ≠ ""
    · obtain ⟨uri, hu, h0⟩ := hu
      obtain ⟨hr, hs⟩ := resourcesRead_of_uri w q db hu h0
      have hh : handle w q (.resourcesRead args) db = fetchFinish w q uri (fetchTry w q uri db) :=
        fetchResource_of_uri hu h0
      rw [hr, hs, hh]
      exact fetch_audited_iff uri
    · have hu' : ∀ uri, args.get "uri" = .str uri → uri = "" := by
        intro uri h
        by_contra h0
        exact hu ⟨uri, h, h0⟩
      refine iff_of_true ((fetchResource_of_none hu').audited ?_) fun uri h h0 => absurd (hu' uri h) h0
      rintro ⟨uri, e, db', h, h0, -⟩
      exact h0 (hu' uri h)

/-- A site with one custom tool, whose server action cannot be read any more. -/
def lostActionSite : Site Unit where
  index := []
  customTools := [⟨"close_tickets", true, false, "\x7b\x7d",
    { groupIds := fun _ => .error (.of .missingError "Record does not exist or has been deleted.")
      modelName := fun _ => .ok "helpdesk.ticket"
      state := fun _ => .ok "code"
      run := fun _ => pure .none }⟩]
  models := ["helpdesk.ticket"]
  allGroupIds := fun _ => .ok [1]
  hasWriteAccess := fun _ _ => .ok true
  readResource := fun _ => throw (.of .userError "Invalid resource URI")
  loads := fun _ => some (.dict [])
  dumps := fun _ => pure "null"
  dictOf := fun _ => pure []
  rendered := fun _ => true
  repr := fun _ => "[]"
  scrub := id

def apiKeySession : Session := ⟨2, "203.0.113.7", none, some "api_key", none, none, none, 3⟩

/-- Its permission check raises: the client gets an internal error, and the log an access. -/
theorem failed_check_is_access :
    (handle lostActionSite apiKeySession (.toolsCall [("name", .str "close_tickets")]) ()).events.map (·.1) =
        [.dataAccess] ∧
      ¬ Audited lostActionSite
        (handle lostActionSite apiKeySession (.toolsCall [("name", .str "close_tickets")]) ())
        (Refused lostActionSite apiKeySession () (.toolsCall [("name", .str "close_tickets")])) := by
  refine ⟨rfl, ?_⟩
  rintro (⟨h, -⟩ | ⟨-, event, he, hs, -⟩)
  · cases h
  · have hk : event.1 = .dataAccess := by rw [← List.singleton_inj.1 he]; rfl
    exact absurd (hs.1 hk) (by decide)

/-- A name with U+0000 is answered with an internal error, and leaves no event. -/
example : (handle lostActionSite apiKeySession (.toolsCall [("name", .str "\x00")]) ()).events = [] ∧
    reply lostActionSite (handle lostActionSite apiKeySession (.toolsCall [("name", .str "\x00")]) ()).outcome =
      .error "internal_error" genericErrorMessage := ⟨rfl, rfl⟩

end AdvMcp.Server
