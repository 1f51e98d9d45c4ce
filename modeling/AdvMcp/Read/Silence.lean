import AdvMcp.Lib.Savepoint
import AdvMcp.Read.Capabilities

/-!
# What the read tools do with hidden cells

Some cells of the database are hidden; which ones, does not matter here, but for one thing: a field
whose name looks harmless is visible (`Visible`).  The lemmas say which parts of the tools are silent about
the hidden cells (`Silent`).

* `read_silent` — the rule for a read: what is done with the rows decides;
* `keptFields_silent` — a row that has lost its sensitive fields, or one of visible fields;
* `expandRelation_silent` — depth expansion, unless it inlines a record with hidden fields (`Inlines`);
* `searchRows_silent`, `fetchText_silent`, `explain_silent` — and the parts that are always silent.
-/

namespace AdvMcp.Read

open AdvMcp.Lib AdvMcp.Py AdvMcp.Access

/-! ### Names -/

section Names

variable (lo : Lower)

lemma harmless {name : String} (hc : ∀ c ∈ name.toList, c.toNat < 128)
    (h : isSensitiveFieldName asciiLower name = false) : isSensitiveFieldName lo name = false := by
  have hl : lo.lower name = asciiLower.lower name := lo.ascii name hc
  unfold isSensitiveFieldName at h ⊢
  rw [hl]
  exact h

/-- The names that the tools read by themselves. -/
def ownNames : List String :=
  ["id", "name", "display_name", "state", "stage_id", "kanban_state", "date", "author_id", "subject", "body",
    "mimetype"]

lemma harmless_own {name : String} (h : name ∈ ownNames) : isSensitiveFieldName lo name = false := by
  apply harmless lo
  · revert name
    decide
  · revert name
    decide

end Names

/-! ### The database up to its values -/

section WithValue

variable (py : Builtins) (env : Env) (v : Cell → Value)

@[simp] lemma resolveModel_withValue (model : String) :
    resolveModel (env.withValue v) model = resolveModel env model := rfl

@[simp] lemma checkOp_withValue (model operation : String) :
    checkOp py (env.withValue v) model operation = checkOp py env model operation := rfl

@[simp] lemma browseRecordOrRaise_withValue (model : String) (recordId : Value) :
    browseRecordOrRaise py (env.withValue v) model recordId = browseRecordOrRaise py env model recordId := rfl

@[simp] lemma resolveFields_withValue (fields : Value) (schema : Schema) :
    resolveFields py (env.withValue v) fields schema = resolveFields py env fields schema := rfl

@[simp] lemma clampLimit_withValue (limit : Value) :
    clampLimit py (env.withValue v) limit = clampLimit py env limit := rfl

@[simp] lemma clampOffset_withValue (offset : Value) :
    clampOffset py (env.withValue v) offset = clampOffset py env offset := rfl

@[simp] lemma cfgInt_withValue (key : String) (default : ℤ) :
    cfgInt py (env.withValue v) key default = cfgInt py env key default := rfl

@[simp] lemma relationReadOk_withValue (relation : String) :
    relationReadOk py (env.withValue v) relation = relationReadOk py env relation := rfl

@[simp] lemma enabledRelationModels_withValue (data : Dict) (schema : Schema) :
    enabledRelationModels py (env.withValue v) data schema = enabledRelationModels py env data schema := rfl

@[simp] lemma fieldNames_withValue (model : String) (fields : Option (List Value)) :
    (env.withValue v).fieldNames model fields = env.fieldNames model fields := rfl

end WithValue

/-! ### Rows -/

section Rows

variable {env : Env} {model : String} {names : List String} {i : ℤ}

lemma lookup_tabulate {α : Type} (f : String → α) (l : List String) (n : String) :
    (l.map fun m => (m, f m)).lookup n = if n ∈ l then some (f n) else none := by
  induction l with
  | nil => rfl
  | cons m l ih =>
    rw [List.map_cons, List.lookup_cons, ih]
    by_cases h : n = m
    · simp [h]
    · rw [beq_false_of_ne h]
      simp [h]

lemma row_get {n : String} (hn : n ∈ names) (hid : n ≠ "id") :
    (env.row model names i).get n = env.value ⟨model, i, n⟩ := by
  have hmem : n ∈ names.eraseDups.filter (· ≠ "id") := by simp [hn, hid]
  unfold Env.row Dict.get
  rw [List.lookup_cons, beq_false_of_ne hid, lookup_tabulate, if_pos hmem]
  rfl

lemma row_get_of_notMem {n : String} (hn : n ∉ names) (hid : n ≠ "id") :
    (env.row model names i).get n = .none := by
  have hmem : n ∉ names.eraseDups.filter (· ≠ "id") := by simp [hn]
  unfold Env.row Dict.get
  rw [List.lookup_cons, beq_false_of_ne hid, lookup_tabulate, if_neg hmem]
  rfl

lemma row_has {n : String} (hn : n ∈ names) (hid : n ≠ "id") : (env.row model names i).has n = true := by
  have hmem : n ∈ names.eraseDups.filter (· ≠ "id") := by simp [hn, hid]
  unfold Env.row
  rw [Dict.has_eq, List.lookup_cons, beq_false_of_ne hid, lookup_tabulate, if_pos hmem]
  rfl

lemma mem_row {p : String × Value} :
    p ∈ env.row model names i ↔
      p = ("id", .int i) ∨ (p.1 ∈ names ∧ p.1 ≠ "id" ∧ p.2 = env.value ⟨model, i, p.1⟩) := by
  unfold Env.row
  simp only [List.mem_cons, List.mem_map, List.mem_filter, List.mem_eraseDups, decide_eq_true_eq]
  constructor
  · rintro (h | ⟨n, ⟨hn, hid⟩, rfl⟩)
    · exact Or.inl h
    · exact Or.inr ⟨hn, hid, rfl⟩
  · rintro (h | ⟨hn, hid, hv⟩)
    · exact Or.inl h
    · exact Or.inr ⟨p.1, ⟨hn, hid⟩, by rw [← hv]⟩

end Rows

/-! ### Silent reads -/

/-- A name that looks harmless hides nothing. -/
def Visible (lo : Lower) (hidden : Cell → Prop) : Prop :=
  ∀ c : Cell, isSensitiveFieldName lo c.field = false → ¬ hidden c

lemma Visible.own {lo : Lower} {hidden : Cell → Prop} (hv : Visible lo hidden) {name : String}
    (h : name ∈ ownNames) (model : String) (i : ℤ) : ¬ hidden ⟨model, i, name⟩ :=
  hv ⟨model, i, name⟩ (harmless_own lo h)

/-- What an explicit selection reads of a model is visible. -/
def Selection.Visible (env : Env) (hidden : Cell → Prop) (model : String) (selection : Selection) : Prop :=
  selection.isExplicit = true → ∀ names, env.fieldNames model selection.toRead = .ok names →
    ∀ n ∈ names, ∀ i, ¬ hidden ⟨model, i, n⟩

section Reads

variable {py : Builtins} {env : Env} {hidden : Cell → Prop} {model : String} {γ : Type}

lemma filter_present {i : ℤ} (h : env.present model i = true) : [i].filter (env.present model) = [i] := by
  simp [h]

lemma filter_absent {i : ℤ} (h : ¬ env.present model i = true) : [i].filter (env.present model) = [] := by
  simp [h]

lemma row_silent {names : List String} {i : ℤ} (h : ∀ n ∈ names, ¬ hidden ⟨model, i, n⟩) :
    Silent hidden (fun v => (env.withValue v).row model names i) env.value := by
  unfold Env.row
  apply Silent.map (List.cons _)
  apply Silent.listMap
  intro n hn
  have hmem : n ∈ names := List.mem_eraseDups.1 (List.mem_filter.1 hn).1
  exact Silent.map (Prod.mk n) (Silent.cell (h n hmem))

/-- **The rule for a read**: it is as silent as what is done with its rows. -/
lemma read_silent {ids : List ℤ} {fields : Option (List Value)}
    {g : (Cell → Value) → List Dict → Except PyExc γ}
    (h : ∀ names, env.fieldNames model fields = .ok names → env.checkRead model ids names = none →
      Silent hidden
        (fun v => g v ((ids.filter (env.present model)).map ((env.withValue v).row model names)))
        env.value) :
    Silent hidden (fun v => (env.withValue v).read model ids fields >>= g v) env.value := by
  unfold Env.read
  simp only [bind_assoc, pure_bind, fieldNames_withValue, Env.withValue_checkRead]
  apply Silent.bind (Silent.const _)
  intro names hn
  apply Silent.bind (Silent.const _)
  intro _ hr
  have hnone : env.checkRead model ids names = none := by
    unfold orRaise at hr
    split at hr
    · assumption
    · cases hr
  exact h names hn hnone

/-- The rule for the read of one record. -/
lemma readOne_silent {i : ℤ} {fields : Option (List Value)} {g : (Cell → Value) → Dict → Except PyExc γ}
    (h : ∀ names, env.fieldNames model fields = .ok names →
      Silent hidden (fun v => g v ((env.withValue v).row model names i)) env.value) :
    Silent hidden (fun v => (env.withValue v).read model [i] fields >>= fun rows =>
      firstRow rows >>= g v) env.value := by
  apply read_silent
  intro names hn _
  by_cases hp : env.present model i = true
  · rw [filter_present hp]
    exact h names hn
  · rw [filter_absent hp]
    exact Silent.const _

/-- The rule for the checks in front of a tool. -/
lemma checks_silent {g : (Cell → Value) → Except PyExc γ} (h : Silent hidden g env.value) :
    Silent hidden (fun v => resolveModel env model >>= fun _ => checkOp py env model "read" >>= fun _ => g v)
      env.value := by
  apply Silent.bind (Silent.const _)
  intro _ _
  apply Silent.bind (Silent.const _)
  intro _ _
  exact h

lemma attr_silent {i : ℤ} {name : String} (h : ¬ hidden ⟨model, i, name⟩) :
    Silent hidden (fun v => (env.withValue v).attr model i name) env.value := by
  unfold Env.attr
  simp only [Env.withValue_checkAttr, Env.withValue_value]
  apply Silent.bind (Silent.const _)
  intro _ _
  exact Silent.map pure (Silent.cell h)

/-- What is left of a row has harmless names. -/
lemma dropSensitive_row (lo : Lower) (names : List String) (i : ℤ) :
    dropSensitive lo (env.row model names i) =
      ("id", .int i) :: ((names.eraseDups.filter (· ≠ "id")).filter fun n =>
        !isSensitiveFieldName lo n).map fun n => (n, env.value ⟨model, i, n⟩) := by
  have hid : isSensitiveFieldName lo "id" = false := harmless_own lo (by decide)
  unfold dropSensitive Env.row
  rw [List.filter_cons_of_pos (by simp [hid]), List.filter_map]
  rfl

lemma keptFields_silent (hv : Visible py.lower hidden) {selection : Selection} {names : List String} {i : ℤ}
    (hl : selection.isExplicit = true → ∀ n ∈ names, ¬ hidden ⟨model, i, n⟩) :
    Silent hidden (fun v => keptFields py selection ((env.withValue v).row model names i)) env.value := by
  unfold keptFields
  by_cases he : selection.isExplicit = true
  · simp only [he, if_true]
    exact row_silent (hl he)
  · simp only [he, Bool.false_eq_true, if_false, dropSensitive_row]
    apply Silent.map (List.cons _)
    apply Silent.listMap
    intro n hn
    have hs : isSensitiveFieldName py.lower n = false := by simpa using (List.mem_filter.1 hn).2
    exact Silent.map (Prod.mk n) (Silent.cell (hv ⟨model, i, n⟩ hs))

end Reads

/-! ### `get` -/

section Get

variable {py : Builtins} {env : Env} {hidden : Cell → Prop}

lemma rows_silent {model : String} {ids : List ℤ} {fields : Option (List Value)}
    (h : ∀ names, env.fieldNames model fields = .ok names → ∀ n ∈ names, ∀ i, ¬ hidden ⟨model, i, n⟩) :
    Silent hidden (fun v => (env.withValue v).read model ids fields) env.value := by
  have hr : Silent hidden (fun v => (env.withValue v).read model ids fields >>= pure) env.value := by
    apply read_silent
    intro names hn _
    apply Silent.map pure
    apply Silent.listMap
    intro i _
    exact row_silent fun n hmem => h names hn n hmem i
  simpa only [bind_pure] using hr

lemma fetchRecord_silent (hv : Visible py.lower hidden) {model : String} {recordId : Value}
    {selection : Selection} {schema : Schema} (hl : selection.Visible env hidden model) :
    Silent hidden (fun v => fetchRecord py (env.withValue v) model recordId selection schema) env.value := by
  unfold fetchRecord
  simp only [browseRecordOrRaise_withValue]
  apply Silent.bind (Silent.const _)
  intro i _
  apply readOne_silent
  intro names hn
  exact Silent.map (fun data => swapBinaryUris py model i data schema)
    (keptFields_silent hv fun he n hmem => hl he names hn n hmem i)

/-- Depth expansion reads the related record `relId` of `rel` in full, in the place of a field. -/
structure Inlines (py : Builtins) (env : Env) (schema : Schema) (name : String) (val : Value) (rel : String)
    (relId : ℤ) : Prop where
  many2one : fieldType (metaOf schema name) = "many2one"
  pair : 2 ≤ val.items.length
  followed : followed (metaOf schema name) val = some (rel, relId)
  allowed : checkOp py env rel "read" = .ok ()
  granted : env.checkRead rel [relId] (env.readable rel) = none
  present : env.present rel relId = true

lemma inlineRelated_silent (hv : Visible py.lower hidden) {rel : String} {relId depth : ℤ} {val : Value}
    (h : depth ≠ 1 → checkOp py env rel "read" = .ok () →
      env.checkRead rel [relId] (env.readable rel) = none → env.present rel relId = true →
      ∀ f ∈ env.readable rel, ¬ hidden ⟨rel, relId, f⟩) :
    Silent hidden (fun v => inlineRelated py (env.withValue v) rel relId val depth) env.value := by
  unfold inlineRelated
  simp only [checkOp_withValue]
  apply Silent.bind (Silent.const _)
  intro _ hop
  by_cases hd : depth = 1
  · simp only [hd, if_true]
    apply Silent.bind (attr_silent (hv.own (by decide) rel relId))
    intro _ _
    exact Silent.const _
  · simp only [hd, if_false]
    apply read_silent
    intro names hn hr
    obtain rfl : env.readable rel = names := Except.ok.inj hn
    by_cases hp : env.present rel relId = true
    · rw [filter_present hp]
      exact Silent.map (fun row => pure (Value.dict row)) (row_silent (h hd hop hr hp))
    · rw [filter_absent hp]
      exact Silent.const _

lemma expandRelation_silent (hv : Visible py.lower hidden) {schema : Schema} {depth : ℤ} {name : String}
    {val : Value}
    (h : depth ≠ 1 → ∀ rel relId, Inlines py env schema name val rel relId →
      ∀ f ∈ env.readable rel, ¬ hidden ⟨rel, relId, f⟩) :
    Silent hidden (fun v => expandRelation py (env.withValue v) schema depth (name, val)) env.value := by
  unfold expandRelation
  by_cases ht : fieldType (metaOf schema name) ≠ "many2one"
  · simp only [if_pos ht]
    exact Silent.const _
  · simp only [if_neg ht]
    cases val with
    | list xs =>
      match xs with
      | [] => exact Silent.const _
      | [_] => exact Silent.const _
      | x :: y :: rest =>
        simp only
        cases hf : followed (metaOf schema name) (.list (x :: y :: rest)) with
        | none => exact Silent.const _
        | some related =>
          obtain ⟨rel, relId⟩ := related
          simp only
          have hin : Silent hidden (fun v =>
              inlineRelated py (env.withValue v) rel relId (.list (x :: y :: rest)) depth) env.value := by
            apply inlineRelated_silent hv
            intro hd hop hr hp
            exact h hd rel relId ⟨not_not.1 ht, by simp [Value.items], hf, hop, hr, hp⟩
          intro v ha
          simp only [hin v ha]
    | _ =>
      intro v _
      rfl

lemma expandDepth_silent (hv : Visible py.lower hidden) {data : Dict} {schema : Schema} {depth : Value}
    (h : ∀ d, depth.truthy = true → py.int depth = .ok d → 2 ≤ d → ∀ p ∈ data, ∀ rel relId,
      Inlines py env schema p.1 p.2 rel relId → ∀ f ∈ env.readable rel, ¬ hidden ⟨rel, relId, f⟩) :
    Silent hidden (fun v => expandDepth py (env.withValue v) data schema depth) env.value := by
  unfold expandDepth
  by_cases ht : depth.truthy = true
  · simp only [ht, if_true]
    apply Silent.bind (Silent.const _)
    intro d hd
    unfold expandRelations
    by_cases h0 : d ≤ 0
    · simp only [h0, if_true]
      exact Silent.const _
    · simp only [h0, if_false]
      apply Silent.mapM
      intro p hp
      apply expandRelation_silent hv
      intro h1 rel relId hin
      exact h d ht hd (by omega) p hp rel relId hin
  · simp only [ht]
    exact Silent.const _

lemma relatedSummary_silent (hv : Visible py.lower hidden) {schema : Schema} {maxItems : ℤ}
    {field : String × Value} :
    Silent hidden (fun v => relatedSummary py (env.withValue v) schema maxItems field) env.value := by
  unfold relatedSummary
  simp only [relationReadOk_withValue]
  split_ifs
  · exact Silent.const _
  · apply Silent.bind (Silent.const _)
    intro ok _
    cases ok with
    | false => exact Silent.const _
    | true =>
      simp only [if_true]
      have hr : Silent hidden (fun v => (env.withValue v).read
          (((metaOf schema field.1).get "relation").str?.getD "") (idsOf field.2.items)
          (some [.str "display_name"])) env.value := by
        apply rows_silent
        intro names hn n hmem i
        obtain rfl : ["display_name"] = names := Except.ok.inj hn
        obtain rfl : n = "display_name" := by simpa using hmem
        exact hv.own (by decide) _ i
      intro v ha
      simp only [hr v ha]

lemma fetchText_silent (hv : Visible py.lower hidden) {model : String} {schema renderMeta : Schema}
    {data : Dict} :
    Silent hidden (fun v => fetchText py (env.withValue v) model schema data renderMeta) env.value := by
  unfold fetchText
  simp only [cfgInt_withValue, enabledRelationModels_withValue]
  refine Silent.bind ?_ fun _ _ => Silent.const _
  unfold resolveRelatedSummaries
  split_ifs
  · exact Silent.const _
  · refine Silent.bind (Silent.mapM fun p _ => ?_) fun _ _ => Silent.const _
    exact relatedSummary_silent hv

end Get

/-! ### `search` -/

section Search

variable {py : Builtins} {env : Env} {hidden : Cell → Prop}

lemma searchRows_silent (hv : Visible py.lower hidden) {model : String} {filterExpr : List Value}
    {selection : Selection} {limit offset : ℤ} {order : Value} (hl : selection.Visible env hidden model) :
    Silent hidden (fun v => searchRows py (env.withValue v) model filterExpr selection limit offset order)
      env.value := by
  unfold searchRows Env.searchRead
  simp only [bind_assoc, Env.withValue_search]
  apply Silent.bind (Silent.const _)
  intro ids _
  apply read_silent
  intro names hn _
  apply Silent.map pure
  simp only [List.map_map]
  apply Silent.listMap
  intro i _
  exact keptFields_silent hv fun he n hmem => hl he names hn n hmem i

/-- **`search` is silent** when the fields that the caller lists are visible. -/
theorem search_silent (hv : Visible py.lower hidden) {model : String}
    {domain spec fields limit offset order : Value}
    (hl : ∀ selection, resolveFields py env fields (env.fieldsGet model schemaFieldAttributes) = .ok selection →
      selection.Visible env hidden model) :
    Silent hidden (fun v => search py (env.withValue v) model domain spec fields limit offset order)
      env.value := by
  unfold search
  simp only [resolveModel_withValue, checkOp_withValue, clampLimit_withValue, clampOffset_withValue,
    resolveFields_withValue, Env.withValue_fieldsGet, Env.withValue_searchCount]
  apply checks_silent
  refine Silent.bind (Silent.const _) fun filterExpr _ => ?_
  refine Silent.bind (Silent.const _) fun limit _ => ?_
  refine Silent.bind (Silent.const _) fun offset _ => ?_
  refine Silent.bind (Silent.const _) fun selection hs => ?_
  refine Silent.bind (searchRows_silent hv (hl selection hs)) fun rows _ => ?_
  exact Silent.const _

end Search

/-! ### `explain` -/

section Explain

variable {py : Builtins} {env : Env} {hidden : Cell → Prop}

lemma row_get_silent {model : String} {names : List String} {i : ℤ} {n : String}
    (h : ¬ hidden ⟨model, i, n⟩) :
    Silent hidden (fun v => ((env.withValue v).row model names i).get n) env.value := by
  by_cases hid : n = "id"
  · subst hid
    exact Silent.const (Value.int i)
  · by_cases hn : n ∈ names
    · simp only [row_get hn hid]
      exact Silent.cell h
    · simp only [row_get_of_notMem hn hid]
      exact Silent.const _

/-- The state is made of the values of its fields. -/
lemma stateSummary_congr {d d' : Dict} {schema : Schema} {fnames : List String}
    (h : ∀ n ∈ fnames, d.get n = d'.get n) :
    stateSummary py d schema fnames = stateSummary py d' schema fnames := by
  induction fnames with
  | nil => rfl
  | cons n fnames ih =>
    unfold stateSummary
    rw [h n List.mem_cons_self, ih fun m hm => h m (List.mem_cons_of_mem n hm)]

lemma relatedName_silent {rel : String} (h : ∀ i, ¬ hidden ⟨rel, i, "name"⟩) (val : Value) :
    Silent hidden (fun v => relatedName (env.withValue v) rel val) env.value := by
  intro v ha
  unfold relatedName
  split
  · exact attr_silent (h _) v ha
  · rfl

lemma messageLine_silent (hv : Visible py.lower hidden) (i : ℤ) :
    Silent hidden (fun v => messageLine py (env.withValue v) i) env.value := by
  unfold messageLine
  have hattr : ∀ name ∈ ownNames,
      Silent hidden (fun v => (env.withValue v).attr "mail.message" i name) env.value :=
    fun name h => attr_silent (hv.own h _ i)
  refine Silent.bind (hattr "date" (by decide)) fun date _ => ?_
  refine Silent.bind (hattr "author_id" (by decide)) fun authorId _ => ?_
  refine Silent.bind (relatedName_silent (fun j => hv.own (by decide) _ j) authorId) fun author _ => ?_
  refine Silent.bind (hattr "subject" (by decide)) fun subject _ => ?_
  have hbody := hattr "body" (by decide)
  have hline : Silent hidden (fun v => (env.withValue v).attr "mail.message" i "body" >>= fun body =>
      pure (env.excerpt (py.str date ++ ": " ++ py.str (orElse author (.str "?")) ++ " — ") body))
      env.value := Silent.bind hbody fun _ _ => Silent.const _
  intro v ha
  split
  · exact hline v ha
  · rfl
  · exact hline v ha

lemma attachmentLine_silent (hv : Visible py.lower hidden) (i : ℤ) :
    Silent hidden (fun v => attachmentLine py (env.withValue v) i) env.value := by
  unfold attachmentLine
  refine Silent.bind (attr_silent (hv.own (by decide) _ i)) fun name _ => ?_
  refine Silent.bind (attr_silent (hv.own (by decide) _ i)) fun mimetype _ => ?_
  exact Silent.const _

lemma recentMessages_silent (hv : Visible py.lower hidden) {model : String} {i : ℤ} :
    Silent hidden (fun v => recentMessages py (env.withValue v) model i) env.value := by
  unfold recentMessages
  apply Silent.map orNothing
  simp only [Env.withValue_search]
  refine Silent.bind (Silent.const _) fun ids _ => ?_
  exact Silent.mapM fun i _ => messageLine_silent hv i

lemma attachmentSummary_silent (hv : Visible py.lower hidden) {model : String} {i : ℤ} :
    Silent hidden (fun v => attachmentSummary py (env.withValue v) model i) env.value := by
  unfold attachmentSummary
  apply Silent.map orNothing
  simp only [Env.withValue_search]
  refine Silent.bind (Silent.const _) fun ids _ => ?_
  exact Silent.mapM fun i _ => attachmentLine_silent hv i

/-- **`explain` is silent**: of the record it shows the name and the state only. -/
theorem explain_silent (hv : Visible py.lower hidden) {model : String} {recordId : Value} :
    Silent hidden (fun v => explain py (env.withValue v) model recordId) env.value := by
  unfold explain
  simp only [resolveModel_withValue, checkOp_withValue, browseRecordOrRaise_withValue,
    Env.withValue_fieldsGet]
  apply checks_silent
  refine Silent.bind (Silent.const _) fun i _ => ?_
  refine readOne_silent fun names _ => ?_
  refine Silent.bind (recentMessages_silent hv) fun messages _ => ?_
  refine Silent.bind (attachmentSummary_silent hv) fun attachments _ => ?_
  have hstate : Silent hidden (fun v => stateSummary py ((env.withValue v).row model names i)
      (env.fieldsGet model ["type", "string", "selection"]) stateFields) env.value := by
    intro v ha
    apply stateSummary_congr
    intro n hn
    have hown : ∀ n ∈ stateFields, n ∈ ownNames := by decide
    exact row_get_silent (hv.own (hown n hn) model i) v ha
  exact Silent.map₂
    (fun displayName stateInfo =>
      pure (result (explainText py model recordId displayName stateInfo attachments messages)
        (explainStructured model recordId displayName stateInfo attachments messages)))
    (row_get_silent (hv.own (by decide) model i)) hstate

end Explain

end AdvMcp.Read
