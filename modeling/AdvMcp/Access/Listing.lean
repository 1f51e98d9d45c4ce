import AdvMcp.Access.Lookups
import AdvMcp.Lib.Table

/-!
# The listing against the checks

`listAccessibleModels` looks at the modules of a model, `isModelAccessible` at its override rows.

* `listed_iff` — a model is listed when an active module record covers it;
* `accessible_iff` — it is accessible when a covering active record has an override row for it;
* `verify_eq_check` — the operations that an entry advertises are those that the check allows.

So the two agree on a model unless it is covered and every covering record has lost its row.
-/

namespace AdvMcp.Access

open AdvMcp.Lib AdvMcp.Py

variable {r : Registry} {m : IrModel}

/-- `rec` is an active module record, and its module is one of those of `m`. -/
def Covers (r : Registry) (m : IrModel) (rec : ModuleAccess) : Prop :=
  rec ∈ r.modules ∧ rec.active = true ∧ rec.moduleName ∈ m.moduleNames

/-- `rec` has an override row for `m`. -/
def HasOverride (r : Registry) (m : IrModel) (rec : ModuleAccess) : Prop :=
  ∃ o ∈ r.overrides, o.moduleAccessId = rec.id ∧ o.modelId = m.id

/-! ### The lookups of a model of the database -/

lemma modelIr_of_mem (hm : m ∈ r.models) : modelIr r m.model = some m :=
  find?_key r.models_unique hm

/-- No module is found for the name of no model. -/
lemma findEnabledModules_of_none {name : String} (h : modelIr r name = none) :
    findEnabledModules r name = [] := by
  unfold findEnabledModules moduleNamesForModel
  rw [h]
  rfl

lemma mem_findEnabledModules (hm : m ∈ r.models) {rec : ModuleAccess} :
    rec ∈ findEnabledModules r m.model ↔ Covers r m rec := by
  unfold findEnabledModules moduleNamesForModel Covers
  rw [modelIr_of_mem hm]
  simp only
  split_ifs with h
  · have h0 : m.moduleNames = [] := by simpa using h
    simp [h0]
  · simp [and_comm]

lemma getModelOverride_isSome {rec : ModuleAccess} :
    (getModelOverride r rec (some m)).isSome = true ↔ HasOverride r m rec := by
  unfold getModelOverride HasOverride
  simp

/-! ### What is listed -/

/-- The names of the active modules, as the listing collects them. -/
def enabledModules (r : Registry) : List String :=
  ((r.modules.filter (·.active)).map (·.moduleName)).filter (· ≠ "")

lemma any_enabledModules :
    (m.moduleNames.any fun mn => mn ∈ enabledModules r) = true ↔ ∃ rec, Covers r m rec := by
  rw [List.any_eq_true]
  constructor
  · rintro ⟨mn, hmn, hin⟩
    obtain ⟨hin, -⟩ := List.mem_filter.1 (of_decide_eq_true hin)
    obtain ⟨rec, hrec, rfl⟩ := List.mem_map.1 hin
    obtain ⟨hrec, ha⟩ := List.mem_filter.1 hrec
    exact ⟨rec, hrec, ha, hmn⟩
  · rintro ⟨rec, hrec, ha, hn⟩
    have hne : rec.moduleName ≠ "" := by simpa using (List.mem_filter.1 hn).2
    refine ⟨rec.moduleName, hn, decide_eq_true (List.mem_filter.2 ⟨?_, by simpa using hne⟩)⟩
    exact List.mem_map_of_mem (List.mem_filter.2 ⟨hrec, ha⟩)

/-- The entries of the listing. -/
lemma mem_listAccessibleModels (he : r.enabled = true) {e : Resource} :
    e ∈ listAccessibleModels r ↔ ∃ m ∈ r.models, m.transient = false ∧ (∃ rec, Covers r m rec) ∧
      e = ⟨m.model, m.name, checkModelOperationEnabled r m.model⟩ := by
  unfold listAccessibleModels
  rw [he]
  simp only [Bool.not_true, Bool.false_eq_true, if_false]
  split_ifs with h
  · have hnone : r.modules.filter (·.active) = [] := by simpa using h
    refine ⟨fun hl => by simp at hl, ?_⟩
    rintro ⟨m, -, -, ⟨rec, hrec, ha, -⟩, -⟩
    have hrec' : rec ∈ r.modules.filter (·.active) := List.mem_filter.2 ⟨hrec, ha⟩
    rw [hnone] at hrec'
    simp at hrec'
  · rw [List.mem_filterMap]
    constructor
    · rintro ⟨m, hm, hf⟩
      obtain ⟨hm, ht⟩ := List.mem_filter.1 hm
      split_ifs at hf with hany
      rw [Bool.not_eq_true, Bool.not_eq_false'] at hany
      exact ⟨m, hm, by simpa using ht, any_enabledModules.1 hany, (Option.some.inj hf).symm⟩
    · rintro ⟨m, hm, ht, hc, rfl⟩
      refine ⟨m, List.mem_filter.2 ⟨hm, by simp [ht]⟩, ?_⟩
      have hany := any_enabledModules.2 hc
      unfold enabledModules at hany
      rw [hany]
      rfl

/-- **A model is listed** when an active module record covers it. -/
theorem listed_iff (he : r.enabled = true) (hm : m ∈ r.models) (ht : m.transient = false) :
    m.model ∈ permittedResources r ↔ ∃ rec, Covers r m rec := by
  unfold permittedResources
  rw [List.mem_map]
  constructor
  · rintro ⟨e, hel, hme⟩
    obtain ⟨m', hm', -, hc, rfl⟩ := (mem_listAccessibleModels he).1 hel
    -- the entry is that of the model, its name being unique
    rwa [← List.inj_on_of_nodup_map r.models_unique hm' hm hme]
  · exact fun hc => ⟨_, (mem_listAccessibleModels he).2 ⟨m, hm, ht, hc, rfl⟩, rfl⟩

/-! ### What is accessible -/

lemma sanitize_of_mem (hm : m ∈ r.models) : sanitizeOrLog m.model = some m.model :=
  sanitize_modelName (r.models_named m hm)

/-- **A model is accessible** when an active record that covers it has an override row for it. -/
theorem accessible_iff (he : r.enabled = true) (hm : m ∈ r.models) :
    isModelAccessible r m.model = true ↔ ∃ rec, Covers r m rec ∧ HasOverride r m rec := by
  unfold isModelAccessible isModelEnabled
  rw [he, sanitize_of_mem hm]
  simp only [Bool.not_true, Bool.false_eq_true, if_false, modelIr_of_mem hm]
  split_ifs with h
  · have hnone : findEnabledModules r m.model = [] := by simpa using h
    refine ⟨fun hf => by simp at hf, ?_⟩
    rintro ⟨rec, hc, -⟩
    have := (mem_findEnabledModules hm).2 hc
    rw [hnone] at this
    simp at this
  · rw [List.any_eq_true]
    refine exists_congr fun rec => ?_
    rw [mem_findEnabledModules hm, getModelOverride_isSome]

/-- A flag that is enabled is one of a covering record and of its override row. -/
lemma flagEnabled_accessible (he : r.enabled = true) (hm : m ∈ r.models) {flag : Flags → Bool}
    (h : flagEnabled r flag m.model = true) : isModelAccessible r m.model = true := by
  obtain ⟨rec, hrec, hf⟩ := List.any_eq_true.1 h
  rw [modelIr_of_mem hm, Bool.and_eq_true, Option.any_eq_true] at hf
  obtain ⟨-, o, ho, -⟩ := hf
  refine (accessible_iff he hm).2 ⟨rec, (mem_findEnabledModules hm).1 hrec, ?_⟩
  exact getModelOverride_isSome.1 (Option.isSome_iff_exists.2 ⟨o, ho⟩)

/-- The flag is on the record, which is active and covers the model, and on its override row. -/
def Grants (r : Registry) (flag : Flags → Bool) (m : IrModel) (rec : ModuleAccess) : Prop :=
  Covers r m rec ∧ flag rec.flags = true ∧
    ∃ o, getModelOverride r rec (some m) = some o ∧ flag o.flags = true

/-- **A flag is enabled** for a name when one module record grants it on the model of the name. -/
lemma flagEnabled_iff {flag : Flags → Bool} {name : String} :
    flagEnabled r flag name = true ↔ ∃ m ∈ r.models, m.model = name ∧ ∃ rec, Grants r flag m rec := by
  cases hir : modelIr r name with
  | none =>
    have hno : ∀ m ∈ r.models, m.model ≠ name := by simpa [modelIr] using hir
    constructor
    · intro h
      unfold flagEnabled at h
      rw [findEnabledModules_of_none hir] at h
      cases h
    · rintro ⟨m, hm, hname, -⟩
      exact absurd hname (hno m hm)
  | some m =>
    have hmem : m ∈ r.models := List.mem_of_find?_eq_some hir
    have hname : m.model = name := by simpa using List.find?_some hir
    have hrec : flagEnabled r flag name = true ↔ ∃ rec, Grants r flag m rec := by
      unfold flagEnabled
      rw [List.any_eq_true, hir]
      refine exists_congr fun rec => ?_
      rw [← hname, mem_findEnabledModules hmem, Bool.and_eq_true, Option.any_eq_true]
      exact Iff.rfl
    rw [hrec]
    constructor
    · exact fun h => ⟨m, hmem, hname, h⟩
    · rintro ⟨m', hm', hname', h⟩
      have heq : m' = m := List.inj_on_of_nodup_map r.models_unique hm' hmem (hname'.trans hname.symm)
      rwa [heq] at h

/-- A name that was sanitized passes again, unchanged. -/
lemma sanitizeOrLog_self {s name : String} (h : sanitizeOrLog s = some name) :
    sanitizeOrLog name = some name := by
  have hok : sanitizeModelName s = .ok name := by
    unfold sanitizeOrLog at h
    cases hs : sanitizeModelName s with
    | error e => rw [hs] at h; cases h
    | ok n => rw [hs] at h; exact congrArg Except.ok (Option.some.inj h)
  exact sanitize_modelName (sanitize_spec hok).1

/-- The checks look at the sanitized name. -/
lemma isModelAccessible_sanitize {s name : String} (h : sanitizeOrLog s = some name) :
    isModelAccessible r s = isModelAccessible r name := by
  unfold isModelAccessible
  rw [h, sanitizeOrLog_self h]

lemma verifyModelOperation_sanitize {s name : String} (h : sanitizeOrLog s = some name) (lo : Lower)
    (operation : String) : verifyModelOperation r lo s operation = verifyModelOperation r lo name operation := by
  unfold verifyModelOperation
  rw [h, sanitizeOrLog_self h]

/-- Method calls are enabled for the model through one module record. -/
def MethodCalls (r : Registry) (modelName : String) : Prop :=
  ∃ m ∈ r.models, sanitizeOrLog modelName = some m.model ∧ ∃ rec, Grants r (·.allowMethodCalls) m rec

/-- **The check of method calls.** -/
theorem verifyModelMethod_iff {s : String} :
    verifyModelMethod r s = true ↔ r.enabled = true ∧ MethodCalls r s := by
  unfold verifyModelMethod MethodCalls isMethodCallEnabled
  cases he : r.enabled with
  | false => simp
  | true =>
    cases hs : sanitizeOrLog s with
    | none => simp
    | some name =>
      simp only [Bool.not_true, Bool.false_eq_true, if_false, true_and, Option.some.injEq]
      constructor
      · intro h
        split_ifs at h with ha
        obtain ⟨m, hm, hname, hg⟩ := flagEnabled_iff.1 h
        exact ⟨m, hm, hname.symm, hg⟩
      · rintro ⟨m, hm, hname, hg⟩
        have hf : flagEnabled r (·.allowMethodCalls) m.model = true := flagEnabled_iff.2 ⟨m, hm, rfl, hg⟩
        have ha : isModelAccessible r m.model = true := flagEnabled_accessible he hm hf
        rw [hname, ha, hf]
        rfl

lemma ofName_lower (lo : Lower) (op : Operation) :
    Operation.ofName (lo.lower (strip op.name)) = some op := by
  have hclean : strip op.name = op.name := by cases op <;> decide
  have hlow : lo.lower op.name = op.name := by
    rw [lo.ascii _ (by cases op <;> decide)]
    cases op <;> decide
  rw [hclean, hlow]
  cases op <;> decide

/-- **The check of an operation** on a model of the database is the lookup in the tables. -/
theorem verify_eq_check (lo : Lower) (he : r.enabled = true) (hm : m ∈ r.models) (op : Operation) :
    verifyModelOperation r lo m.model op.name = checkModelOperationEnabled r m.model op := by
  unfold verifyModelOperation
  rw [he, sanitize_of_mem hm, ofName_lower]
  simp only [Bool.not_true, Bool.false_eq_true, if_false]
  by_cases ha : isModelAccessible r m.model = true
  · simp [ha]
  · have hc : checkModelOperationEnabled r m.model op = false := by
      by_contra h
      exact ha (flagEnabled_accessible he hm (by simpa [checkModelOperationEnabled] using h))
    simp [ha, hc]

/-! ### The listing against the checks -/

/-- **Listing and enforcement.**  With the gateway enabled, a model of the database that is not
transient is listed exactly when it is accessible, if and only if it is not covered by an active module
record, or has an override row under one that covers it; and the operations that an entry advertises
are those that the check allows. -/
theorem listing_agrees (lo : Lower) (r : Registry) (he : r.enabled = true) :
    (∀ m ∈ r.models, m.transient = false →
      ((m.model ∈ permittedResources r ↔ isModelAccessible r m.model = true) ↔
        ((∀ rec, ¬ Covers r m rec) ∨ ∃ rec, Covers r m rec ∧ HasOverride r m rec))) ∧
    ∀ e ∈ catalogResources r, ∀ op, e.operations op = verifyModelOperation r lo e.model op.name := by
  refine ⟨fun m hm ht => ?_, fun e hel op => ?_⟩
  · rw [listed_iff he hm ht, accessible_iff he hm]
    constructor
    · intro h
      by_cases hc : ∃ rec, Covers r m rec
      · exact Or.inr (h.1 hc)
      · exact Or.inl (not_exists.1 hc)
    · rintro (hn | ⟨rec, hc, ho⟩)
      · exact ⟨fun ⟨rec, hc⟩ => absurd hc (hn rec), fun ⟨rec, hc, _⟩ => absurd hc (hn rec)⟩
      · exact ⟨fun _ => ⟨rec, hc, ho⟩, fun _ => ⟨rec, hc⟩⟩
  · obtain ⟨m, hm, -, -, rfl⟩ := (mem_listAccessibleModels he).1 hel
    exact (verify_eq_check lo he hm op).symm

/-- One module with two models, of which the second has lost its override row. -/
def saleRegistry : Registry where
  enabled := true
  modules := [⟨1, "sale", true, ⟨true, false, false, false, false⟩⟩]
  overrides := [⟨1, 10, ⟨true, true, true, true, true⟩⟩]
  models := [⟨10, "sale.order", "Sales Order", "sale, sale_management", false⟩,
    ⟨11, "sale.order.line", "Sales Order Line", "sale, sale_management", false⟩]
  models_unique := by decide
  models_named := by decide

/-- The first model is listed and accessible. -/
theorem listing_agrees_sale : "sale.order" ∈ permittedResources saleRegistry ↔
    isModelAccessible saleRegistry "sale.order" = true := by
  refine ((listing_agrees asciiLower saleRegistry rfl).1 _ (List.mem_cons_self) rfl).2 (Or.inr ?_)
  exact ⟨_, ⟨List.mem_singleton_self _, rfl, by decide⟩, _, List.mem_singleton_self _, rfl, rfl⟩

/-- The second model is listed and not accessible. -/
theorem listed_not_accessible : "sale.order.line" ∈ permittedResources saleRegistry ∧
    isModelAccessible saleRegistry "sale.order.line" = false := by decide

end AdvMcp.Access
