import AdvMcp.Py.Text

/-!
# Module and model access

The tables of `models/module_access.py` and `models/model_access.py`, their lookups, and the checks
of `server/helpers.py` on them.

* A gateway configuration names modules (`adv.module.access`) and, under each, the models it opens
  (`adv.model.access`, the override rows).  A model belongs to all the modules that `ir.model` lists
  for it.
* `isModelEnabled`, `checkModelOperationEnabled`, `isMethodCallEnabled` decide on the override rows;
  the `ormcache` in front of them is not part of this model.
-/

namespace AdvMcp.Access

open AdvMcp.Py

/-! ### Model names -/

/-- A character of the class `[a-zA-Z0-9._]`. -/
def isNameChar (c : Char) : Bool := c.isAlphanum || c == '.' || c == '_'

/-- `re.match(r"^[a-zA-Z0-9._]+$", s)`: the `$` also matches in front of a final newline. -/
def matchesModelName (s : String) : Bool :=
  let l := s.toList
  let l := if l.getLast? = some '\n' then l.dropLast else l
  !l.isEmpty && l.all isNameChar

def sanitizeModelName (modelName : String) : Except String String :=
  if modelName = "" then .error "Model name cannot be empty"
  else if !matchesModelName modelName then .error ("Invalid model name format: " ++ modelName)
  else .ok (strip modelName)

/-- A name that consists of name characters. -/
def IsModelName (s : String) : Prop := s ≠ "" ∧ ∀ c ∈ s.toList, isNameChar c = true

instance (s : String) : Decidable (IsModelName s) := by unfold IsModelName; infer_instance

/-! ### The tables -/

inductive Operation where
  | read
  | create
  | write
  | unlink
  deriving DecidableEq

def Operation.name : Operation → String
  | .read => "read"
  | .create => "create"
  | .write => "write"
  | .unlink => "unlink"

def operations : List Operation := [.read, .create, .write, .unlink]

/-- The operation with a name: the test of the name against `valid_operations`. -/
def Operation.ofName (s : String) : Option Operation := operations.find? (·.name = s)

/-- The flags that both tables have. -/
structure Flags where
  allowRead : Bool
  allowCreate : Bool
  allowWrite : Bool
  allowUnlink : Bool
  allowMethodCalls : Bool

/-- `record["allow_" + operation]` -/
def Flags.allow (f : Flags) : Operation → Bool
  | .read => f.allowRead
  | .create => f.allowCreate
  | .write => f.allowWrite
  | .unlink => f.allowUnlink

/-- `adv.module.access`; a module without a name has the empty one. -/
structure ModuleAccess where
  id : ℕ
  moduleName : String
  active : Bool
  flags : Flags

/-- `adv.model.access` -/
structure ModelAccess where
  moduleAccessId : ℕ
  modelId : ℕ
  flags : Flags

/-- `ir.model`; `modules` is a list with commas. -/
structure IrModel where
  id : ℕ
  model : String
  name : String
  modules : String
  transient : Bool

/-- The configuration of the gateway and the models of the database.  Odoo keeps model names unique
and refuses a name with other characters. -/
structure Registry where
  enabled : Bool
  modules : List ModuleAccess
  overrides : List ModelAccess
  models : List IrModel
  models_unique : (models.map (·.model)).Nodup
  models_named : ∀ m ∈ models, IsModelName m.model

/-- The names in a `modules` column. -/
def IrModel.moduleNames (m : IrModel) : List String :=
  ((splitOn ',' m.modules).map strip).filter (· ≠ "")

section Lookups

variable (r : Registry)

/-- `_model_ir` -/
def modelIr (modelName : String) : Option IrModel := r.models.find? (·.model = modelName)

/-- `_module_names_for_model` -/
def moduleNamesForModel (modelName : String) : List String :=
  match modelIr r modelName with
  | none => []
  | some m => m.moduleNames

/-- `_find_enabled_modules` -/
def findEnabledModules (modelName : String) : List ModuleAccess :=
  let names := moduleNamesForModel r modelName
  if names.isEmpty then []
  else r.modules.filter fun rec => rec.moduleName ∈ names && rec.active

/-- `_get_model_override` -/
def getModelOverride (rec : ModuleAccess) (ir : Option IrModel) : Option ModelAccess :=
  match ir with
  | none => none
  | some m => r.overrides.find? fun o => o.moduleAccessId = rec.id && o.modelId = m.id

def isModelEnabled (modelName : String) : Bool :=
  let recs := findEnabledModules r modelName
  if recs.isEmpty then false
  else recs.any fun rec => (getModelOverride r rec (modelIr r modelName)).isSome

/-- The loop of `check_model_operation_enabled` and `is_method_call_enabled`: some active module and
its override row both have the flag. -/
def flagEnabled (flag : Flags → Bool) (modelName : String) : Bool :=
  (findEnabledModules r modelName).any fun rec =>
    flag rec.flags && (getModelOverride r rec (modelIr r modelName)).any fun o => flag o.flags

def checkModelOperationEnabled (modelName : String) (op : Operation) : Bool :=
  flagEnabled r (·.allow op) modelName

def isMethodCallEnabled (modelName : String) : Bool := flagEnabled r (·.allowMethodCalls) modelName

/-! ### `server/helpers.py` -/

/-- `_sanitize_or_log` -/
def sanitizeOrLog (modelName : String) : Option String := (sanitizeModelName modelName).toOption

def isModelAccessible (modelName : String) : Bool :=
  if !r.enabled then false
  else match sanitizeOrLog modelName with
    | none => false
    | some name => isModelEnabled r name

def verifyModelOperation (lo : Lower) (modelName operation : String) : Bool :=
  if !r.enabled then false
  else match sanitizeOrLog modelName with
    | none => false
    | some name =>
      match Operation.ofName (lo.lower (strip operation)) with
      | none => false
      | some op =>
        if !isModelAccessible r name then false else checkModelOperationEnabled r name op

def verifyModelMethod (modelName : String) : Bool :=
  if !r.enabled then false
  else match sanitizeOrLog modelName with
    | none => false
    | some name => if !isModelAccessible r name then false else isMethodCallEnabled r name

/-- An entry of the listing. -/
structure Resource where
  model : String
  name : String
  operations : Operation → Bool

def listAccessibleModels : List Resource :=
  if !r.enabled then []
  else
    let records := r.modules.filter (·.active)
    if records.isEmpty then []
    else
      let enabledModules := (records.map (·.moduleName)).filter (· ≠ "")
      (r.models.filter fun m => !m.transient).filterMap fun m =>
        if !(m.moduleNames.any fun mn => mn ∈ enabledModules) then none
        else some ⟨m.model, m.name, checkModelOperationEnabled r m.model⟩

/-- The `resources` of `_catalog_resources`. -/
def catalogResources : List Resource := listAccessibleModels r

/-- The `permitted_resources` of `me`. -/
def permittedResources : List String := (listAccessibleModels r).map (·.model)

end Lookups

/-! ### Names that pass -/

lemma isNameChar_printable {c : Char} (h : isNameChar c = true) : 33 ≤ c.toNat ∧ c.toNat < 128 := by
  unfold isNameChar at h
  simp only [Bool.or_eq_true, beq_iff_eq] at h
  rcases h with (h | rfl) | rfl
  · have hdef : c.isAlphanum = (decide (65 ≤ c.val ∧ c.val ≤ 90) ||
        (decide (97 ≤ c.val) && decide (c.val ≤ 122)) || (decide (48 ≤ c.val) && decide (c.val ≤ 57))) := rfl
    have hv : c.toNat = c.val.toNat := rfl
    rw [hdef] at h
    simp only [Bool.or_eq_true, Bool.and_eq_true, decide_eq_true_eq, UInt32.le_iff_toNat_le,
      UInt32.reduceToNat] at h
    omega
  · decide
  · decide

lemma strip_modelName {s : String} (h : IsModelName s) : strip s = s :=
  strip_of_clean fun c hc => isSpace_of_printable (isNameChar_printable (h.2 c hc))

lemma matches_modelName {s : String} (h : IsModelName s) : matchesModelName s = true := by
  have hne : s.toList ≠ [] := fun he => h.1 (by rw [← String.ofList_toList (s := s), he])
  have hlast : ¬ s.toList.getLast? = some '\n' := by
    intro hl
    have := h.2 '\n' (List.mem_of_getLast? hl)
    exact absurd this (by decide)
  unfold matchesModelName
  simp only [if_neg hlast, Bool.and_eq_true, List.all_eq_true]
  exact ⟨by simpa using hne, h.2⟩

/-- A name of name characters passes unchanged. -/
lemma sanitize_modelName {s : String} (h : IsModelName s) : sanitizeOrLog s = some s := by
  unfold sanitizeOrLog sanitizeModelName
  rw [if_neg h.1, matches_modelName h, strip_modelName h]
  rfl

/-- A name that passes becomes a name of name characters: it was one, or a final newline is lost. -/
lemma sanitize_spec {s name : String} (h : sanitizeModelName s = .ok name) :
    IsModelName name ∧ (name = s ∨ s = name ++ "\n") := by
  unfold sanitizeModelName at h
  split_ifs at h with h0 hm
  obtain rfl := Except.ok.inj h
  have hm' : matchesModelName s = true := by simpa using hm
  unfold matchesModelName at hm'
  simp only at hm'
  by_cases hl : s.toList.getLast? = some '\n'
  · -- the newline that the pattern lets through is stripped
    obtain ⟨w, hw⟩ := List.getLast?_eq_some_iff.1 hl
    rw [if_pos hl] at hm'
    simp only [hw, List.dropLast_concat, Bool.and_eq_true, List.all_eq_true] at hm'
    have hs : s = String.ofList w ++ "\n" := by
      rw [← String.toList_inj, String.toList_append, String.toList_ofList, hw]
      rfl
    have hn : IsModelName (String.ofList w) := by
      refine ⟨fun he => ?_, by simpa using hm'.2⟩
      have hw0 : w = [] := String.ofList_eq_empty_iff.1 he
      simp [hw0] at hm'
    have hstrip : strip s = String.ofList w := by
      have hclean : ∀ c ∈ w, isSpace c = false := fun c hc =>
        isSpace_of_printable (isNameChar_printable (hm'.2 c hc))
      have hw0 : w ≠ [] := by simpa using hm'.1
      obtain ⟨c, w', rfl⟩ := List.exists_cons_of_ne_nil hw0
      have hself : strip (String.ofList (c :: w')) = String.ofList (c :: w') :=
        strip_of_clean (by simpa using hclean)
      unfold strip at hself ⊢
      have hc : isSpace c = false := hclean c (by simp)
      rw [hw, ← hself, String.toList_ofList, List.cons_append, List.dropWhile_cons_of_neg (by simp [hc]),
        List.dropWhile_cons_of_neg (by simp [hc]), ← List.cons_append,
        List.rdropWhile_concat_pos _ _ _ (by decide)]
    exact ⟨by rw [hstrip]; exact hn, Or.inr (by rw [hstrip]; exact hs)⟩
  · rw [if_neg hl] at hm'
    simp only [Bool.and_eq_true, List.all_eq_true] at hm'
    have hn : IsModelName s := ⟨h0, hm'.2⟩
    rw [strip_modelName hn]
    exact ⟨hn, Or.inl rfl⟩

end AdvMcp.Access
