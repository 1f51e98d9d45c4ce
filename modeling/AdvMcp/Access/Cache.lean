import AdvMcp.Access.Sync
import AdvMcp.Lib.Memo

/-!
# The cache in front of the lookups

The readers of `models/module_access.py` under `ormcache`, and the methods that change `adv.module.access`,
`adv.model.access` and `adv.server.config`, each with the row changes and the calls of `_clear_caches` that it
nests.  A method that raises is rolled back; the cache is left as it then is.

* `performEdit` — the methods, as scripts over rows and cache;
* `forgets_performEdit`, `flushes_performEdit` — no method fills the cache, and each that returns has emptied it
  after its last row change;
* `performEdit_edit` — where a method returns, the rows are those of `edit`;
* `coherent_acts` — so the answers that are kept are up to date after any calls.
-/

namespace AdvMcp.Access

open AdvMcp.Lib AdvMcp.Py

/-! ### The readers -/

/-- The rows that the readers read. -/
structure Db where
  config : Config
  enableOauth : Bool
  allowedOrigins : String

/-- The calls of the readers, with the arguments that are keys of the cache. -/
inductive Reader where
  | isModelEnabled (modelName : String)
  | checkModelOperationEnabled (modelName operation : String)
  | isMethodCallEnabled (modelName : String)
  | getAmcpEnabled
  | getOauthEnabled
  | getAllowedOrigins
  deriving DecidableEq

def Reader.Answer : Reader → Type
  | .getAllowedOrigins => List String
  | _ => Bool

/-- `allowed_origin_set` -/
def allowedOriginSet (lo : Lower) (allowedOrigins : String) : List String :=
  ((splitOn ',' (strip allowedOrigins)).filter fun part => strip part ≠ "").map fun part =>
    lo.lower (rstrip '/' (strip part))

/-- What a reader computes from the rows. -/
def compute (lo : Lower) (db : Db) : (k : Reader) → Except String k.Answer
  | .isModelEnabled modelName => .ok (isModelEnabled db.config.registry modelName)
  | .checkModelOperationEnabled modelName operation =>
    match Operation.ofName operation with
    | none => .error ("Invalid operation: " ++ operation)
    | some op => .ok (checkModelOperationEnabled db.config.registry modelName op)
  | .isMethodCallEnabled modelName => .ok (isMethodCallEnabled db.config.registry modelName)
  | .getAmcpEnabled => .ok db.config.registry.enabled
  | .getOauthEnabled => .ok db.enableOauth
  | .getAllowedOrigins => .ok (allowedOriginSet lo db.allowedOrigins)

/-! ### The methods -/

/-- The rows and the cache of the readers. -/
abbrev Gateway := Memo Db Reader Reader.Answer

abbrev Method (α : Type) := Script String Db Reader Reader.Answer α

/-- The tables of module records and override rows, as they are. -/
def tables : Method Config := do return (← rows).config

/-- The ORM's own `create`, `write` or `unlink`: the rows are stored, unless they break a constraint. -/
def store (modules : List ModuleAccess) (overrides : List ModelAccess) (nextId : ℕ) : Method Unit :=
  change fun db =>
    let r : Registry := { db.config.registry with modules := modules, overrides := overrides }
    if Consistent r then .ok { db with config := ⟨r, nextId⟩ } else .error "The operation cannot be completed"

/-- `AdvModelAccess.create` -/
def createModelAccess (new : List ModelAccess) : Method Unit := do
  let c ← tables
  store c.registry.modules (c.registry.overrides ++ new) c.nextId
  clearCache

/-- Override rows are selected by their keys. -/
local instance lawfulKeys : LawfulBEq (ℕ × ℕ) := inferInstance

/-- `AdvModelAccess.write` -/
def writeModelAccess (keys : List (ℕ × ℕ)) (vals : ModelVals) : Method Unit := do
  let c ← tables
  store c.registry.modules (updateWhere (·.key ∈ keys) vals.apply c.registry.overrides) c.nextId
  clearCache

/-- `AdvModelAccess.unlink` -/
def unlinkModelAccess (keys : List (ℕ × ℕ)) : Method Unit := do
  let c ← tables
  store c.registry.modules (c.registry.overrides.filter (·.key ∉ keys)) c.nextId
  clearCache

/-- `_sync_model_access_ids` -/
def syncModelAccess (rec : ModuleAccess) : Method PUnit := do
  let c ← tables
  let newModelIds := moduleModelIds c.registry.models rec.moduleName
  let existingIds := (c.registry.overrides.filter (·.moduleAccessId = rec.id)).map (·.modelId)
  let toAdd := newModelIds.filter (· ∉ existingIds)
  let toRemove := existingIds.filter (· ∉ newModelIds)
  onlyIf (toAdd ≠ []) (createModelAccess (toAdd.map fun mid => ⟨rec.id, mid, defaultFlags⟩))
  onlyIf (toRemove ≠ []) (unlinkModelAccess (toRemove.map fun mid => (rec.id, mid)))

/-- `AdvModuleAccess.create` -/
def createModuleAccess (vals : List NewModule) : Method Unit := do
  let c ← tables
  let recs := newRecords c.nextId vals
  store (c.registry.modules ++ recs) (c.registry.overrides ++ newRows c.nextId vals) (c.nextId + vals.length)
  recs.forM syncModelAccess
  clearCache

/-- `AdvModuleAccess.write` -/
def writeModuleAccess (ids : List ℕ) (vals : ModuleVals) : Method Unit := do
  let c ← tables
  let modules := updateWhere (·.id ∈ ids) vals.apply c.registry.modules
  store modules c.registry.overrides c.nextId
  onlyIf vals.moduleName.isSome ((modules.filter (·.id ∈ ids)).forM syncModelAccess)
  clearCache

/-- `AdvModuleAccess.unlink`; the database deletes the override rows. -/
def unlinkModuleAccess (ids : List ℕ) : Method Unit := do
  let c ← tables
  store (c.registry.modules.filter (·.id ∉ ids)) (c.registry.overrides.filter (·.moduleAccessId ∉ ids)) c.nextId
  clearCache

/-- `action_sync_models` -/
def syncModels (ids : List ℕ) : Method Unit := do
  let c ← tables
  (c.registry.modules.filter (·.id ∈ ids)).forM syncModelAccess
  clearCache

/-- All the flags, to be written. -/
def Flags.vals (f : Flags) : FlagVals :=
  ⟨some f.allowRead, some f.allowCreate, some f.allowWrite, some f.allowUnlink, some f.allowMethodCalls⟩

/-- `AdvModulePicker.action_confirm`: the archived records are written one by one. -/
def confirmModules (modules : List String) (flags : Flags) : Method Unit := do
  let c ← tables
  let existing := c.registry.modules.map (·.moduleName)
  (c.registry.modules.filter fun rec => rec.moduleName ∈ modules && !rec.active).forM fun rec =>
    writeModuleAccess [rec.id] ⟨none, some true, flags.vals⟩
  let new := modules.filter (· ∉ existing)
  onlyIf (new ≠ []) (createModuleAccess (new.map fun m => ⟨m, true, flags, []⟩))

/-- The edits that leave `ir.model` alone. -/
def Edit.KeepsModels : Edit → Prop
  | .upgrade _ => False
  | _ => True

def performEdit : (e : Edit) → e.KeepsModels → Method Unit
  | .create vals, _ => createModuleAccess vals
  | .write ids vals, _ => writeModuleAccess ids vals
  | .unlink ids, _ => unlinkModuleAccess ids
  | .actionSyncModels ids, _ => syncModels ids
  | .actionConfirm modules flags, _ => confirmModules modules flags
  | .createOverrides new, _ => createModelAccess new
  | .writeOverrides keys vals, _ => writeModelAccess keys vals
  | .unlinkOverrides keys, _ => unlinkModelAccess keys
  | .upgrade _, h => h.elim

/-- The values that a write on `adv.server.config` sets, of those that are read here. -/
structure ServerVals where
  enabled : Option Bool
  enableOauth : Option Bool
  allowedOrigins : Option String

def ServerVals.apply (v : ServerVals) (db : Db) : Db where
  config := { db.config with
    registry := { db.config.registry with enabled := v.enabled.getD db.config.registry.enabled } }
  enableOauth := v.enableOauth.getD db.enableOauth
  allowedOrigins := v.allowedOrigins.getD db.allowedOrigins

/-- `AdvServerConfig.write` -/
def writeServerConfig (vals : ServerVals) : Method Unit := do
  change fun db => .ok (vals.apply db)
  clearCache

/-! ### What the methods do to the cache -/

lemma forgets_tables : Forgets tables := forgets_bind forgets_rows fun _ => forgets_pure _

lemma flushes_tables : Flushes tables := flushes_bind flushes_rows (fun _ => flushes_pure _) fun _ => forgets_pure _

lemma forgets_store {modules : List ModuleAccess} {overrides : List ModelAccess} {nextId : ℕ} :
    Forgets (store modules overrides nextId) := forgets_change _

/-- A method that ends with `_clear_caches`. -/
lemma forgets_cleared {x : Method Unit} (h : Forgets x) : Forgets (do x; clearCache) :=
  forgets_bind h fun _ => forgets_clearCache

lemma forgets_createModelAccess (new : List ModelAccess) : Forgets (createModelAccess new) :=
  forgets_bind forgets_tables fun _ => forgets_cleared forgets_store

lemma flushes_createModelAccess (new : List ModelAccess) : Flushes (createModelAccess new) :=
  flushes_bind flushes_tables (fun _ => flushes_clearCache) fun _ => forgets_cleared forgets_store

lemma forgets_unlinkModelAccess (keys : List (ℕ × ℕ)) : Forgets (unlinkModelAccess keys) :=
  forgets_bind forgets_tables fun _ => forgets_cleared forgets_store

lemma flushes_unlinkModelAccess (keys : List (ℕ × ℕ)) : Flushes (unlinkModelAccess keys) :=
  flushes_bind flushes_tables (fun _ => flushes_clearCache) fun _ => forgets_cleared forgets_store

lemma forgets_syncModelAccess (rec : ModuleAccess) : Forgets (syncModelAccess rec) := by
  refine forgets_bind forgets_tables fun c => forgets_bind (forgets_onlyIf _ ?_) fun _ => forgets_onlyIf _ ?_
  · exact forgets_createModelAccess _
  · exact forgets_unlinkModelAccess _

lemma forgets_createModuleAccess (vals : List NewModule) : Forgets (createModuleAccess vals) := by
  refine forgets_bind forgets_tables fun c => forgets_bind forgets_store fun _ => ?_
  exact forgets_bind (forgets_forM forgets_syncModelAccess) fun _ => forgets_clearCache

lemma flushes_createModuleAccess (vals : List NewModule) : Flushes (createModuleAccess vals) := by
  unfold createModuleAccess
  simp only [← bind_assoc]
  exact flushes_clearCache

lemma forgets_writeModuleAccess (ids : List ℕ) (vals : ModuleVals) : Forgets (writeModuleAccess ids vals) := by
  refine forgets_bind forgets_tables fun c => forgets_bind forgets_store fun _ => ?_
  exact forgets_bind (forgets_onlyIf _ (forgets_forM forgets_syncModelAccess)) fun _ => forgets_clearCache

lemma flushes_writeModuleAccess (ids : List ℕ) (vals : ModuleVals) : Flushes (writeModuleAccess ids vals) := by
  unfold writeModuleAccess
  simp only [← bind_assoc]
  exact flushes_clearCache

/-- **No method puts anything into the cache.** -/
lemma forgets_performEdit (e : Edit) (he : e.KeepsModels) : Forgets (performEdit e he) := by
  cases e with
  | create vals => exact forgets_createModuleAccess vals
  | write ids vals => exact forgets_writeModuleAccess ids vals
  | unlink ids => exact forgets_bind forgets_tables fun _ => forgets_cleared forgets_store
  | actionSyncModels ids =>
    exact forgets_bind forgets_tables fun _ => forgets_cleared (forgets_forM forgets_syncModelAccess)
  | actionConfirm modules flags =>
    refine forgets_bind forgets_tables fun c => forgets_bind (forgets_forM fun rec => ?_) fun _ => ?_
    · exact forgets_writeModuleAccess _ _
    · exact forgets_onlyIf _ (forgets_createModuleAccess _)
  | createOverrides new => exact forgets_createModelAccess new
  | writeOverrides keys vals => exact forgets_bind forgets_tables fun _ => forgets_cleared forgets_store
  | unlinkOverrides keys => exact forgets_unlinkModelAccess keys
  | upgrade db => exact he.elim

/-- **A method that returns has emptied the cache after its last row change.** -/
lemma flushes_performEdit (e : Edit) (he : e.KeepsModels) : Flushes (performEdit e he) := by
  cases e with
  | create vals => exact flushes_createModuleAccess vals
  | write ids vals => exact flushes_writeModuleAccess ids vals
  | unlink ids =>
    exact flushes_bind flushes_tables (fun _ => flushes_clearCache) fun _ => forgets_cleared forgets_store
  | actionSyncModels ids =>
    exact flushes_bind flushes_tables (fun _ => flushes_clearCache) fun _ =>
      forgets_cleared (forgets_forM forgets_syncModelAccess)
  | actionConfirm modules flags =>
    -- each archived record is written by a method that clears, and so are the new ones made
    refine flushes_bind flushes_tables (fun c => ?_) fun c => ?_
    · refine flushes_bind (flushes_forM (fun rec => ?_) fun rec => ?_) (fun _ => ?_) fun _ => ?_
      · exact flushes_writeModuleAccess _ _
      · exact forgets_writeModuleAccess _ _
      · exact flushes_onlyIf _ (flushes_createModuleAccess _)
      · exact forgets_onlyIf _ (forgets_createModuleAccess _)
    · refine forgets_bind (forgets_forM fun rec => ?_) fun _ => ?_
      · exact forgets_writeModuleAccess _ _
      · exact forgets_onlyIf _ (forgets_createModuleAccess _)
  | createOverrides new => exact flushes_createModelAccess new
  | writeOverrides keys vals =>
    exact flushes_bind flushes_tables (fun _ => flushes_clearCache) fun _ => forgets_cleared forgets_store
  | unlinkOverrides keys => exact flushes_unlinkModelAccess keys
  | upgrade db => exact he.elim

lemma forgets_writeServerConfig (vals : ServerVals) : Forgets (writeServerConfig vals) :=
  forgets_cleared (forgets_change _)

lemma flushes_writeServerConfig (vals : ServerVals) : Flushes (writeServerConfig vals) := flushes_clearCache

/-! ### What the methods do to the rows -/

/-- The configuration with other rows. -/
def Config.put (c : Config) (modules : List ModuleAccess) (overrides : List ModelAccess) (nextId : ℕ) : Config :=
  ⟨{ c.registry with modules := modules, overrides := overrides }, nextId⟩

/-- Nothing was stored, or what was stored keeps the constraints. -/
def Stored (c c' : Config) : Prop := c' = c ∨ Consistent c'.registry

lemma Stored.trans {c₁ c₂ c₃ : Config} (h : Stored c₁ c₂) (h' : Stored c₂ c₃) : Stored c₁ c₃ := by
  rcases h' with rfl | h'
  · exact h
  · exact Or.inr h'

/-- A returned method has made the rows `c'` of the rows `c`. -/
structure Made (m m' : Gateway) (c' : Config) : Prop where
  rows : m'.rows = { m.rows with config := c' }
  stored : Stored m.rows.config c'

section Rows

variable {m m' : Gateway} {modules : List ModuleAccess} {overrides : List ModelAccess} {nextId : ℕ}

lemma Made.config {c' : Config} (h : Made m m' c') : m'.rows.config = c' := by rw [h.rows]

lemma Made.trans {m₁ m₂ m₃ : Gateway} {c₂ c₃ : Config} (h : Made m₁ m₂ c₂) (h' : Made m₂ m₃ c₃) :
    Made m₁ m₃ c₃ := by
  refine ⟨?_, ?_⟩
  · rw [h'.rows, h.rows]
  · exact h.stored.trans (h.config ▸ h'.stored)

lemma Made.refl (m : Gateway) : Made m m m.rows.config := ⟨rfl, Or.inl rfl⟩

/-- What was stored step by step is what the edit commits. -/
lemma Made.commit (h : Made m m' (m.rows.config.put modules overrides nextId)) :
    Made m m' (Access.commit m.rows.config modules overrides nextId) := by
  have heq : Access.commit m.rows.config modules overrides nextId =
      m.rows.config.put modules overrides nextId := by
    rcases h.stored with he | hc
    · rcases commit_cases m.rows.config modules overrides nextId with hn | ⟨-, hn⟩
      · exact hn.trans he.symm
      · exact hn
    · exact if_pos hc
  rw [heq]
  exact h

lemma store_ok (h : store modules overrides nextId m = .ok () m') :
    Made m m' (m.rows.config.put modules overrides nextId) := by
  unfold store change at h
  simp only at h
  split_ifs at h with hc
  · cases h
    exact ⟨rfl, Or.inr hc⟩

lemma clearCache_ok (h : (clearCache : Method Unit) m = .ok () m') : Made m m' m.rows.config := by
  cases h
  exact ⟨rfl, Or.inl rfl⟩

/-- The rows are stored and the cache is cleared. -/
lemma cleared_ok {x : Method Unit} (h : (do x; clearCache : Method Unit) m = .ok () m') {c' : Config}
    (hx : ∀ m₁, x m = .ok () m₁ → Made m m₁ c') : Made m m' c' := by
  obtain ⟨⟨⟩, m₁, h1, h2⟩ := bind_ok.1 h
  have hmade := hx m₁ h1
  exact hmade.trans (hmade.config ▸ clearCache_ok h2)

lemma tables_bind {α : Type} {f : Config → Method α} : (tables >>= f) m = f m.rows.config m := rfl

lemma createModelAccess_ok {new : List ModelAccess} (h : createModelAccess new m = .ok () m') :
    Made m m' (m.rows.config.put m.rows.config.registry.modules (m.rows.config.registry.overrides ++ new)
      m.rows.config.nextId) :=
  cleared_ok h fun _ => store_ok

lemma unlinkModelAccess_ok {keys : List (ℕ × ℕ)} (h : unlinkModelAccess keys m = .ok () m') :
    Made m m' (m.rows.config.put m.rows.config.registry.modules
      (m.rows.config.registry.overrides.filter (·.key ∉ keys)) m.rows.config.nextId) :=
  cleared_ok h fun _ => store_ok

lemma onlyIf_ok {c : Bool} {x : Method Unit} (h : onlyIf c x m = .ok () m') :
    c = true ∧ x m = .ok () m' ∨ c = false ∧ m' = m := by
  unfold onlyIf at h
  split_ifs at h with hc
  · exact Or.inl ⟨hc, h⟩
  · cases h
    exact Or.inr ⟨by simpa using hc, rfl⟩

/-- Rows are added before others are deleted, and no row that is added is one of these. -/
lemma sync_rows {models : List IrModel} {rec : ModuleAccess} {toAdd toRemove : List ℕ}
    (hadd : toAdd = (moduleModelIds models rec.moduleName).filter
      (· ∉ (overrides.filter (·.moduleAccessId = rec.id)).map (·.modelId)))
    (hremove : toRemove = ((overrides.filter (·.moduleAccessId = rec.id)).map (·.modelId)).filter
      (· ∉ moduleModelIds models rec.moduleName)) :
    (overrides ++ toAdd.map fun mid => (⟨rec.id, mid, defaultFlags⟩ : ModelAccess)).filter
        (·.key ∉ toRemove.map fun mid => (rec.id, mid)) =
      syncModelAccessIds models overrides rec := by
  unfold syncModelAccessIds
  rw [List.filter_append, hremove, hadd]
  congr 1
  · refine List.filter_congr fun o _ => ?_
    rw [Bool.eq_iff_iff]
    simp only [ModelAccess.key, decide_eq_true_eq, List.mem_map, Prod.mk.injEq, Bool.not_eq_true',
      Bool.and_eq_false_iff, decide_eq_false_iff_not]
    constructor
    · intro h
      by_cases hid : o.moduleAccessId = rec.id
      · exact Or.inr fun hm => h ⟨_, hm, hid.symm, rfl⟩
      · exact Or.inl hid
    · rintro h ⟨mid, hm, hid, rfl⟩
      rcases h with h | h
      · exact h hid.symm
      · exact h hm
  · refine List.filter_eq_self.2 fun o ho => ?_
    obtain ⟨mid, hmid, rfl⟩ := List.mem_map.1 ho
    refine decide_eq_true fun hm => ?_
    obtain ⟨mid', hmid', he⟩ := List.mem_map.1 hm
    obtain ⟨-, rfl⟩ := Prod.mk.inj he
    exact of_decide_eq_true (List.mem_filter.1 hmid').2 (List.mem_of_mem_filter hmid)

lemma syncModelAccess_ok {rec : ModuleAccess} (h : syncModelAccess rec m = .ok () m') :
    Made m m' (m.rows.config.put m.rows.config.registry.modules
      (syncModelAccessIds m.rows.config.registry.models m.rows.config.registry.overrides rec)
      m.rows.config.nextId) := by
  unfold syncModelAccess at h
  rw [tables_bind] at h
  obtain ⟨⟨⟩, m₁, h1, h2⟩ := bind_ok.1 h
  rw [← sync_rows rfl rfl]
  have hadded : Made m m₁ (m.rows.config.put m.rows.config.registry.modules
      (m.rows.config.registry.overrides ++
        ((moduleModelIds m.rows.config.registry.models rec.moduleName).filter (· ∉
          (m.rows.config.registry.overrides.filter (·.moduleAccessId = rec.id)).map (·.modelId))).map
        fun mid => ⟨rec.id, mid, defaultFlags⟩) m.rows.config.nextId) := by
    rcases onlyIf_ok h1 with ⟨-, h1⟩ | ⟨hnone, rfl⟩
    · exact createModelAccess_ok h1
    · have hnil := of_not_not (of_decide_eq_false hnone)
      rw [hnil, List.map_nil, List.append_nil]
      exact .refl _
  rcases onlyIf_ok h2 with ⟨-, h2⟩ | ⟨hnone, rfl⟩
  · have hunlinked := unlinkModelAccess_ok h2
    rw [hadded.config] at hunlinked
    exact hadded.trans hunlinked
  · have hnil := of_not_not (of_decide_eq_false hnone)
    rw [hnil, List.map_nil, List.filter_eq_self.2 fun o _ => by simp]
    exact hadded

lemma syncs_ok {recs : List ModuleAccess} (h : recs.forM syncModelAccess m = .ok () m') :
    Made m m' (m.rows.config.put m.rows.config.registry.modules
      (recs.foldl (syncModelAccessIds m.rows.config.registry.models) m.rows.config.registry.overrides)
      m.rows.config.nextId) := by
  induction recs generalizing m with
  | nil =>
    cases h
    exact .refl _
  | cons rec recs ih =>
    obtain ⟨⟨⟩, m₁, h1, h2⟩ := bind_ok.1 h
    have hfirst := syncModelAccess_ok h1
    have hrest := ih h2
    rw [hfirst.config] at hrest
    exact hfirst.trans hrest

/-- The rows of new records, added to given ones. -/
def withNew (c : Config) (modules : List ModuleAccess) (vals : List NewModule) : Config :=
  c.put (modules ++ newRecords c.nextId vals)
    ((newRecords c.nextId vals).foldl (syncModelAccessIds c.registry.models)
      (c.registry.overrides ++ newRows c.nextId vals)) (c.nextId + vals.length)

lemma createModuleAccess_ok {vals : List NewModule} (h : createModuleAccess vals m = .ok () m') :
    Made m m' (withNew m.rows.config m.rows.config.registry.modules vals) := by
  unfold createModuleAccess at h
  rw [tables_bind] at h
  obtain ⟨⟨⟩, m₁, h1, h2⟩ := bind_ok.1 h
  have hstored := store_ok h1
  refine hstored.trans (cleared_ok h2 fun m₂ h2 => ?_)
  have hsynced := syncs_ok h2
  rw [hstored.config] at hsynced
  exact hsynced

lemma writeModuleAccess_ok {ids : List ℕ} {vals : ModuleVals} (h : writeModuleAccess ids vals m = .ok () m') :
    Made m m' (writeModules m.rows.config ids vals) := by
  unfold writeModuleAccess at h
  rw [tables_bind] at h
  obtain ⟨⟨⟩, m₁, h1, h2⟩ := bind_ok.1 h
  have hstored := store_ok h1
  refine Made.commit (hstored.trans (cleared_ok h2 fun m₂ h2 => ?_))
  rcases onlyIf_ok h2 with ⟨hname, h2⟩ | ⟨hname, rfl⟩
  · have hsynced := syncs_ok h2
    rw [hstored.config] at hsynced
    rw [if_pos hname]
    exact hsynced
  · rw [if_neg (by simp [hname])]
    exact hstored.config ▸ Made.refl m₂

/-- A write that leaves the module of the records alone. -/
lemma writeModuleAccess_values {ids : List ℕ} {vals : ModuleVals} (hname : vals.moduleName = none)
    (h : writeModuleAccess ids vals m = .ok () m') :
    Made m m' (m.rows.config.put (updateWhere (·.id ∈ ids) vals.apply m.rows.config.registry.modules)
      m.rows.config.registry.overrides m.rows.config.nextId) := by
  unfold writeModuleAccess at h
  rw [tables_bind] at h
  obtain ⟨⟨⟩, m₁, h1, h2⟩ := bind_ok.1 h
  have hstored := store_ok h1
  refine hstored.trans (cleared_ok h2 fun m₂ h2 => ?_)
  rw [hname] at h2
  cases h2
  exact hstored.config ▸ Made.refl m₁

/-- Records that are written one by one. -/
lemma writes_ok {recs : List ModuleAccess} {vals : ModuleVals} (hname : vals.moduleName = none)
    (hvals : ∀ rec, vals.apply (vals.apply rec) = vals.apply rec)
    (h : recs.forM (fun rec => writeModuleAccess [rec.id] vals) m = .ok ⟨⟩ m') :
    Made m m' (m.rows.config.put
      (updateWhere (fun rec => rec.id ∈ recs.map (·.id)) vals.apply m.rows.config.registry.modules)
      m.rows.config.registry.overrides m.rows.config.nextId) := by
  induction recs generalizing m with
  | nil =>
    cases h
    rw [updateWhere_of_none fun _ _ => by simp]
    exact .refl _
  | cons rec recs ih =>
    obtain ⟨⟨⟩, m₁, h1, h2⟩ := bind_ok.1 h
    have hfirst := writeModuleAccess_values hname h1
    have hrest := ih h2
    rw [hfirst.config] at hrest
    have hboth := hfirst.trans hrest
    have hrows : updateWhere (fun r => decide (r.id ∈ recs.map (·.id))) vals.apply
        (updateWhere (fun r => decide (r.id ∈ [rec.id])) vals.apply m.rows.config.registry.modules) =
        updateWhere (fun r => decide (r.id ∈ (rec :: recs).map (·.id))) vals.apply
          m.rows.config.registry.modules := by
      rw [updateWhere_or _ hvals]
      exact updateWhere_congr fun r _ => by simp
    rw [← hrows]
    exact hboth

lemma confirmModules_ok (hid : (m.rows.config.registry.modules.map (·.id)).Nodup) {names : List String}
    {flags : Flags} (h : confirmModules names flags m = .ok () m') :
    Made m m' (actionConfirm m.rows.config names flags) := by
  unfold confirmModules at h
  rw [tables_bind] at h
  obtain ⟨⟨⟩, m₁, h1, h2⟩ := bind_ok.1 h
  have hwritten := writes_ok rfl (fun _ => rfl) h1
  have hrows : updateWhere (fun rec => decide (rec.id ∈ (m.rows.config.registry.modules.filter fun rec =>
        decide (rec.moduleName ∈ names) && !rec.active).map (·.id)))
        (ModuleVals.apply ⟨none, some true, flags.vals⟩) m.rows.config.registry.modules =
      updateWhere (fun rec => decide (rec.moduleName ∈ names) && !rec.active)
        (fun rec => { rec with flags := flags, active := true }) m.rows.config.registry.modules := by
    refine updateWhere_congr fun rec hrec => ?_
    rw [Bool.eq_iff_iff, decide_eq_true_eq, List.mem_map]
    constructor
    · rintro ⟨rec', hrec', he⟩
      obtain ⟨hmem, hsel⟩ := List.mem_filter.1 hrec'
      rwa [← List.inj_on_of_nodup_map hid hmem hrec he]
    · exact fun hsel => ⟨rec, List.mem_filter.2 ⟨hrec, hsel⟩, rfl⟩
  rw [hrows] at hwritten
  refine Made.commit ?_
  rcases onlyIf_ok h2 with ⟨-, h2⟩ | ⟨hnone, rfl⟩
  · have hcreated := createModuleAccess_ok h2
    rw [hwritten.config] at hcreated
    exact hwritten.trans hcreated
  · have hnil := of_not_not (of_decide_eq_false hnone)
    simp only [hnil, List.map_nil, newRecords, newRows, List.mapIdx_nil, List.flatten_nil, List.append_nil,
      List.foldl_nil, List.length_nil, Nat.add_zero]
    exact hwritten

/-- **Where a method returns, the rows are those of the edit.** -/
theorem performEdit_edit (hid : (m.rows.config.registry.modules.map (·.id)).Nodup) {e : Edit}
    {he : e.KeepsModels} (h : performEdit e he m = .ok () m') :
    m'.rows = { m.rows with config := edit m.rows.config e } := by
  suffices hmade : Made m m' (edit m.rows.config e) from hmade.rows
  cases e with
  | create vals => exact (createModuleAccess_ok h).commit
  | write ids vals => exact writeModuleAccess_ok h
  | unlink ids => exact Made.commit (cleared_ok h fun _ => store_ok)
  | actionSyncModels ids => exact Made.commit (cleared_ok h fun _ => syncs_ok)
  | actionConfirm modules flags => exact confirmModules_ok hid h
  | createOverrides new => exact (createModelAccess_ok h).commit
  | writeOverrides keys vals => exact Made.commit (cleared_ok h fun _ => store_ok)
  | unlinkOverrides keys => exact (unlinkModelAccess_ok h).commit
  | upgrade db => exact he.elim

end Rows

/-! ### Calls in any order -/

/-- Calls of the methods and of the readers.  The cache is bounded, so it may also drop answers. -/
inductive Act where
  | edit (e : Edit) (h : e.KeepsModels)
  | writeServerConfig (vals : ServerVals)
  | lookup (k : Reader)
  | evict (dropped : Reader → Bool)

def act (lo : Lower) (m : Gateway) : Act → Gateway
  | .edit e h => leaves (transaction (performEdit e h)) m
  | .writeServerConfig vals => leaves (transaction (writeServerConfig vals)) m
  | .lookup k => (m.lookup (compute lo) k).2
  | .evict dropped => m.evict dropped

lemma coherent_act {lo : Lower} {m : Gateway} (h : m.Coherent (compute lo)) (a : Act) :
    (act lo m a).Coherent (compute lo) := by
  cases a with
  | edit e he => exact h.transaction (forgets_performEdit e he) (flushes_performEdit e he)
  | writeServerConfig vals => exact h.transaction (forgets_writeServerConfig vals) (flushes_writeServerConfig vals)
  | lookup k => exact h.lookup k
  | evict dropped => exact h.evict dropped

lemma coherent_acts {lo : Lower} {m : Gateway} (h : m.Coherent (compute lo)) (acts : List Act) :
    (acts.foldl (act lo) m).Coherent (compute lo) := by
  induction acts generalizing m with
  | nil => exact h
  | cons a acts ih => exact ih (coherent_act h a)

/-- **The cache is coherent.**  After any sequence of calls, every reader answers what it would compute from the
rows as they are. -/
theorem readers_coherent (lo : Lower) (db : Db) (acts : List Act) (k : Reader) :
    ((acts.foldl (act lo) (.cold db)).lookup (compute lo) k).1 =
      compute lo (acts.foldl (act lo) (.cold db)).rows k :=
  Memo.lookup_answer (coherent_acts (Memo.Coherent.cold db) acts) k

end AdvMcp.Access
