import AdvMcp.Access.Lookups
import AdvMcp.Lib.Runs
import AdvMcp.Lib.Table

/-!
# Editing the configuration

What administrators do to `adv.module.access` and `adv.model.access`, as a state machine: creating, writing
and deleting records of both, `action_sync_models`, the module picker, and upgrades, which change the models
of the database.  An edit that breaks a constraint raises and changes nothing.  The commands by which a
module record writes its override rows are the edits of these rows.

* `syncModelAccessIds` — the rows of a module record brought in line with the models of its module;
* `absent_step` — an override row that is absent stays absent, unless a row is made for its record and model,
  or its record is synchronised while the module has the model;
* `removed_grants_nothing` — so without such a step the record grants nothing on the model.
-/

namespace AdvMcp.Access

open AdvMcp.Lib

/-! ### The edits -/

/-- The flags that a write sets. -/
structure FlagVals where
  allowRead : Option Bool
  allowCreate : Option Bool
  allowWrite : Option Bool
  allowUnlink : Option Bool
  allowMethodCalls : Option Bool

def FlagVals.apply (v : FlagVals) (f : Flags) : Flags :=
  ⟨v.allowRead.getD f.allowRead, v.allowCreate.getD f.allowCreate, v.allowWrite.getD f.allowWrite,
    v.allowUnlink.getD f.allowUnlink, v.allowMethodCalls.getD f.allowMethodCalls⟩

/-- The values of a new module record, with the models and flags of the override rows made with it. -/
structure NewModule where
  moduleName : String
  active : Bool
  flags : Flags
  rows : List (ℕ × Flags)

/-- The values that `AdvModuleAccess.write` sets. -/
structure ModuleVals where
  moduleName : Option String
  active : Option Bool
  flags : FlagVals

def ModuleVals.apply (v : ModuleVals) (rec : ModuleAccess) : ModuleAccess :=
  { rec with
    moduleName := v.moduleName.getD rec.moduleName
    active := v.active.getD rec.active
    flags := v.flags.apply rec.flags }

/-- The values that `AdvModelAccess.write` sets. -/
structure ModelVals where
  moduleAccessId : Option ℕ
  modelId : Option ℕ
  flags : FlagVals

def ModelVals.apply (v : ModelVals) (o : ModelAccess) : ModelAccess :=
  ⟨v.moduleAccessId.getD o.moduleAccessId, v.modelId.getD o.modelId, v.flags.apply o.flags⟩

/-- The record and the model of an override row. -/
def ModelAccess.key (o : ModelAccess) : ℕ × ℕ := (o.moduleAccessId, o.modelId)

/-- The models of an upgraded database. -/
structure Models where
  models : List IrModel
  unique : (models.map (·.model)).Nodup
  named : ∀ m ∈ models, IsModelName m.model

/-- Rows of `adv.module.access` are chosen by id, rows of `adv.model.access` by key. -/
inductive Edit where
  | create (vals : List NewModule)
  | write (ids : List ℕ) (vals : ModuleVals)
  | unlink (ids : List ℕ)
  | actionSyncModels (ids : List ℕ)
  | actionConfirm (modules : List String) (flags : Flags)
  | createOverrides (rows : List ModelAccess)
  | writeOverrides (keys : List (ℕ × ℕ)) (vals : ModelVals)
  | unlinkOverrides (keys : List (ℕ × ℕ))
  | upgrade (db : Models)

/-- The tables, and the id of the next module record. -/
structure Config where
  registry : Registry
  nextId : ℕ

/-- The defaults of `adv.model.access`. -/
def defaultFlags : Flags := ⟨true, true, true, true, true⟩

/-- `_compute_model_ids` -/
def moduleModelIds (models : List IrModel) (name : String) : List ℕ :=
  if name = "" then []
  else ((models.filter fun m => !m.transient).filter fun m => name ∈ m.moduleNames).map (·.id)

/-- `_sync_model_access_ids` -/
def syncModelAccessIds (models : List IrModel) (overrides : List ModelAccess) (rec : ModuleAccess) :
    List ModelAccess :=
  let newModelIds := moduleModelIds models rec.moduleName
  let existingIds := (overrides.filter (·.moduleAccessId = rec.id)).map (·.modelId)
  let toAdd := newModelIds.filter (· ∉ existingIds)
  let toRemove := existingIds.filter (· ∉ newModelIds)
  (overrides.filter fun o => !(decide (o.moduleAccessId = rec.id) && decide (o.modelId ∈ toRemove))) ++
    toAdd.map fun mid => ⟨rec.id, mid, defaultFlags⟩

/-- The unique constraints, and the foreign keys of the override rows. -/
structure Consistent (r : Registry) : Prop where
  modules : (r.modules.map (·.moduleName)).Nodup
  overrides : (r.overrides.map (·.key)).Nodup
  records : ∀ o ∈ r.overrides, o.moduleAccessId ∈ r.modules.map (·.id)
  models : ∀ o ∈ r.overrides, o.modelId ∈ r.models.map (·.id)

instance (r : Registry) : Decidable (Consistent r) :=
  decidable_of_iff ((r.modules.map (·.moduleName)).Nodup ∧ (r.overrides.map (·.key)).Nodup ∧
      (∀ o ∈ r.overrides, o.moduleAccessId ∈ r.modules.map (·.id)) ∧
      ∀ o ∈ r.overrides, o.modelId ∈ r.models.map (·.id))
    ⟨fun ⟨h1, h2, h3, h4⟩ => ⟨h1, h2, h3, h4⟩, fun h => ⟨h.1, h.2, h.3, h.4⟩⟩

section Edits

variable (c : Config)

/-- The tables after an edit, if it breaks no constraint. -/
def commit (modules : List ModuleAccess) (overrides : List ModelAccess) (nextId : ℕ) : Config :=
  let r : Registry := { c.registry with modules := modules, overrides := overrides }
  if Consistent r then ⟨r, nextId⟩ else c

/-- The new records of `create`, with their ids. -/
def newRecords (nextId : ℕ) (vals : List NewModule) : List ModuleAccess :=
  vals.mapIdx fun i v => ⟨nextId + i, v.moduleName, v.active, v.flags⟩

/-- The override rows that are made with new records. -/
def newRows (nextId : ℕ) (vals : List NewModule) : List ModelAccess :=
  (vals.mapIdx fun i v => v.rows.map fun p => ⟨nextId + i, p.1, p.2⟩).flatten

/-- `AdvModuleAccess.create`, with the module records as they are when it is called. -/
def createModules (modules : List ModuleAccess) (vals : List NewModule) : Config :=
  let recs := newRecords c.nextId vals
  commit c (modules ++ recs)
    (recs.foldl (syncModelAccessIds c.registry.models) (c.registry.overrides ++ newRows c.nextId vals))
    (c.nextId + vals.length)

/-- `AdvModuleAccess.write` -/
def writeModules (ids : List ℕ) (vals : ModuleVals) : Config :=
  let modules := updateWhere (·.id ∈ ids) vals.apply c.registry.modules
  let overrides :=
    if vals.moduleName.isSome then
      (modules.filter (·.id ∈ ids)).foldl (syncModelAccessIds c.registry.models) c.registry.overrides
    else c.registry.overrides
  commit c modules overrides c.nextId

/-- `AdvModuleAccess.unlink`; the override rows go with their record. -/
def unlinkModules (ids : List ℕ) : Config :=
  commit c (c.registry.modules.filter (·.id ∉ ids))
    (c.registry.overrides.filter (·.moduleAccessId ∉ ids)) c.nextId

/-- `action_sync_models` -/
def actionSyncModels (ids : List ℕ) : Config :=
  commit c c.registry.modules
    ((c.registry.modules.filter (·.id ∈ ids)).foldl (syncModelAccessIds c.registry.models)
      c.registry.overrides) c.nextId

/-- `AdvModulePicker.action_confirm`: archived records are activated, and records are made for the other
modules. -/
def actionConfirm (modules : List String) (flags : Flags) : Config :=
  let existing := c.registry.modules.map (·.moduleName)
  createModules c
    (updateWhere (fun rec => rec.moduleName ∈ modules && !rec.active)
      (fun rec => { rec with flags := flags, active := true }) c.registry.modules)
    ((modules.filter (· ∉ existing)).map fun m => ⟨m, true, flags, []⟩)

/-- The models of the database change; the override rows go with their model. -/
def upgradeModels (db : Models) : Config :=
  { c with
    registry :=
      { c.registry with
        models := db.models
        models_unique := db.unique
        models_named := db.named
        overrides := c.registry.overrides.filter (·.modelId ∈ db.models.map (·.id)) } }

def edit : Edit → Config
  | .create vals => createModules c c.registry.modules vals
  | .write ids vals => writeModules c ids vals
  | .unlink ids => unlinkModules c ids
  | .actionSyncModels ids => actionSyncModels c ids
  | .actionConfirm modules flags => actionConfirm c modules flags
  | .createOverrides rows => commit c c.registry.modules (c.registry.overrides ++ rows) c.nextId
  | .writeOverrides keys vals =>
    commit c c.registry.modules (updateWhere (·.key ∈ keys) vals.apply c.registry.overrides) c.nextId
  | .unlinkOverrides keys =>
    commit c c.registry.modules (c.registry.overrides.filter (·.key ∉ keys)) c.nextId
  | .upgrade db => upgradeModels c db

end Edits

/-- Nothing is configured at first. -/
def admin : Sys Config Edit where
  init c := c.registry.modules = [] ∧ c.registry.overrides = []
  step c e c' := c' = edit c e

/-! ### Constraints -/

section Constraints

variable {c : Config} {modules : List ModuleAccess} {overrides : List ModelAccess} {nextId : ℕ}

/-- An edit goes through with all constraints kept, or changes nothing. -/
lemma commit_cases (c : Config) (modules : List ModuleAccess) (overrides : List ModelAccess) (nextId : ℕ) :
    commit c modules overrides nextId = c ∨
      Consistent (commit c modules overrides nextId).registry ∧
        commit c modules overrides nextId =
          ⟨{ c.registry with modules := modules, overrides := overrides }, nextId⟩ := by
  unfold commit
  simp only
  split_ifs with h
  · exact Or.inr ⟨h, rfl⟩
  · exact Or.inl rfl

lemma consistent_commit (h : Consistent c.registry) :
    Consistent (commit c modules overrides nextId).registry := by
  rcases commit_cases c modules overrides nextId with he | ⟨hc, -⟩
  · rw [he]
    exact h
  · exact hc

lemma consistent_edit (h : Consistent c.registry) (e : Edit) : Consistent (edit c e).registry := by
  cases e with
  | create vals => exact consistent_commit h
  | write ids vals => exact consistent_commit h
  | unlink ids => exact consistent_commit h
  | actionSyncModels ids => exact consistent_commit h
  | actionConfirm modules flags => exact consistent_commit h
  | createOverrides rows => exact consistent_commit h
  | writeOverrides keys vals => exact consistent_commit h
  | unlinkOverrides keys => exact consistent_commit h
  | upgrade db =>
    refine ⟨h.modules, (List.filter_sublist.map _).nodup h.overrides, fun o ho => ?_, fun o ho => ?_⟩
    · exact h.records o (List.mem_of_mem_filter ho)
    · exact of_decide_eq_true (List.mem_filter.1 ho).2

theorem reachable_consistent (hr : admin.Reachable c) : Consistent c.registry := by
  refine hr.inv (I := fun c => Consistent c.registry) (fun c h0 => ?_) fun c e c' _ h hs => ?_
  · obtain ⟨hm, ho⟩ := h0
    refine ⟨?_, ?_, ?_, ?_⟩ <;> simp [hm, ho]
  · rw [show c' = edit c e from hs]
    exact consistent_edit h e

end Constraints

/-! ### Ids -/

/-- The ids of the module records have been given out. -/
def IdsBelow (c : Config) : Prop := ∀ rec ∈ c.registry.modules, rec.id < c.nextId

lemma mem_newRecords {nextId : ℕ} {vals : List NewModule} {rec : ModuleAccess}
    (h : rec ∈ newRecords nextId vals) : nextId ≤ rec.id ∧ rec.id < nextId + vals.length := by
  unfold newRecords at h
  obtain ⟨i, hi, rfl⟩ := List.mem_mapIdx.1 h
  exact ⟨Nat.le_add_right _ _, Nat.add_lt_add_left hi _⟩

lemma mem_newRows {nextId : ℕ} {vals : List NewModule} {o : ModelAccess}
    (h : o ∈ newRows nextId vals) : nextId ≤ o.moduleAccessId := by
  unfold newRows at h
  obtain ⟨l, hl, ho⟩ := List.mem_flatten.1 h
  obtain ⟨i, hi, rfl⟩ := List.mem_mapIdx.1 hl
  obtain ⟨p, -, rfl⟩ := List.mem_map.1 ho
  exact Nat.le_add_right _ _

section Ids

variable {c : Config} {modules : List ModuleAccess} {overrides : List ModelAccess} {nextId : ℕ}

lemma idsBelow_commit (h : IdsBelow c) (hm : ∀ rec ∈ modules, rec.id < nextId) :
    IdsBelow (commit c modules overrides nextId) := by
  rcases commit_cases c modules overrides nextId with he | ⟨-, he⟩
  · rw [he]
    exact h
  · rw [he]
    exact hm

lemma idsBelow_update (h : IdsBelow c) {p : ModuleAccess → Bool} {f : ModuleAccess → ModuleAccess}
    (hf : ∀ rec, (f rec).id = rec.id) : ∀ rec ∈ updateWhere p f c.registry.modules, rec.id < c.nextId := by
  intro rec hrec
  obtain ⟨rec₀, h0, rfl⟩ := mem_updateWhere.1 hrec
  have hlt := h rec₀ h0
  split_ifs
  · rw [hf]
    exact hlt
  · exact hlt

lemma idsBelow_create (h : IdsBelow c) (hm : ∀ rec ∈ modules, rec.id < c.nextId) (vals : List NewModule) :
    IdsBelow (createModules c modules vals) := by
  refine idsBelow_commit h fun rec hrec => ?_
  rcases List.mem_append.1 hrec with hrec | hrec
  · have hlt := hm rec hrec
    omega
  · exact (mem_newRecords hrec).2

lemma idsBelow_edit (h : IdsBelow c) (e : Edit) : IdsBelow (edit c e) := by
  cases e with
  | create vals => exact idsBelow_create h h vals
  | write ids vals => exact idsBelow_commit h (idsBelow_update h fun _ => rfl)
  | unlink ids => exact idsBelow_commit h fun rec hrec => h rec (List.mem_of_mem_filter hrec)
  | actionSyncModels ids => exact idsBelow_commit h h
  | actionConfirm modules flags =>
    refine idsBelow_create h (idsBelow_update (f := fun rec => { rec with flags := flags, active := true }) h ?_) _
    exact fun _ => rfl
  | createOverrides rows => exact idsBelow_commit h h
  | writeOverrides keys vals => exact idsBelow_commit h h
  | unlinkOverrides keys => exact idsBelow_commit h h
  | upgrade db => exact h

theorem reachable_idsBelow (hr : admin.Reachable c) : IdsBelow c := by
  refine hr.inv (I := IdsBelow) (fun c h0 rec hrec => ?_) fun c e c' _ h hs => ?_
  · rw [h0.1] at hrec
    cases hrec
  · rw [show c' = edit c e from hs]
    exact idsBelow_edit h e

end Ids

/-! ### Absent rows -/

/-- There is no override row of the record `k` for the model `mid`. -/
def Absent (k mid : ℕ) (overrides : List ModelAccess) : Prop := (k, mid) ∉ overrides.map (·.key)

/-- The edit makes an override row of the record for the model. -/
def Makes (k mid : ℕ) (c : Config) : Edit → Prop
  | .createOverrides rows => (k, mid) ∈ rows.map (·.key)
  | .writeOverrides keys vals =>
    ∃ o ∈ c.registry.overrides, o.key ∈ keys ∧ (vals.apply o).key = (k, mid)
  | _ => False

/-- The edit synchronises the record while its module has the model. -/
def Resyncs (k mid : ℕ) (c : Config) : Edit → Prop
  | .actionSyncModels ids => k ∈ ids ∧ ∃ rec ∈ c.registry.modules, rec.id = k ∧
      mid ∈ moduleModelIds c.registry.models rec.moduleName
  | .write ids vals => k ∈ ids ∧ ∃ name, vals.moduleName = some name ∧
      mid ∈ moduleModelIds c.registry.models name
  | _ => False

section Absent

variable {k mid : ℕ} {c : Config} {models : List IrModel} {overrides : List ModelAccess}

lemma Absent.mono {overrides' : List ModelAccess} (h : Absent k mid overrides)
    (hs : ∀ o ∈ overrides', o ∈ overrides) : Absent k mid overrides' := by
  intro hm
  obtain ⟨o, ho, hk⟩ := List.mem_map.1 hm
  exact h (List.mem_map.2 ⟨o, hs o ho, hk⟩)

/-- A synchronisation of another record, or of a module without the model, makes no such row. -/
lemma absent_sync (h : Absent k mid overrides) {rec : ModuleAccess}
    (hrec : rec.id = k → mid ∉ moduleModelIds models rec.moduleName) :
    Absent k mid (syncModelAccessIds models overrides rec) := by
  intro hm
  unfold syncModelAccessIds at hm
  rw [List.map_append] at hm
  rcases List.mem_append.1 hm with hm | hm
  · exact h.mono (fun o ho => List.mem_of_mem_filter ho) hm
  · obtain ⟨o, ho, hk⟩ := List.mem_map.1 hm
    obtain ⟨i, hi, rfl⟩ := List.mem_map.1 ho
    have hk' : (rec.id, i) = (k, mid) := hk
    obtain ⟨hid, rfl⟩ := Prod.mk.inj hk'
    exact hrec hid (List.mem_of_mem_filter hi)

lemma absent_syncs {recs : List ModuleAccess} (h : Absent k mid overrides)
    (hrecs : ∀ rec ∈ recs, rec.id = k → mid ∉ moduleModelIds models rec.moduleName) :
    Absent k mid (recs.foldl (syncModelAccessIds models) overrides) := by
  induction recs generalizing overrides with
  | nil => exact h
  | cons rec recs ih =>
    exact ih (absent_sync h (hrecs rec List.mem_cons_self))
      fun rec' hr => hrecs rec' (List.mem_cons_of_mem _ hr)

/-- The row is absent, and the id of the record has been given out. -/
def Removed (k mid : ℕ) (c : Config) : Prop := Absent k mid c.registry.overrides ∧ k < c.nextId

lemma removed_commit (h : Removed k mid c) {modules : List ModuleAccess} {nextId : ℕ}
    (ho : Absent k mid overrides) (hn : c.nextId ≤ nextId) :
    Removed k mid (commit c modules overrides nextId) := by
  rcases commit_cases c modules overrides nextId with he | ⟨-, he⟩
  · rw [he]
    exact h
  · rw [he]
    exact ⟨ho, h.2.trans_le hn⟩

/-- Records are made with rows of their own. -/
lemma removed_create (h : Removed k mid c) (modules : List ModuleAccess) (vals : List NewModule) :
    Removed k mid (createModules c modules vals) := by
  have hk := h.2
  refine removed_commit h (absent_syncs (fun hm => ?_) fun rec hrec hid => ?_) (Nat.le_add_right _ _)
  · rw [List.map_append] at hm
    rcases List.mem_append.1 hm with hm | hm
    · exact h.1 hm
    · obtain ⟨o, ho, he⟩ := List.mem_map.1 hm
      have hle := mem_newRows ho
      have hid : o.moduleAccessId = k := (Prod.mk.inj he).1
      omega
  · have hle := (mem_newRecords hrec).1
    omega

/-- **A row that is absent stays absent**, unless it is made, or its record is synchronised while the module
has the model. -/
theorem absent_step (h : Removed k mid c) {e : Edit} (hm : ¬ Makes k mid c e) (hs : ¬ Resyncs k mid c e) :
    Removed k mid (edit c e) := by
  cases e with
  | create vals => exact removed_create h _ vals
  | write ids vals =>
    refine removed_commit h ?_ le_rfl
    split_ifs with hname
    · refine absent_syncs h.1 fun rec hrec hid hmid => hs ?_
      obtain ⟨hrec, hids⟩ := List.mem_filter.1 hrec
      obtain ⟨name, hn⟩ := Option.isSome_iff_exists.1 hname
      have hids' : rec.id ∈ ids := of_decide_eq_true hids
      obtain ⟨rec₀, -, rfl⟩ := mem_updateWhere.1 hrec
      have hrec₀ : (if decide (rec₀.id ∈ ids) = true then vals.apply rec₀ else rec₀) = vals.apply rec₀ := by
        refine if_pos (decide_eq_true ?_)
        split_ifs at hids' with hi
        · exact of_decide_eq_true hi
        · exact hids'
      rw [hrec₀] at hid hmid hids'
      refine ⟨hid ▸ hids', name, hn, ?_⟩
      have hname' : (vals.apply rec₀).moduleName = name := by
        unfold ModuleVals.apply
        rw [hn]
        rfl
      rw [← hname']
      exact hmid
    · exact h.1
  | unlink ids => exact removed_commit h (h.1.mono fun o ho => List.mem_of_mem_filter ho) le_rfl
  | actionSyncModels ids =>
    refine removed_commit h (absent_syncs h.1 fun rec hrec hid hmid => hs ?_) le_rfl
    obtain ⟨hrec, hids⟩ := List.mem_filter.1 hrec
    exact ⟨hid ▸ of_decide_eq_true hids, rec, hrec, hid, hmid⟩
  | actionConfirm modules flags => exact removed_create h _ _
  | createOverrides rows =>
    refine removed_commit h (fun hmem => ?_) le_rfl
    rw [List.map_append] at hmem
    rcases List.mem_append.1 hmem with hmem | hmem
    · exact h.1 hmem
    · exact hm hmem
  | writeOverrides keys vals =>
    refine removed_commit h (fun hmem => ?_) le_rfl
    obtain ⟨o, ho, hk⟩ := List.mem_map.1 hmem
    obtain ⟨o₀, h0, rfl⟩ := mem_updateWhere.1 ho
    split_ifs at hk with hsel
    · exact hm ⟨o₀, h0, of_decide_eq_true hsel, hk⟩
    · exact h.1 (List.mem_map.2 ⟨o₀, h0, hk⟩)
  | unlinkOverrides keys =>
    exact removed_commit h (h.1.mono fun o ho => List.mem_of_mem_filter ho) le_rfl
  | upgrade db => exact ⟨h.1.mono fun o ho => List.mem_of_mem_filter ho, h.2⟩

end Absent

/-! ### What a record grants -/

/-- The record and its override row for the model both have the flag. -/
def recordGrants (r : Registry) (flag : Flags → Bool) (modelName : String) (rec : ModuleAccess) : Bool :=
  flag rec.flags && (getModelOverride r rec (modelIr r modelName)).any fun o => flag o.flags

/-- The lookups ask whether some active record of a module of the model grants it. -/
lemma flagEnabled_eq (r : Registry) (flag : Flags → Bool) (modelName : String) :
    flagEnabled r flag modelName = (findEnabledModules r modelName).any (recordGrants r flag modelName) := rfl

/-- Without an override row a record grants nothing. -/
lemma recordGrants_of_absent {r : Registry} {rec : ModuleAccess} {modelName : String} {m : IrModel}
    (h : Absent rec.id m.id r.overrides) (hm : modelIr r modelName = some m) (flag : Flags → Bool) :
    recordGrants r flag modelName rec = false := by
  have hnone : getModelOverride r rec (some m) = none := by
    refine List.find?_eq_none.2 fun o ho hp => h ?_
    simp only [Bool.and_eq_true, decide_eq_true_eq] at hp
    exact List.mem_map.2 ⟨o, ho, Prod.ext hp.1 hp.2⟩
  unfold recordGrants
  rw [hm, hnone, Option.any_none, Bool.and_false]

/-- **A model that was removed stays closed**, along every run: once the override row of a model under a
module record is deleted, the record grants nothing on the model, in every state that is reached by edits
that neither make such a row nor synchronise the record while its module has the model. -/
theorem removed_grants_nothing {c c' : Config} {k mid : ℕ} {keys : List (ℕ × ℕ)} {es : List Edit}
    (hr : admin.Reachable c) (hk : k ∈ c.registry.modules.map (·.id)) (hkeys : (k, mid) ∈ keys)
    (hrun : admin.RunBy (fun c e => ¬ Makes k mid c e ∧ ¬ Resyncs k mid c e)
      (edit c (.unlinkOverrides keys)) es c') :
    ∀ rec m modelName flag, rec.id = k → m.id = mid → modelIr c'.registry modelName = some m →
      recordGrants c'.registry flag modelName rec = false := by
  intro rec m modelName flag hid hmid hm
  obtain ⟨rec₀, h0, rfl⟩ := List.mem_map.1 hk
  have hstart : Removed rec₀.id mid (edit c (.unlinkOverrides keys)) := by
    have hcons := reachable_consistent hr
    have hnew : Consistent { c.registry with
        overrides := c.registry.overrides.filter (·.key ∉ keys) } := by
      refine ⟨hcons.modules, (List.filter_sublist.map _).nodup hcons.overrides, ?_, ?_⟩
      · exact fun o ho => hcons.records o (List.mem_of_mem_filter ho)
      · exact fun o ho => hcons.models o (List.mem_of_mem_filter ho)
    have hedit : edit c (.unlinkOverrides keys) =
        ⟨{ c.registry with overrides := c.registry.overrides.filter (·.key ∉ keys) }, c.nextId⟩ := if_pos hnew
    rw [hedit]
    refine ⟨fun hmem => ?_, reachable_idsBelow hr rec₀ h0⟩
    obtain ⟨o, ho, he⟩ := List.mem_map.1 hmem
    have hnot : o.key ∉ keys := of_decide_eq_true (List.mem_filter.1 ho).2
    exact hnot (he ▸ hkeys)
  have hend : Removed rec₀.id mid c' := by
    refine hrun.stable (I := Removed rec₀.id mid) ?_ (hr.step rfl) hstart
    rintro c e c' - h ⟨hmk, hsy⟩ rfl
    exact absent_step h hmk hsy
  subst hmid
  refine recordGrants_of_absent ?_ hm flag
  rw [hid]
  exact hend.1

/-! ### Contacts under Sales -/

/-- Sales extends contacts, and nothing is configured. -/
def saleDatabase : Config where
  registry :=
    { enabled := true
      modules := []
      overrides := []
      models := [⟨10, "sale.order", "Sales Order", "sale", false⟩,
        ⟨11, "res.partner", "Contact", "base, contacts, sale", false⟩]
      models_unique := by decide
      models_named := by decide }
  nextId := 1

/-- Sales is opened for reading, with a row for each of its models. -/
def saleConfig : Config := edit saleDatabase (.create [⟨"sale", true, ⟨true, false, false, false, false⟩, []⟩])

lemma saleConfig_reachable : admin.Reachable saleConfig := .step (.init ⟨rfl, rfl⟩) rfl

/-- The row of contacts is deleted; Sales is archived and opened again in the picker, for all operations. -/
def repickedConfig : Config :=
  edit (edit (edit saleConfig (.unlinkOverrides [(1, 11)]))
    (.write [1] ⟨none, some false, none, none, none, none, none⟩)) (.actionConfirm ["sale"] defaultFlags)

/-- Sales allows all operations again, and none on contacts. -/
theorem removed_grants_nothing_partner : ∃ rec ∈ repickedConfig.registry.modules, rec.id = 1 ∧
    rec.flags = defaultFlags ∧ recordGrants repickedConfig.registry (·.allowRead) "res.partner" rec = false := by
  have hrun : admin.RunBy (fun c e => ¬ Makes 1 11 c e ∧ ¬ Resyncs 1 11 c e)
      (edit saleConfig (.unlinkOverrides [(1, 11)]))
      [.write [1] ⟨none, some false, none, none, none, none, none⟩, .actionConfirm ["sale"] defaultFlags]
      repickedConfig :=
    .cons ⟨id, fun ⟨_, _, h, _⟩ => by cases h⟩ rfl (.cons ⟨id, id⟩ rfl (.nil _))
  have hmodules : repickedConfig.registry.modules = [⟨1, "sale", true, defaultFlags⟩] := rfl
  rw [hmodules]
  exact ⟨_, List.mem_singleton_self _, rfl, rfl, removed_grants_nothing saleConfig_reachable (by decide)
    (by decide) hrun _ ⟨11, "res.partner", "Contact", "base, contacts, sale", false⟩ "res.partner" _ rfl rfl rfl⟩

/-- The row of contacts is deleted, so contacts are closed; "Sync Models" makes the row again, and contacts are
open for reading. -/
theorem sync_reopens : admin.Reachable saleConfig ∧
    flagEnabled (edit saleConfig (.unlinkOverrides [(1, 11)])).registry (·.allowRead) "res.partner" = false ∧
    (∃ rec ∈ (edit (edit saleConfig (.unlinkOverrides [(1, 11)])) (.actionSyncModels [1])).registry.modules,
      rec.id = 1 ∧ recordGrants (edit (edit saleConfig (.unlinkOverrides [(1, 11)]))
        (.actionSyncModels [1])).registry (·.allowRead) "res.partner" rec = true) ∧
    flagEnabled (edit (edit saleConfig (.unlinkOverrides [(1, 11)])) (.actionSyncModels [1])).registry
      (·.allowRead) "res.partner" = true := by
  refine ⟨saleConfig_reachable, by decide, ?_, by decide⟩
  have hmodules : (edit (edit saleConfig (.unlinkOverrides [(1, 11)])) (.actionSyncModels [1])).registry.modules =
      [⟨1, "sale", true, ⟨true, false, false, false, false⟩⟩] := rfl
  rw [hmodules]
  exact ⟨_, List.mem_singleton_self _, rfl, by decide⟩

end AdvMcp.Access
