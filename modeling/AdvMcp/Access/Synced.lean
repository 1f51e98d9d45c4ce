import AdvMcp.Access.Sync
import AdvMcp.Lib.Reconcile

/-!
# What a synchronisation does to the override rows

`_sync_model_access_ids` meets the demand of one module record: a row for each model of its module, and
none for another model.  The operations that synchronise meet the demands of their records one after
the other.

* `demandOf`, `syncModelAccessIds_eq` — the synchronisation as a reconciliation;
* `Synced` — what it leaves, removes and makes; `synced_foldl`;
* `Synchronisation`, `triggered` — the operations that synchronise, with the records and the rows as `super()`
  leaves them;
* `triggered_synced` — what they commit is what the synchronisation makes.
-/

namespace AdvMcp.Access

open AdvMcp.Lib

/-! ### Demands -/

/-- The rows that a module record should have. -/
def demandOf (models : List IrModel) (rec : ModuleAccess) : Demand (ℕ × ℕ) where
  scope k := k.1 = rec.id
  want := (moduleModelIds models rec.moduleName).map fun mid => (rec.id, mid)
  inScope k hk := by
    obtain ⟨mid, -, rfl⟩ := List.mem_map.1 hk
    exact decide_eq_true rfl

/-- The row that a synchronisation makes. -/
def newRow (k : ℕ × ℕ) : ModelAccess := ⟨k.1, k.2, defaultFlags⟩

variable {models : List IrModel} {rows : List ModelAccess} {recs : List ModuleAccess} {rec : ModuleAccess}

@[simp] lemma newRow_key (k : ℕ × ℕ) : (newRow k).key = k := rfl

lemma mem_demandOf {k : ℕ × ℕ} : k ∈ (demandOf models rec).want ↔
    k.1 = rec.id ∧ k.2 ∈ moduleModelIds models rec.moduleName := by
  unfold demandOf
  rw [List.mem_map]
  constructor
  · rintro ⟨mid, hmid, rfl⟩
    exact ⟨rfl, hmid⟩
  · rintro ⟨hid, hmid⟩
    exact ⟨k.2, hmid, Prod.ext hid.symm rfl⟩

lemma scope_demandOf {k : ℕ × ℕ} : (demandOf models rec).scope k = true ↔ k.1 = rec.id := decide_eq_true_iff

lemma moduleModelIds_nodup (hmodels : (models.map (·.id)).Nodup) (name : String) :
    (moduleModelIds models name).Nodup := by
  unfold moduleModelIds
  split_ifs
  · exact List.nodup_nil
  · exact ((List.filter_sublist.trans List.filter_sublist).map _).nodup hmodels

lemma demandOf_nodup (hmodels : (models.map (·.id)).Nodup) (rec : ModuleAccess) :
    (demandOf models rec).want.Nodup :=
  (moduleModelIds_nodup hmodels _).map fun _ _ h => (Prod.mk.inj h).2

/-- The models with a row, and the rows of the record. -/
lemma mem_existingIds {mid : ℕ} :
    mid ∈ (rows.filter (·.moduleAccessId = rec.id)).map (·.modelId) ↔ (rec.id, mid) ∈ rows.map (·.key) := by
  rw [List.mem_map, List.mem_map]
  constructor
  · rintro ⟨o, ho, rfl⟩
    obtain ⟨ho, hid⟩ := List.mem_filter.1 ho
    exact ⟨o, ho, Prod.ext (of_decide_eq_true hid) rfl⟩
  · rintro ⟨o, ho, hk⟩
    obtain ⟨hid, hmid⟩ := Prod.mk.inj hk
    exact ⟨o, List.mem_filter.2 ⟨ho, decide_eq_true hid⟩, hmid⟩

/-- **A synchronisation meets the demand of its record.** -/
theorem syncModelAccessIds_eq (models : List IrModel) (rows : List ModelAccess) (rec : ModuleAccess) :
    syncModelAccessIds models rows rec = reconcile ModelAccess.key newRow rows (demandOf models rec) := by
  have hremove : ∀ o ∈ rows, (o.moduleAccessId = rec.id ∧
      o.modelId ∈ ((rows.filter (·.moduleAccessId = rec.id)).map (·.modelId)).filter
        (· ∉ moduleModelIds models rec.moduleName)) ↔
      (demandOf models rec).scope o.key = true ∧ o.key ∉ (demandOf models rec).want := by
    intro o ho
    rw [scope_demandOf, mem_demandOf, List.mem_filter, decide_eq_true_iff]
    refine and_congr_right fun hid => ?_
    have hex : o.modelId ∈ (rows.filter (·.moduleAccessId = rec.id)).map (·.modelId) :=
      mem_existingIds.2 (List.mem_map.2 ⟨o, ho, Prod.ext hid rfl⟩)
    exact ⟨fun h hk => h.2 hk.2, fun h => ⟨hex, fun hm => h ⟨hid, hm⟩⟩⟩
  have hadd : ∀ mid, mid ∉ (rows.filter (·.moduleAccessId = rec.id)).map (·.modelId) ↔
      (rec.id, mid) ∉ rows.map ModelAccess.key := fun mid => not_congr mem_existingIds
  unfold syncModelAccessIds reconcile
  refine congrArg₂ (· ++ ·) (List.filter_congr fun o ho => ?_) ?_
  · rw [Bool.eq_iff_iff, Bool.not_eq_true', Bool.not_eq_true', Bool.and_eq_false_iff, Bool.and_eq_false_iff,
      decide_eq_false_iff_not, decide_eq_false_iff_not, decide_eq_false_iff_not, ← not_and_or, hremove o ho,
      not_and_or, Bool.not_eq_true]
  · rw [demandOf, List.filter_map, List.map_map]
    refine congrArg (List.map _) (List.filter_congr fun mid _ => ?_)
    rw [Bool.eq_iff_iff]
    simp only [Function.comp_apply, decide_eq_true_eq]
    exact hadd mid

lemma foldl_sync_eq (models : List IrModel) (recs : List ModuleAccess) (rows : List ModelAccess) :
    recs.foldl (syncModelAccessIds models) rows =
      (recs.map (demandOf models)).foldl (reconcile ModelAccess.key newRow) rows := by
  induction recs generalizing rows with
  | nil => rfl
  | cons rec recs ih =>
    rw [List.foldl_cons, List.map_cons, List.foldl_cons, syncModelAccessIds_eq]
    exact ih _

/-- The demands of records with distinct ids speak for different rows. -/
lemma demands_agree (hrecs : ∀ rec ∈ recs, ∀ rec' ∈ recs, rec.id = rec'.id → rec = rec') :
    ∀ d ∈ recs.map (demandOf models), ∀ e ∈ recs.map (demandOf models), d.Agree e := by
  intro d hd e he k hdk hek
  obtain ⟨rec, hrec, rfl⟩ := List.mem_map.1 hd
  obtain ⟨rec', hrec', rfl⟩ := List.mem_map.1 he
  have hid : rec.id = rec'.id := (scope_demandOf.1 hdk).symm.trans (scope_demandOf.1 hek)
  rw [hrecs rec hrec rec' hrec' hid]

/-! ### The rows after a synchronisation -/

/-- `after` are the rows once the records `recs` have been synchronised. -/
structure Synced (models : List IrModel) (recs : List ModuleAccess) (before after : List ModelAccess) :
    Prop where
  /-- The rows of models that are no longer in the module are removed, and no others. -/
  removed : ∀ o ∈ before, o ∉ after ↔
    ∃ rec ∈ recs, o.moduleAccessId = rec.id ∧ o.modelId ∉ moduleModelIds models rec.moduleName
  /-- A row with the record and the model of an old row is that row, with all its flags. -/
  kept : ∀ o ∈ before, ∀ o' ∈ after, o'.key = o.key → o' = o
  /-- A new row is one for a model of the module, with the default flags. -/
  added : ∀ o ∈ after, o ∉ before → o.flags = defaultFlags ∧
    ∃ rec ∈ recs, o.moduleAccessId = rec.id ∧ o.modelId ∈ moduleModelIds models rec.moduleName
  /-- Every model of the module has a row. -/
  covered : ∀ rec ∈ recs, ∀ mid ∈ moduleModelIds models rec.moduleName, (rec.id, mid) ∈ after.map (·.key)
  /-- No model has a second row. -/
  unique : (after.map (·.key)).Nodup
  /-- The rows of other records are the same, in the same order. -/
  others : after.filter (fun o => o.moduleAccessId ∉ recs.map (·.id)) =
    before.filter fun o => o.moduleAccessId ∉ recs.map (·.id)
  /-- Synchronising again changes nothing. -/
  again : recs.foldl (syncModelAccessIds models) after = after

/-- **The synchronisation of any records**, one after the other. -/
theorem synced_foldl (hmodels : (models.map (·.id)).Nodup) (hrows : (rows.map (·.key)).Nodup)
    (hrecs : ∀ rec ∈ recs, ∀ rec' ∈ recs, rec.id = rec'.id → rec = rec') :
    Synced models recs rows (recs.foldl (syncModelAccessIds models) rows) := by
  have hagree : ∀ d ∈ recs.map (demandOf models), ∀ e ∈ recs.map (demandOf models), d.Agree e :=
    demands_agree hrecs
  have hmem (o : ModelAccess) :
      o ∈ (recs.map (demandOf models)).foldl (reconcile ModelAccess.key newRow) rows ↔ _ :=
    mem_foldl_reconcile newRow_key hagree
  rw [foldl_sync_eq]
  refine ⟨fun o ho => ⟨fun hno => ?_, ?_⟩, ?_, fun o ho hnew => ?_, fun rec hrec mid hmid => ?_, ?_, ?_, ?_⟩
  · by_contra hnone
    push Not at hnone
    refine hno ((hmem o).2 (Or.inl ⟨ho, fun d hd hscope => ?_⟩))
    obtain ⟨rec, hrec, rfl⟩ := List.mem_map.1 hd
    have hid : o.moduleAccessId = rec.id := scope_demandOf.1 hscope
    exact mem_demandOf.2 ⟨hid, hnone rec hrec hid⟩
  · rintro ⟨rec, hrec, hid, hmid⟩ ha
    rcases (hmem o).1 ha with ⟨-, h⟩ | ⟨d, -, k, -, hnew, rfl⟩
    · exact hmid (mem_demandOf.1 (h _ (List.mem_map_of_mem hrec) (scope_demandOf.2 hid))).2
    · exact hnew (List.mem_map_of_mem ho)
  · exact fun o ho o' ho' hk => same_of_key newRow_key hagree hrows ho ho' hk
  · rcases (hmem o).1 ho with ⟨h, -⟩ | ⟨d, hd, k, hk, -, rfl⟩
    · exact absurd h hnew
    · obtain ⟨rec, hrec, rfl⟩ := List.mem_map.1 hd
      obtain ⟨hid, hmid⟩ := mem_demandOf.1 hk
      exact ⟨rfl, rec, hrec, hid, hmid⟩
  · refine (inLine_foldl newRow_key hagree (List.mem_map_of_mem hrec)).1 _ ?_
    exact mem_demandOf.2 ⟨rfl, hmid⟩
  · refine foldl_reconcile_nodup newRow_key hrows fun d hd => ?_
    obtain ⟨rec, -, rfl⟩ := List.mem_map.1 hd
    exact demandOf_nodup hmodels rec
  · let other (k : ℕ × ℕ) : Bool := k.1 ∉ recs.map (·.id)
    have hother : ∀ d ∈ recs.map (demandOf models), ∀ k, other k = true → d.scope k = false := by
      intro d hd k hk
      obtain ⟨rec, hrec, rfl⟩ := List.mem_map.1 hd
      refine Bool.eq_false_iff.2 fun hscope => of_decide_eq_true hk ?_
      rw [scope_demandOf.1 hscope]
      exact List.mem_map_of_mem hrec
    exact foldl_reconcile_outside newRow_key hother
  · rw [foldl_sync_eq]
    exact foldl_reconcile_again newRow_key hagree

/-! ### The operations that synchronise -/

/-- A synchronisation as an operation triggers it: the tables as `super()` has left them, and the records
that are synchronised. -/
structure Synchronisation where
  modules : List ModuleAccess
  recs : List ModuleAccess
  rows : List ModelAccess
  nextId : ℕ

def triggeredCreate (c : Config) (modules : List ModuleAccess) (vals : List NewModule) : Synchronisation where
  modules := modules ++ newRecords c.nextId vals
  recs := newRecords c.nextId vals
  rows := c.registry.overrides ++ newRows c.nextId vals
  nextId := c.nextId + vals.length

/-- What `create`, `write` of `module_id`, `action_sync_models` and the module picker trigger. -/
def triggered (c : Config) : Edit → Option Synchronisation
  | .create vals => some (triggeredCreate c c.registry.modules vals)
  | .write ids vals =>
    if vals.moduleName.isSome then
      let modules := updateWhere (·.id ∈ ids) vals.apply c.registry.modules
      some ⟨modules, modules.filter (·.id ∈ ids), c.registry.overrides, c.nextId⟩
    else none
  | .actionSyncModels ids =>
    some ⟨c.registry.modules, c.registry.modules.filter (·.id ∈ ids), c.registry.overrides, c.nextId⟩
  | .actionConfirm modules flags =>
    some (triggeredCreate c
      (updateWhere (fun rec => rec.moduleName ∈ modules && !rec.active)
        (fun rec => { rec with flags := flags, active := true }) c.registry.modules)
      ((modules.filter (· ∉ c.registry.modules.map (·.moduleName))).map fun m => ⟨m, true, flags, []⟩))
  | _ => none

variable {c : Config} {e : Edit} {s : Synchronisation}

lemma edit_triggered (h : triggered c e = some s) :
    edit c e = commit c s.modules (s.recs.foldl (syncModelAccessIds c.registry.models) s.rows) s.nextId := by
  cases e with
  | create vals =>
    cases h
    rfl
  | write ids vals =>
    simp only [triggered] at h
    split_ifs at h with hname
    cases h
    simp only [edit, writeModules, if_pos hname]
  | actionSyncModels ids =>
    cases h
    rfl
  | actionConfirm modules flags =>
    cases h
    rfl
  | unlink ids => cases h
  | createOverrides rows => cases h
  | writeOverrides keys vals => cases h
  | unlinkOverrides keys => cases h
  | upgrade db => cases h

lemma recs_subset (h : triggered c e = some s) : ∀ rec ∈ s.recs, rec ∈ s.modules := by
  intro rec hrec
  cases e with
  | create vals =>
    cases h
    exact List.mem_append_right _ hrec
  | write ids vals =>
    simp only [triggered] at h
    split_ifs at h with hname
    cases h
    exact List.mem_of_mem_filter hrec
  | actionSyncModels ids =>
    cases h
    exact List.mem_of_mem_filter hrec
  | actionConfirm modules flags =>
    cases h
    exact List.mem_append_right _ hrec
  | unlink ids => cases h
  | createOverrides rows => cases h
  | writeOverrides keys vals => cases h
  | unlinkOverrides keys => cases h
  | upgrade db => cases h

lemma moduleModelIds_subset {name : String} {mid : ℕ} (h : mid ∈ moduleModelIds models name) :
    mid ∈ models.map (·.id) := by
  unfold moduleModelIds at h
  split_ifs at h
  · cases h
  · obtain ⟨m, hm, rfl⟩ := List.mem_map.1 h
    exact List.mem_map_of_mem (List.mem_of_mem_filter (List.mem_of_mem_filter hm))

/-- A synchronisation of records of the table breaks no constraint. -/
lemma Synced.consistent {r : Registry} {after : List ModelAccess} (hr : Consistent r)
    (hrecs : ∀ rec ∈ recs, rec ∈ r.modules) (h : Synced r.models recs r.overrides after) :
    Consistent { r with overrides := after } := by
  refine ⟨hr.modules, h.unique, fun o ho => ?_, fun o ho => ?_⟩
  · by_cases hold : o ∈ r.overrides
    · exact hr.records o hold
    · obtain ⟨-, rec, hrec, hid, -⟩ := h.added o ho hold
      exact List.mem_map.2 ⟨rec, hrecs rec hrec, hid.symm⟩
  · by_cases hold : o ∈ r.overrides
    · exact hr.models o hold
    · obtain ⟨-, rec, -, -, hmid⟩ := h.added o ho hold
      exact moduleModelIds_subset hmid

/-- **What an operation commits**: if `super()` breaks no constraint then the operation goes through, and
its records are synchronised. -/
theorem triggered_synced (h : triggered c e = some s) (hmodels : (c.registry.models.map (·.id)).Nodup)
    (hids : (s.modules.map (·.id)).Nodup)
    (hok : Consistent { c.registry with modules := s.modules, overrides := s.rows }) :
    (edit c e).registry.modules = s.modules ∧
      Synced c.registry.models s.recs s.rows (edit c e).registry.overrides := by
  have hrecs : ∀ rec ∈ s.recs, ∀ rec' ∈ s.recs, rec.id = rec'.id → rec = rec' := fun rec hrec rec' hrec' =>
    List.inj_on_of_nodup_map hids (recs_subset h rec hrec) (recs_subset h rec' hrec')
  have hsync := synced_foldl hmodels hok.overrides hrecs
  have hcons := hsync.consistent hok (recs_subset h)
  have hcommit : edit c e = ⟨{ c.registry with
      modules := s.modules
      overrides := s.recs.foldl (syncModelAccessIds c.registry.models) s.rows }, s.nextId⟩ := by
    rw [edit_triggered h]
    exact if_pos hcons
  rw [hcommit]
  exact ⟨rfl, hsync⟩

/-! ### Along the runs -/

lemma newRecords_ids (nextId : ℕ) (vals : List NewModule) :
    (newRecords nextId vals).map (·.id) = (List.range vals.length).map (nextId + ·) := by
  refine List.ext_getElem (by simp [newRecords]) fun i h1 h2 => ?_
  simp [newRecords]

/-- New records get ids of their own. -/
lemma append_newRecords_ids {modules : List ModuleAccess} {nextId : ℕ} (h : (modules.map (·.id)).Nodup)
    (hlt : ∀ rec ∈ modules, rec.id < nextId) (vals : List NewModule) :
    ((modules ++ newRecords nextId vals).map (·.id)).Nodup := by
  rw [List.map_append, newRecords_ids]
  refine h.append (List.nodup_range.map fun a b hab => Nat.add_left_cancel hab) fun k hk hk' => ?_
  obtain ⟨rec, hrec, rfl⟩ := List.mem_map.1 hk
  obtain ⟨i, -, hi⟩ := List.mem_map.1 hk'
  have hlt := hlt rec hrec
  omega

lemma updated_ids {modules : List ModuleAccess} (h : (modules.map (·.id)).Nodup) {p : ModuleAccess → Bool}
    {f : ModuleAccess → ModuleAccess} (hf : ∀ rec, (f rec).id = rec.id) :
    ((updateWhere p f modules).map (·.id)).Nodup := by
  have hids : (updateWhere p f modules).map (·.id) = modules.map (·.id) := map_updateWhere ModuleAccess.id hf
  rw [hids]
  exact h

lemma ids_commit {modules : List ModuleAccess} {overrides : List ModelAccess} {nextId : ℕ}
    (h : (c.registry.modules.map (·.id)).Nodup) (hm : (modules.map (·.id)).Nodup) :
    ((commit c modules overrides nextId).registry.modules.map (·.id)).Nodup := by
  rcases commit_cases c modules overrides nextId with he | ⟨-, he⟩
  · rw [he]
    exact h
  · rw [he]
    exact hm

/-- The ids of the records, as `super()` has left them. -/
lemma triggered_ids (h : triggered c e = some s) (hids : (c.registry.modules.map (·.id)).Nodup)
    (hlt : IdsBelow c) : (s.modules.map (·.id)).Nodup := by
  cases e with
  | create vals =>
    cases h
    exact append_newRecords_ids hids hlt vals
  | write ids vals =>
    simp only [triggered] at h
    split_ifs at h with hname
    cases h
    exact updated_ids hids fun _ => rfl
  | actionSyncModels ids =>
    cases h
    exact hids
  | actionConfirm modules flags =>
    cases h
    let reactivate (rec : ModuleAccess) : ModuleAccess := { rec with flags := flags, active := true }
    have hid : ∀ rec, (reactivate rec).id = rec.id := fun _ => rfl
    exact append_newRecords_ids (updated_ids hids hid) (idsBelow_update hlt hid) _
  | unlink ids => cases h
  | createOverrides rows => cases h
  | writeOverrides keys vals => cases h
  | unlinkOverrides keys => cases h
  | upgrade db => cases h

lemma ids_edit (h : (c.registry.modules.map (·.id)).Nodup) (hlt : IdsBelow c) (e : Edit) :
    ((edit c e).registry.modules.map (·.id)).Nodup := by
  cases hs : triggered c e with
  | some s =>
    rw [edit_triggered hs]
    exact ids_commit h (triggered_ids hs h hlt)
  | none =>
    cases e with
    | create vals => cases hs
    | write ids vals =>
      exact ids_commit h (updated_ids h fun _ => rfl)
    | actionSyncModels ids => cases hs
    | actionConfirm modules flags => cases hs
    | unlink ids => exact ids_commit h ((List.filter_sublist.map _).nodup h)
    | createOverrides rows => exact ids_commit h h
    | writeOverrides keys vals => exact ids_commit h h
    | unlinkOverrides keys => exact ids_commit h h
    | upgrade db => exact h

theorem reachable_ids (hr : admin.Reachable c) : (c.registry.modules.map (·.id)).Nodup := by
  refine (hr.inv (I := fun c => (c.registry.modules.map (·.id)).Nodup ∧ IdsBelow c) (fun c h0 => ?_) ?_).1
  · obtain ⟨hm, -⟩ := h0
    refine ⟨by simp [hm], fun rec hrec => ?_⟩
    rw [hm] at hrec
    cases hrec
  · rintro c e c' - ⟨h1, h2⟩ rfl
    exact ⟨ids_edit h1 h2 e, idsBelow_edit h2 e⟩

/-- **Synchronising brings the rows in line and touches nothing else**: one record, or, in every state of
the configuration, the records of whatever operation synchronises. -/
theorem synchronisation_exact :
    (∀ models rows rec, (models.map IrModel.id).Nodup → (rows.map ModelAccess.key).Nodup →
      Synced models [rec] rows (syncModelAccessIds models rows rec)) ∧
    (∀ c e s, triggered c e = some s → (c.registry.models.map IrModel.id).Nodup →
      (s.modules.map ModuleAccess.id).Nodup →
      Consistent { c.registry with modules := s.modules, overrides := s.rows } →
      (edit c e).registry.modules = s.modules ∧
        Synced c.registry.models s.recs s.rows (edit c e).registry.overrides) ∧
    (∀ c e s, admin.Reachable c → triggered c e = some s → (s.modules.map ModuleAccess.id).Nodup) := by
  refine ⟨fun models rows rec hmodels hrows => ?_, fun c e s => triggered_synced, fun c e s hr h => ?_⟩
  · refine synced_foldl hmodels hrows fun r hr r' hr' _ => ?_
    rw [List.mem_singleton.1 hr, List.mem_singleton.1 hr']
  · exact triggered_ids h (reachable_ids hr) (reachable_idsBelow hr)

/-- Sales after its contacts row is deleted and "Sync Models" is pressed: the row of orders is the old one. -/
theorem synchronisation_exact_sale :
    (edit (edit saleConfig (.unlinkOverrides [(1, 11)])) (.actionSyncModels [1])).registry.modules =
        (edit saleConfig (.unlinkOverrides [(1, 11)])).registry.modules ∧
      Synced saleConfig.registry.models ((edit saleConfig (.unlinkOverrides [(1, 11)])).registry.modules.filter
          (·.id ∈ [1])) (edit saleConfig (.unlinkOverrides [(1, 11)])).registry.overrides
        (edit (edit saleConfig (.unlinkOverrides [(1, 11)])) (.actionSyncModels [1])).registry.overrides :=
  synchronisation_exact.2.1 (edit saleConfig (.unlinkOverrides [(1, 11)])) (.actionSyncModels [1]) _ rfl
    (by decide) (by decide) (by decide)

end AdvMcp.Access
