import AdvMcp.Access.Listing
import AdvMcp.Access.Sync
import Mathlib.Order.Lattice
import Mathlib.Logic.Relation

/-!
# Restricting edits

Configurations are ordered by how much they open, and the checks of `server/helpers.py` are monotone in this
order.

* `AtMost` — every record and row of one configuration is one of the other, with at most its flags;
* `Edit.Restrictive` — the edits that turn flags off, archive, or delete;
* `atMost_restricts` — a restricting edit leads down in the order;
* `openedBy_mono` — what one module record opens below in the order, one record opens above it;
* `verifyModelOperation_iff`, `verifyModelMethod_iff_openedBy` — the checks pass when the gateway is enabled
  and one record opens the model, with its flag and that of its own override row.
-/

namespace AdvMcp.Access

open AdvMcp.Lib AdvMcp.Py

/-! ### The order -/

/-- Flags are ordered one by one. -/
instance : Preorder Flags :=
  Preorder.lift fun f => (f.allowRead, f.allowCreate, f.allowWrite, f.allowUnlink, f.allowMethodCalls)

lemma Flags.allow_mono (op : Operation) : Monotone fun f : Flags => f.allow op := by
  intro f g h
  obtain ⟨h1, h2, h3, h4, -⟩ := h
  cases op with
  | read => exact h1
  | create => exact h2
  | write => exact h3
  | unlink => exact h4

lemma Flags.allowMethodCalls_mono : Monotone Flags.allowMethodCalls := fun _ _ h => h.2.2.2.2

/-- `r'` opens nothing that `r` does not open. -/
structure AtMost (r' r : Registry) : Prop where
  enabled : r'.enabled ≤ r.enabled
  models : r'.models = r.models
  modules : ∀ rec' ∈ r'.modules, rec'.active = true → ∃ rec ∈ r.modules, rec.active = true ∧
    rec.id = rec'.id ∧ rec.moduleName = rec'.moduleName ∧ rec'.flags ≤ rec.flags
  overrides : ∀ o' ∈ r'.overrides, ∃ o ∈ r.overrides, o.key = o'.key ∧ o'.flags ≤ o.flags

lemma AtMost.refl (r : Registry) : AtMost r r :=
  ⟨le_rfl, rfl, fun rec hrec ha => ⟨rec, hrec, ha, rfl, rfl, le_rfl⟩, fun o ho => ⟨o, ho, rfl, le_rfl⟩⟩

lemma AtMost.trans {r₁ r₂ r₃ : Registry} (h : AtMost r₁ r₂) (h' : AtMost r₂ r₃) : AtMost r₁ r₃ := by
  refine ⟨h.enabled.trans h'.enabled, h.models.trans h'.models, fun rec₁ hrec ha => ?_, fun o₁ ho => ?_⟩
  · obtain ⟨rec₂, hrec, ha, hid, hname, hle⟩ := h.modules rec₁ hrec ha
    obtain ⟨rec₃, hrec, ha, hid', hname', hle'⟩ := h'.modules rec₂ hrec ha
    exact ⟨rec₃, hrec, ha, hid'.trans hid, hname'.trans hname, hle.trans hle'⟩
  · obtain ⟨o₂, ho, hk, hle⟩ := h.overrides o₁ ho
    obtain ⟨o₃, ho, hk', hle'⟩ := h'.overrides o₂ ho
    exact ⟨o₃, ho, hk'.trans hk, hle.trans hle'⟩

/-! ### The edits -/

/-- No flag is turned on. -/
def FlagVals.Off (v : FlagVals) : Prop :=
  v.allowRead ≠ some true ∧ v.allowCreate ≠ some true ∧ v.allowWrite ≠ some true ∧
    v.allowUnlink ≠ some true ∧ v.allowMethodCalls ≠ some true

/-- The edits that only take away: flags are turned off, records are archived or deleted. -/
def Edit.Restrictive : Edit → Prop
  | .write _ vals => vals.moduleName = none ∧ vals.active ≠ some true ∧ vals.flags.Off
  | .unlink _ => True
  | .writeOverrides _ vals => vals.moduleAccessId = none ∧ vals.modelId = none ∧ vals.flags.Off
  | .unlinkOverrides _ => True
  | _ => False

/-- One restricting edit; the gateway is switched off on `adv.server.config`. -/
inductive Restricts : Config → Config → Prop
  | edit (c : Config) {e : Edit} : e.Restrictive → Restricts c (edit c e)
  | disable (c : Config) : Restricts c { c with registry := { c.registry with enabled := false } }

lemma getD_le {v : Option Bool} (h : v ≠ some true) (b : Bool) : v.getD b ≤ b := by
  cases v with
  | none => exact le_rfl
  | some v => cases v with
    | false => exact Bool.false_le b
    | true => exact absurd rfl h

lemma FlagVals.apply_le {v : FlagVals} (h : v.Off) (f : Flags) : v.apply f ≤ f := by
  obtain ⟨h1, h2, h3, h4, h5⟩ := h
  exact ⟨getD_le h1 _, getD_le h2 _, getD_le h3 _, getD_le h4 _, getD_le h5 _⟩

section Edits

variable {c c' : Config}

/-- An edit whose rows lie below leads down in the order, also when it is refused. -/
lemma atMost_commit {modules : List ModuleAccess} {overrides : List ModelAccess} {nextId : ℕ}
    (hm : ∀ rec' ∈ modules, rec'.active = true → ∃ rec ∈ c.registry.modules, rec.active = true ∧
      rec.id = rec'.id ∧ rec.moduleName = rec'.moduleName ∧ rec'.flags ≤ rec.flags)
    (ho : ∀ o' ∈ overrides, ∃ o ∈ c.registry.overrides, o.key = o'.key ∧ o'.flags ≤ o.flags) :
    AtMost (commit c modules overrides nextId).registry c.registry := by
  rcases commit_cases c modules overrides nextId with he | ⟨-, he⟩
  · rw [he]
    exact .refl _
  · rw [he]
    exact ⟨le_rfl, rfl, hm, ho⟩

lemma atMost_edit {e : Edit} (he : e.Restrictive) : AtMost (edit c e).registry c.registry := by
  have hself := AtMost.refl c.registry
  cases e with
  | write ids vals =>
    obtain ⟨hname, hactive, hoff⟩ := he
    refine atMost_commit (fun rec' hrec ha => ?_) ?_
    · obtain ⟨rec, hmem, rfl⟩ := mem_updateWhere.1 hrec
      split_ifs at ha ⊢ with hsel
      · refine ⟨rec, hmem, ?_, rfl, ?_, FlagVals.apply_le hoff _⟩
        · have hle : vals.active.getD rec.active ≤ rec.active := getD_le hactive _
          rw [show vals.active.getD rec.active = true from ha] at hle
          exact Bool.eq_true_of_true_le hle
        · simp [ModuleVals.apply, hname]
      · exact ⟨rec, hmem, ha, rfl, rfl, le_rfl⟩
    · rw [if_neg (by simp [hname])]
      exact hself.overrides
  | unlink ids =>
    exact atMost_commit (fun rec hrec => hself.modules rec (List.mem_of_mem_filter hrec))
      fun o ho => hself.overrides o (List.mem_of_mem_filter ho)
  | writeOverrides keys vals =>
    obtain ⟨hmodule, hmodel, hoff⟩ := he
    refine atMost_commit hself.modules fun o' ho => ?_
    obtain ⟨o, hmem, rfl⟩ := mem_updateWhere.1 ho
    split_ifs with hsel
    · refine ⟨o, hmem, ?_, FlagVals.apply_le hoff _⟩
      simp [ModelVals.apply, ModelAccess.key, hmodule, hmodel]
    · exact ⟨o, hmem, rfl, le_rfl⟩
  | unlinkOverrides keys =>
    exact atMost_commit hself.modules fun o ho => hself.overrides o (List.mem_of_mem_filter ho)
  | create _ | actionSyncModels _ | actionConfirm _ _ | createOverrides _ | upgrade _ => exact he.elim

/-- **Restricting edits lead down**, any number of them. -/
lemma atMost_restricts (h : Relation.ReflTransGen Restricts c c') : AtMost c'.registry c.registry := by
  induction h with
  | refl => exact .refl _
  | @tail c₁ _ _ hst ih =>
    refine AtMost.trans ?_ ih
    cases hst with
    | edit he => exact atMost_edit he
    | disable =>
      have hself := AtMost.refl c₁.registry
      exact ⟨Bool.false_le _, rfl, hself.modules, hself.overrides⟩

lemma consistent_restricts (hc : Consistent c.registry) (h : Relation.ReflTransGen Restricts c c') :
    Consistent c'.registry := by
  induction h with
  | refl => exact hc
  | tail _ hst ih =>
    cases hst with
    | edit _ => exact consistent_edit ih _
    | disable => exact ⟨ih.modules, ih.overrides, ih.records, ih.models⟩

end Edits

/-! ### One record that opens -/

/-- The record is active, covers the model and has the flag, and `o` is its own override row for the model, with
the flag. -/
structure OpensBy (r : Registry) (flag : Flags → Bool) (m : IrModel) (rec : ModuleAccess) (o : ModelAccess) :
    Prop where
  covers : Covers r m rec
  record : flag rec.flags = true
  row : o ∈ r.overrides
  own : o.key = (rec.id, m.id)
  override : flag o.flags = true

/-- One record opens the model that a name stands for. -/
def OpenedBy (r : Registry) (flag : Flags → Bool) (modelName : String) : Prop :=
  ∃ m ∈ r.models, sanitizeOrLog modelName = some m.model ∧ ∃ rec o, OpensBy r flag m rec o

section Opened

variable {r : Registry} {flag : Flags → Bool} {modelName : String}

/-- With unique override rows, the row that is found is the one that there is. -/
lemma grants_iff (hu : (r.overrides.map (·.key)).Nodup) {m : IrModel} {rec : ModuleAccess} :
    Grants r flag m rec ↔ ∃ o, OpensBy r flag m rec o := by
  constructor
  · rintro ⟨hc, hrec, o, ho, hf⟩
    have hown := List.find?_some ho
    simp only [Bool.and_eq_true, decide_eq_true_eq] at hown
    exact ⟨o, hc, hrec, List.mem_of_find?_eq_some ho, Prod.ext hown.1 hown.2, hf⟩
  · rintro ⟨o, hc, hrec, hmem, hkey, hf⟩
    refine ⟨hc, hrec, o, ?_, hf⟩
    obtain ⟨hid, hmid⟩ := Prod.mk.inj hkey
    refine (Apart.of_nodup hu).find?_eq_some hmem (by simp [hid, hmid]) fun b _ hb => ?_
    simp only [Bool.and_eq_true, decide_eq_true_eq] at hb
    exact (Prod.ext hb.1 hb.2 : b.key = (rec.id, m.id)).trans hkey.symm

/-- The lookup of a flag, for the names that are looked up. -/
lemma flagEnabled_iff_openedBy (hu : (r.overrides.map (·.key)).Nodup) {name : String}
    (hs : sanitizeOrLog modelName = some name) :
    flagEnabled r flag name = true ↔ OpenedBy r flag modelName := by
  rw [flagEnabled_iff]
  refine exists_congr fun m => and_congr_right fun _ => ?_
  rw [hs, Option.some.injEq, eq_comm]
  exact and_congr_right fun _ => exists_congr fun rec => grants_iff hu

/-- **The check of an operation**: one record opens the model for the operation. -/
lemma verifyModelOperation_iff (hu : (r.overrides.map (·.key)).Nodup) (lo : Lower) {operation : String} :
    verifyModelOperation r lo modelName operation = true ↔ r.enabled = true ∧
      ∃ op, Operation.ofName (lo.lower (strip operation)) = some op ∧ OpenedBy r (·.allow op) modelName := by
  unfold verifyModelOperation
  cases he : r.enabled with
  | false => simp
  | true =>
    cases hs : sanitizeOrLog modelName with
    | none => simp [OpenedBy, hs]
    | some name =>
      cases hop : Operation.ofName (lo.lower (strip operation)) with
      | none => simp
      | some op =>
        simp only [Bool.not_true, Bool.false_eq_true, if_false, true_and, Option.some.injEq,
          exists_eq_left', checkModelOperationEnabled, ← flagEnabled_iff_openedBy hu hs]
        constructor
        · intro h
          split_ifs at h
          exact h
        · intro h
          obtain ⟨m, hm, rfl, -⟩ := flagEnabled_iff.1 h
          rw [flagEnabled_accessible he hm h]
          exact h

/-- **The check of method calls**: one record opens the model for method calls. -/
lemma verifyModelMethod_iff_openedBy (hu : (r.overrides.map (·.key)).Nodup) :
    verifyModelMethod r modelName = true ↔ r.enabled = true ∧ OpenedBy r (·.allowMethodCalls) modelName := by
  rw [verifyModelMethod_iff]
  refine and_congr_right fun _ => exists_congr fun m => and_congr_right fun _ => and_congr_right fun _ => ?_
  exact exists_congr fun rec => grants_iff hu

/-- **The check of a model**: some active record that covers it has a row for it. -/
lemma isModelAccessible_iff :
    isModelAccessible r modelName = true ↔ r.enabled = true ∧
      ∃ m ∈ r.models, sanitizeOrLog modelName = some m.model ∧ ∃ rec, Covers r m rec ∧ HasOverride r m rec := by
  cases he : r.enabled with
  | false => simp [isModelAccessible, he]
  | true =>
    cases hs : sanitizeOrLog modelName with
    | none => simp [isModelAccessible, hs]
    | some name =>
      rw [isModelAccessible_sanitize hs]
      simp only [true_and, Option.some.injEq]
      constructor
      · intro h
        -- the name is that of a model, since no module is found for any other
        cases hir : modelIr r name with
        | none =>
          simp [isModelAccessible, isModelEnabled, he, sanitizeOrLog_self hs,
            findEnabledModules_of_none hir] at h
        | some m =>
          have hm : m ∈ r.models := List.mem_of_find?_eq_some hir
          obtain rfl : m.model = name := by simpa using List.find?_some hir
          exact ⟨m, hm, rfl, (accessible_iff he hm).1 h⟩
      · rintro ⟨m, hm, rfl, h⟩
        exact (accessible_iff he hm).2 h

/-- What one record opens is accessible. -/
lemma accessible_of_openedBy (he : r.enabled = true) (h : OpenedBy r flag modelName) :
    isModelAccessible r modelName = true := by
  obtain ⟨m, hm, hs, rec, o, ho⟩ := h
  obtain ⟨hid, hmid⟩ := Prod.mk.inj ho.own
  exact isModelAccessible_iff.2 ⟨he, m, hm, hs, rec, ho.covers, o, ho.row, hid, hmid⟩

end Opened

/-! ### Below in the order -/

section Below

variable {r r' : Registry} {m : IrModel} {modelName : String}

lemma Covers.mono (h : AtMost r' r) {rec' : ModuleAccess} (hc : Covers r' m rec') :
    ∃ rec, Covers r m rec ∧ rec.id = rec'.id ∧ rec'.flags ≤ rec.flags := by
  obtain ⟨hmem, ha, hn⟩ := hc
  obtain ⟨rec, hrec, ha, hid, hname, hle⟩ := h.modules rec' hmem ha
  exact ⟨rec, ⟨hrec, ha, hname ▸ hn⟩, hid, hle⟩

/-- The record and its row lie below a record and a row that open too. -/
lemma openedBy_mono (h : AtMost r' r) {flag : Flags → Bool} (hflag : Monotone flag)
    (ho : OpenedBy r' flag modelName) : OpenedBy r flag modelName := by
  obtain ⟨m, hm, hs, rec', o', ho'⟩ := ho
  obtain ⟨rec, hc, hid, hle⟩ := ho'.covers.mono h
  obtain ⟨o, hrow, hkey, hole⟩ := h.overrides o' ho'.row
  rw [h.models] at hm
  refine ⟨m, hm, hs, rec, o, hc, ?_, hrow, ?_, ?_⟩
  · exact Bool.eq_true_of_true_le (ho'.record ▸ hflag hle)
  · rw [hkey, ho'.own, hid]
  · exact Bool.eq_true_of_true_le (ho'.override ▸ hflag hole)

lemma enabled_mono (h : AtMost r' r) (he : r'.enabled = true) : r.enabled = true :=
  Bool.eq_true_of_true_le (he ▸ h.enabled)

lemma accessible_mono (h : AtMost r' r) (ha : isModelAccessible r' modelName = true) :
    isModelAccessible r modelName = true := by
  obtain ⟨he, m, hm, hs, rec', hc, o', ho', hid, hmid⟩ := isModelAccessible_iff.1 ha
  obtain ⟨rec, hc, hrid, -⟩ := hc.mono h
  obtain ⟨o, ho, hkey, -⟩ := h.overrides o' ho'
  obtain ⟨hk1, hk2⟩ := Prod.mk.inj hkey
  refine isModelAccessible_iff.2 ⟨enabled_mono h he, m, h.models ▸ hm, hs, rec, hc, o, ho, ?_, ?_⟩
  · rw [hk1, hid, hrid]
  · rw [hk2, hmid]

end Below

/-! ### The order of the records -/

/-- The same rows, perhaps returned in another order. -/
structure SameRows (r' r : Registry) : Prop where
  enabled : r'.enabled = r.enabled
  models : r'.models.Perm r.models
  modules : r'.modules.Perm r.modules
  overrides : r'.overrides.Perm r.overrides

section SameRows

variable {r r' : Registry} {modelName : String}

lemma SameRows.symm (h : SameRows r' r) : SameRows r r' :=
  ⟨h.enabled.symm, h.models.symm, h.modules.symm, h.overrides.symm⟩

lemma SameRows.nodup (h : SameRows r' r) (hu : (r.overrides.map (·.key)).Nodup) :
    (r'.overrides.map (·.key)).Nodup := (h.overrides.map _).nodup_iff.2 hu

lemma SameRows.openedBy (h : SameRows r' r) {flag : Flags → Bool} (ho : OpenedBy r' flag modelName) :
    OpenedBy r flag modelName := by
  obtain ⟨m, hm, hs, rec, o, hc, hrec, hrow, hown, hf⟩ := ho
  exact ⟨m, h.models.mem_iff.1 hm, hs, rec, o, ⟨h.modules.mem_iff.1 hc.1, hc.2⟩, hrec,
    h.overrides.mem_iff.1 hrow, hown, hf⟩

lemma SameRows.openedBy_iff (h : SameRows r' r) {flag : Flags → Bool} :
    OpenedBy r' flag modelName ↔ OpenedBy r flag modelName := ⟨h.openedBy, h.symm.openedBy⟩

lemma SameRows.verifyModelOperation (h : SameRows r' r) (hu : (r.overrides.map (·.key)).Nodup) (lo : Lower)
    (operation : String) :
    verifyModelOperation r' lo modelName operation = verifyModelOperation r lo modelName operation := by
  rw [Bool.eq_iff_iff, verifyModelOperation_iff (h.nodup hu), verifyModelOperation_iff hu, h.enabled]
  refine and_congr_right fun _ => exists_congr fun op => and_congr_right fun _ => h.openedBy_iff

lemma SameRows.verifyModelMethod (h : SameRows r' r) (hu : (r.overrides.map (·.key)).Nodup) :
    verifyModelMethod r' modelName = verifyModelMethod r modelName := by
  rw [Bool.eq_iff_iff, verifyModelMethod_iff_openedBy (h.nodup hu), verifyModelMethod_iff_openedBy hu,
    h.enabled, h.openedBy_iff]

lemma SameRows.accessible (h : SameRows r' r) (ha : isModelAccessible r' modelName = true) :
    isModelAccessible r modelName = true := by
  obtain ⟨he, m, hm, hs, rec, hc, o, ho, hkey⟩ := isModelAccessible_iff.1 ha
  exact isModelAccessible_iff.2 ⟨h.enabled ▸ he, m, h.models.mem_iff.1 hm, hs, rec,
    ⟨h.modules.mem_iff.1 hc.1, hc.2⟩, o, h.overrides.mem_iff.1 ho, hkey⟩

lemma SameRows.isModelAccessible (h : SameRows r' r) :
    isModelAccessible r' modelName = isModelAccessible r modelName :=
  Bool.eq_iff_iff.2 ⟨h.accessible, h.symm.accessible⟩

end SameRows

/-! ### The checks and restricting edits -/

/-- The decisions on a model. -/
structure Decisions where
  operation : String → Bool
  method : Bool
  accessible : Bool

def decisions (r : Registry) (lo : Lower) (modelName : String) : Decisions :=
  ⟨verifyModelOperation r lo modelName, verifyModelMethod r modelName, isModelAccessible r modelName⟩

/-- **Permissions are antitone in restrictions.**  After any number of restricting edits, a check passes only if
it passed before.  The checks of an operation and of method calls pass exactly when the gateway is enabled and
one active record that covers the model has the flag together with its own override row; they do not depend on
the order in which the rows are returned, and imply that the model is accessible. -/
theorem permissions_antitone (lo : Lower) {c c' : Config} (hc : Consistent c.registry)
    (h : Relation.ReflTransGen Restricts c c') (modelName : String) :
    ((∀ operation, verifyModelOperation c'.registry lo modelName operation = true →
        verifyModelOperation c.registry lo modelName operation = true) ∧
      (verifyModelMethod c'.registry modelName = true → verifyModelMethod c.registry modelName = true) ∧
      (isModelAccessible c'.registry modelName = true → isModelAccessible c.registry modelName = true)) ∧
    (∀ operation, verifyModelOperation c.registry lo modelName operation = true ↔ c.registry.enabled = true ∧
      ∃ op, Operation.ofName (lo.lower (strip operation)) = some op ∧
        OpenedBy c.registry (·.allow op) modelName) ∧
    (verifyModelMethod c.registry modelName = true ↔ c.registry.enabled = true ∧
      OpenedBy c.registry (·.allowMethodCalls) modelName) ∧
    (∀ r, SameRows r c.registry → decisions r lo modelName = decisions c.registry lo modelName) ∧
    (∀ operation, verifyModelOperation c.registry lo modelName operation = true →
      isModelAccessible c.registry modelName = true) ∧
    (verifyModelMethod c.registry modelName = true → isModelAccessible c.registry modelName = true) := by
  have hle := atMost_restricts h
  have hu := hc.overrides
  have hu' := (consistent_restricts hc h).overrides
  refine ⟨⟨fun operation ho => ?_, fun hm => ?_, accessible_mono hle⟩,
    fun operation => verifyModelOperation_iff hu lo, verifyModelMethod_iff_openedBy hu, fun r hr => ?_,
    fun operation ho => ?_, fun hm => ?_⟩
  · obtain ⟨he, op, hop, ho⟩ := (verifyModelOperation_iff hu' lo).1 ho
    exact (verifyModelOperation_iff hu lo).2
      ⟨enabled_mono hle he, op, hop, openedBy_mono hle (Flags.allow_mono op) ho⟩
  · obtain ⟨he, ho⟩ := (verifyModelMethod_iff_openedBy hu').1 hm
    exact (verifyModelMethod_iff_openedBy hu).2
      ⟨enabled_mono hle he, openedBy_mono hle Flags.allowMethodCalls_mono ho⟩
  · unfold decisions
    rw [hr.verifyModelMethod hu, hr.isModelAccessible, funext (hr.verifyModelOperation hu lo)]
  · obtain ⟨he, op, -, ho⟩ := (verifyModelOperation_iff hu lo).1 ho
    exact accessible_of_openedBy he ho
  · obtain ⟨he, ho⟩ := (verifyModelMethod_iff_openedBy hu).1 hm
    exact accessible_of_openedBy he ho

/-! ### Contacts under two modules -/

/-- Contacts are covered by Sales, which opens reading on the record only, and by CRM, which opens it on the row
only. -/
def crmConfig : Config where
  registry :=
    { enabled := true
      modules := [⟨1, "sale", true, ⟨true, false, false, false, false⟩⟩,
        ⟨2, "crm", true, ⟨false, true, false, false, false⟩⟩]
      overrides := [⟨1, 12, ⟨false, true, true, true, true⟩⟩, ⟨2, 12, ⟨true, true, true, true, true⟩⟩]
      models := [⟨12, "res.partner", "Contact", "base, sale, crm", false⟩]
      models_unique := by decide
      models_named := by decide }
  nextId := 3

/-- CRM is archived and the row of Sales deleted: contacts are closed, and were open for creation before. -/
theorem permissions_antitone_crm :
    (verifyModelOperation (edit (edit crmConfig (.write [2] ⟨none, some false, none, none, none, none, none⟩))
        (.unlinkOverrides [(1, 12)])).registry asciiLower "res.partner" "create" = true →
      verifyModelOperation crmConfig.registry asciiLower "res.partner" "create" = true) ∧
    verifyModelOperation crmConfig.registry asciiLower "res.partner" "create" = true ∧
    verifyModelOperation crmConfig.registry asciiLower "res.partner" "read" = false := by
  refine ⟨(permissions_antitone asciiLower (by decide) ?_ "res.partner").1.1 "create", by decide, by decide⟩
  have hfirst : Restricts crmConfig (edit crmConfig (.write [2] ⟨none, some false, none, none, none, none, none⟩)) :=
    .edit _ ⟨rfl, by decide, by decide, by decide, by decide, by decide, by decide⟩
  exact .tail (.single hfirst) (.edit _ trivial)

end AdvMcp.Access
