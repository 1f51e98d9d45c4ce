import Mathlib.Data.List.ReduceOption
import AdvMcp.Tools.Mutations

/-!
# What a deletion takes along

The `affected_relations` that `drop` of `models/write_tools.py` reports, against the records that a deletion
takes along in the database.

* `FieldKind` — the fields of a model, with the attributes that Odoo gives to each kind;
* `Cascades` — another model has records that are deleted with the dropped one;
* `affected_iff` — the reports that are complete.
-/

namespace AdvMcp.Tools

open AdvMcp.Lib AdvMcp.Py AdvMcp.Read

/-! ### Schemas -/

/-- A field, as far as relations go. -/
inductive FieldKind where
  | many2one (comodel : String) (ondelete : Option String)
  | one2many (comodel inverse : String)
  | many2many (comodel : String) (ondelete : Option String)
  | other

structure FieldDef where
  name : String
  kind : FieldKind

/-- The attributes of the field object: `ondelete` of the kinds that store their relation, `inverse_name` of a
One2many only. -/
def FieldDef.relation (f : FieldDef) : RelationField :=
  match f.kind with
  | .many2one comodel ondelete => ⟨f.name, ondelete, none, comodel⟩
  | .one2many comodel inverse => ⟨f.name, none, some inverse, comodel⟩
  | .many2many comodel ondelete => ⟨f.name, ondelete, none, comodel⟩
  | .other => ⟨f.name, none, none, ""⟩

/-- The fields of each model. -/
abbrev Models := String → List FieldDef

/-- The records of each model, and the records that their Many2one fields name. -/
structure Contents where
  ids : String → List ℤ
  target : String → ℤ → String → Option ℤ

/-- How many records of a model reference the record through the field. -/
def Contents.referring (D : Contents) (m field : String) (recordId : ℤ) : ℕ :=
  (D.ids m).countP fun i => decide (D.target m i field = some recordId)

/-- Through one of its fields, `n` records of `m` are deleted together with the record. -/
def Cascades (S : Models) (D : Contents) (model : String) (recordId : ℤ) (m : String) (n : ℕ) : Prop :=
  ∃ f ∈ S m, f.kind = .many2one model (some "cascade") ∧ n = D.referring m f.name recordId ∧ 0 < n

/-- An entry of `affected_relations`. -/
def affectedEntry (m : String) (n : ℕ) : Value := .dict [("model", .str m), ("count", .int n)]

/-- `reply["structuredContent"][key]` -/
def structuredField (reply : Value) (key : String) : Value :=
  match reply with
  | .dict kvs =>
    match Dict.get kvs "structuredContent" with
    | .dict d => Dict.get d key
    | _ => .none
  | _ => .none

/-- The report names exactly what the deletion takes along. -/
def Complete (S : Models) (D : Contents) (model : String) (recordId : ℤ) (affected : Value) : Prop :=
  ∀ v, v ∈ affected.items ↔ ∃ m n, Cascades S D model recordId m n ∧ v = affectedEntry m n

/-! ### The report -/

section Report

variable {σ : Type} {O : Orm σ} {args : Dict} {reply : Value} {s s' : Journal σ Performed}

/-- No kind of field has both attributes that the loop asks for. -/
lemma affectedRelation_relation (env : Env) (recordId : ℤ) (f : FieldDef) :
    affectedRelation env recordId f.relation = .ok none := by
  unfold affectedRelation FieldDef.relation
  cases f.kind with
  | many2one comodel ondelete =>
    by_cases h : ondelete = some "cascade"
    · simp [h]
    · simp [h]
  | one2many comodel inverse => simp
  | many2many comodel ondelete =>
    by_cases h : ondelete = some "cascade"
    · simp [h]
    · simp [h]
  | other => simp

/-- The loop finds nothing. -/
lemma findAffectedRelations_relation (env : Env) (recordId : ℤ) (fields : List FieldDef) :
    findAffectedRelations env (fields.map FieldDef.relation) recordId = .ok [] := by
  have hnone : (fields.map FieldDef.relation).mapM (affectedRelation env recordId) =
      .ok (fields.map fun _ => none) := by
    induction fields with
    | nil => rfl
    | cons f fields ih =>
      rw [List.map_cons, List.mapM_cons, affectedRelation_relation, ih]
      rfl
  unfold findAffectedRelations
  rw [hnone]
  have hmap : (fields.map fun _ => (none : Option Value)).reduceOption = [] := by
    rw [List.map_const', List.reduceOption_replicate_none]
  show Except.ok _ = Except.ok _
  rw [hmap]

/-- The report of a deletion is empty. -/
lemma drop_affected {S : Models} (hS : ∀ m, O.fields m = (S m).map FieldDef.relation)
    (h : O.drop args s = .ok reply s') : ∃ model recordId, args.get "model" = .str model ∧
      structuredField reply "deleted_id" = .int recordId ∧
      structuredField reply "affected_relations" = .list [] := by
  obtain ⟨⟨model, recordId, name, affected⟩, s₁, hp, h⟩ := bind_ok.1 h
  obtain ⟨ha, rfl⟩ := peek_ok.1 hp
  obtain ⟨⟨⟩, s₂, -, h⟩ := bind_ok.1 h
  obtain ⟨rfl, -⟩ := pure_ok.1 h
  obtain ⟨hmodel, hf⟩ := dropArgs_ok ha
  rw [hS, findAffectedRelations_relation] at hf
  obtain rfl := Except.ok.inj hf
  exact ⟨model, recordId, hmodel, rfl, rfl⟩

/-- **The report of a deletion**, for all schemas and contents, is complete exactly if the deletion takes nothing
along. -/
theorem affected_iff {S : Models} (hS : ∀ m, O.fields m = (S m).map FieldDef.relation) (D : Contents)
    (h : O.drop args s = .ok reply s') : ∃ model recordId, args.get "model" = .str model ∧
      structuredField reply "deleted_id" = .int recordId ∧
      (Complete S D model recordId (structuredField reply "affected_relations") ↔
        ∀ m n, ¬ Cascades S D model recordId m n) := by
  obtain ⟨model, recordId, hmodel, hid, hempty⟩ := drop_affected hS h
  refine ⟨model, recordId, hmodel, hid, ?_⟩
  rw [hempty]
  constructor
  · intro hc m n hcas
    have hmem := (hc (affectedEntry m n)).2 ⟨m, n, hcas, rfl⟩
    exact absurd hmem List.not_mem_nil
  · rintro hnone v
    refine iff_of_false List.not_mem_nil ?_
    rintro ⟨m, n, hcas, -⟩
    exact hnone m n hcas

end Report

/-! ### An order and its lines -/

/-- Orders and their lines, which are deleted with the order. -/
def orderModels : Models := fun m =>
  if m = "sale.order" then [⟨"name", .other⟩, ⟨"order_line", .one2many "sale.order.line" "order_id"⟩]
  else if m = "sale.order.line" then [⟨"order_id", .many2one "sale.order" (some "cascade")⟩]
  else []

/-- Order 5 with the lines 7 and 8. -/
def orderContents : Contents where
  ids m := if m = "sale.order" then [5] else if m = "sale.order.line" then [7, 8] else []
  target m _ _ := if m = "sale.order.line" then some 5 else none

def orderOrm : Orm Unit where
  py := plainBuiltins
  odoo := saleClasses
  env _ := saleCalls true
  fields m := (orderModels m).map FieldDef.relation
  create _ _ := pure 9
  write _ _ _ := pure ()
  unlink _ _ := pure ()
  invoke _ := pure .none
  dumps _ := "null"

def dropArguments : Dict := [("model", .str "sale.order"), ("record_id", .int 5)]

/-- The lines 7 and 8 belong to the order 6. -/
def otherLines : Contents where
  ids m := if m = "sale.order" then [5, 6] else if m = "sale.order.line" then [7, 8] else []
  target m _ _ := if m = "sale.order.line" then some 6 else none

/-- Order 5 has no lines: nothing is reported, and nothing is taken along. -/
theorem affected_iff_single : ∃ reply s', orderOrm.drop dropArguments ((), []) = .ok reply s' ∧
    Complete orderModels otherLines "sale.order" 5 (structuredField reply "affected_relations") := by
  have h : orderOrm.drop dropArguments ((), []) = .ok _ _ := rfl
  obtain ⟨model, recordId, hm, hid, hiff⟩ := affected_iff (fun _ => rfl) otherLines h
  obtain rfl := Value.str.inj (show Value.str "sale.order" = .str model from hm)
  obtain rfl := Value.int.inj (show Value.int 5 = .int recordId from hid)
  refine ⟨_, _, h, hiff.2 ?_⟩
  rintro m n ⟨f, -, -, rfl, hpos⟩
  have hnone : otherLines.referring m f.name 5 = 0 := by
    refine List.countP_eq_zero.2 fun i _ => ?_
    by_cases hm : m = "sale.order.line" <;> simp [otherLines, hm]
  omega

/-- The two lines are not reported. -/
theorem lines_unreported : ∃ reply s', orderOrm.drop dropArguments ((), []) = .ok reply s' ∧
    Cascades orderModels orderContents "sale.order" 5 "sale.order.line" 2 ∧
    structuredField reply "affected_relations" = .list [] ∧
    ¬ Complete orderModels orderContents "sale.order" 5 (structuredField reply "affected_relations") := by
  have hcas : Cascades orderModels orderContents "sale.order" 5 "sale.order.line" 2 :=
    ⟨⟨"order_id", .many2one "sale.order" (some "cascade")⟩, by simp [orderModels], rfl, rfl, by decide⟩
  refine ⟨_, _, rfl, hcas, rfl, fun hc => ?_⟩
  exact absurd ((hc _).2 ⟨_, _, hcas, rfl⟩) List.not_mem_nil

end AdvMcp.Tools
