import AdvMcp.Lib.Items
import AdvMcp.Tools.Mutations

/-!
# What `run` makes of the result of a method

`_coerce_json` of `models/write_tools.py`, on any value that a business method may return.

* `Returned` — the values: dictionaries with keys of any type, lists, tuples, record sets;
* `coerceJson` — the function, with `str` of what it does not look into as a parameter;
* `IsJson`, `Mirrors` — the output is a JSON tree, and nothing of the input is lost but the ends of long
  record sets;
* `Clean` — the values of which that is true: `isJson_coerceJson`, `mirrors_coerceJson`, `clean_of_mirrors`.

A JSON tree is left as it is (`coerceJson_of_isJson`), so coercing twice is coercing once wherever the first
time gives JSON.  `run_reports` carries this to the answer of the tool.
-/

namespace AdvMcp.Tools

open AdvMcp.Lib AdvMcp.Py AdvMcp.Read

/-! ### What a method returns -/

/-- The id of a record.  A record that is not saved has a `NewId`, with the id of its origin if it has one. -/
inductive RecordId where
  | saved (n : ℕ)
  | new (origin : Option ℕ) (text : String)

/-- What reading `display_name` gives. -/
inductive DisplayName where
  | raises
  | unset
  | text (s : String)

structure Record where
  id : RecordId
  displayName : DisplayName

/-- A Python value.  A float is its `repr`; `object` is an instance of some other class, with its `str`. -/
inductive Returned where
  | none
  | bool (b : Bool)
  | int (n : ℤ)
  | float (text : String)
  | str (s : String)
  | list (xs : List Returned)
  | tuple (xs : List Returned)
  | dict (kvs : List (Returned × Returned))
  | records (rs : List Record)
  | object (text : String)

def RecordId.isSaved : RecordId → Bool
  | .saved _ => true
  | .new _ _ => false

/-- The id as a value: `r.id`. -/
def RecordId.value : RecordId → Returned
  | .saved n => .int n
  | .new _ text => .object text

/-- `origin_ids`: what `records.ids` keeps of an id. -/
def RecordId.origin : RecordId → Option ℕ
  | .saved n => some n
  | .new origin _ => origin

def DisplayName.isRaised : DisplayName → Bool
  | .raises => true
  | _ => false

def DisplayName.value : DisplayName → Returned
  | .text s => .str s
  | _ => .bool false

/-- `str(v)`, with `repr` for what it is not known of. -/
def Returned.pyStr (repr : Returned → String) : Returned → String
  | .none => "None"
  | .bool true => "True"
  | .bool false => "False"
  | .int n => toString n
  | .float t => t
  | .str s => s
  | .object t => t
  | v => repr v

/-- `None`, `bool`, `int`, `float`, `str` -/
def Returned.IsScalar : Returned → Prop
  | .none | .bool _ | .int _ | .float _ | .str _ => True
  | _ => False

/-! ### The coercion -/

/-- The items of a dictionary with string keys. -/
def strItems (items : List (String × Returned)) : List (Returned × Returned) :=
  items.map fun p => (.str p.1, p.2)

/-- `{"id": r.id, "display_name": r.display_name}` -/
def Record.item (r : Record) : Returned :=
  .dict (strItems [("id", r.id.value), ("display_name", r.displayName.value)])

/-- The items of the records that are shown; only the ids, where a display name raises. -/
def recordItems (capped : List Record) : List Returned :=
  if capped.any (·.displayName.isRaised) then (capped.filterMap (·.id.origin)).map fun n => .int n
  else capped.map Record.item

/-- The branch for record sets. -/
def coerceRecords (maxRecords : ℕ) (rs : List Record) : List Returned :=
  let out := recordItems (rs.take maxRecords)
  if maxRecords < rs.length then
    out ++ [.str ("... [truncated: " ++ toString maxRecords ++ " of " ++ toString rs.length ++ "]")]
  else out

section Coerce

variable (repr : Returned → String) (maxRecords : ℕ)

mutual
/-- `_coerce_json` -/
def coerceJson : Returned → Returned
  | .records rs => .list (coerceRecords maxRecords rs)
  | .dict kvs => .dict (strItems (dictOfPairs (coerceItems kvs)))
  | .list xs => .list (coerceAll xs)
  | .tuple xs => .list (coerceAll xs)
  | .object t => .str t
  | v => v

def coerceAll : List Returned → List Returned
  | [] => []
  | x :: xs => coerceJson x :: coerceAll xs

def coerceItems : List (Returned × Returned) → List (String × Returned)
  | [] => []
  | (k, v) :: kvs => (k.pyStr repr, coerceJson v) :: coerceItems kvs
end

end Coerce

/-! ### JSON trees and mirrors -/

mutual
/-- A tree of null, booleans, numbers, strings, lists and dictionaries with distinct string keys. -/
def IsJson : Returned → Prop
  | .list xs => IsJsonAll xs
  | .dict kvs => (kvs.map Prod.fst).Nodup ∧ (∀ p ∈ kvs, ∃ s, p.1 = .str s) ∧ IsJsonItems kvs
  | .tuple _ => False
  | .records _ => False
  | .object _ => False
  | _ => True

def IsJsonAll : List Returned → Prop
  | [] => True
  | x :: xs => IsJson x ∧ IsJsonAll xs

def IsJsonItems : List (Returned × Returned) → Prop
  | [] => True
  | (_, v) :: kvs => IsJson v ∧ IsJsonItems kvs
end

section Mirrors

variable (maxRecords : ℕ)

mutual
/-- Every list and tuple keeps its length and its order, every dictionary its items, every record set at
most `max_records` items and one more, every scalar its value. -/
def Mirrors : Returned → Returned → Prop
  | .list xs, w => ∃ ys, w = .list ys ∧ MirrorsAll xs ys
  | .tuple xs, w => ∃ ys, w = .list ys ∧ MirrorsAll xs ys
  | .dict kvs, w => ∃ items, w = .dict items ∧ MirrorsItems kvs items
  | .records _, w => ∃ ys, w = .list ys ∧ ys.length ≤ maxRecords + 1
  | .object t, w => w = .str t
  | v, w => w = v

def MirrorsAll : List Returned → List Returned → Prop
  | [], ys => ys = []
  | x :: xs, ys => ∃ y ys', ys = y :: ys' ∧ Mirrors x y ∧ MirrorsAll xs ys'

def MirrorsItems : List (Returned × Returned) → List (Returned × Returned) → Prop
  | [], items => items = []
  | (_, v) :: kvs, items => ∃ q items', items = q :: items' ∧ Mirrors v q.2 ∧ MirrorsItems kvs items'
end

end Mirrors

section Clean

variable (repr : Returned → String) (maxRecords : ℕ)

mutual
/-- At every depth the keys of a dictionary differ as strings, and the records that are shown are saved,
unless a display name among them raises. -/
def Clean : Returned → Prop
  | .list xs => CleanAll xs
  | .tuple xs => CleanAll xs
  | .dict kvs => (kvs.map fun p => p.1.pyStr repr).Nodup ∧ CleanItems kvs
  | .records rs => (rs.take maxRecords).any (·.displayName.isRaised) = true ∨
      ∀ r ∈ rs.take maxRecords, r.id.isSaved = true
  | _ => True

def CleanAll : List Returned → Prop
  | [] => True
  | x :: xs => Clean x ∧ CleanAll xs

def CleanItems : List (Returned × Returned) → Prop
  | [] => True
  | (_, v) :: kvs => Clean v ∧ CleanItems kvs
end

end Clean

/-! ### Induction on members -/

/-- A property of every value: of the scalars, and of a container when its members have it. -/
theorem Returned.byMembers {P : Returned → Prop} (scalar : ∀ v, v.IsScalar → P v)
    (object : ∀ t, P (.object t)) (records : ∀ rs, P (.records rs))
    (list : ∀ xs, (∀ x ∈ xs, P x) → P (.list xs)) (tuple : ∀ xs, (∀ x ∈ xs, P x) → P (.tuple xs))
    (dict : ∀ kvs, (∀ p ∈ kvs, P p.2) → P (.dict kvs)) (v : Returned) : P v :=
  @Returned.rec P (fun xs => ∀ x ∈ xs, P x) (fun kvs => ∀ p ∈ kvs, P p.2) (fun p => P p.2)
    (scalar _ trivial) (fun _ => scalar _ trivial) (fun _ => scalar _ trivial) (fun _ => scalar _ trivial)
    (fun _ => scalar _ trivial) list tuple dict records object
    (fun _ h => absurd h List.not_mem_nil) (fun _ _ hx hxs => List.forall_mem_cons.2 ⟨hx, hxs⟩)
    (fun _ h => absurd h List.not_mem_nil) (fun _ _ hp hps => List.forall_mem_cons.2 ⟨hp, hps⟩)
    (fun _ _ _ hv => hv) v

section Members

variable (repr : Returned → String) (maxRecords : ℕ)

lemma coerceAll_eq (xs : List Returned) : coerceAll repr maxRecords xs = xs.map (coerceJson repr maxRecords) := by
  induction xs with
  | nil => rfl
  | cons x xs ih => rw [coerceAll, ih, List.map_cons]

lemma coerceItems_eq (kvs : List (Returned × Returned)) : coerceItems repr maxRecords kvs =
    kvs.map fun p => (p.1.pyStr repr, coerceJson repr maxRecords p.2) := by
  induction kvs with
  | nil => rfl
  | cons p kvs ih => rw [coerceItems, ih, List.map_cons]

lemma isJsonAll_iff (xs : List Returned) : IsJsonAll xs ↔ ∀ x ∈ xs, IsJson x := by
  induction xs with
  | nil => simp [IsJsonAll]
  | cons x xs ih => rw [IsJsonAll, ih, List.forall_mem_cons]

lemma isJsonItems_iff (kvs : List (Returned × Returned)) : IsJsonItems kvs ↔ ∀ p ∈ kvs, IsJson p.2 := by
  induction kvs with
  | nil => simp [IsJsonItems]
  | cons p kvs ih => rw [IsJsonItems, ih, List.forall_mem_cons]

lemma mirrorsAll_iff (xs ys : List Returned) :
    MirrorsAll maxRecords xs ys ↔ List.Forall₂ (Mirrors maxRecords) xs ys := by
  induction xs generalizing ys with
  | nil => rw [MirrorsAll, List.forall₂_nil_left_iff]
  | cons x xs ih =>
    simp only [MirrorsAll, ih, List.forall₂_cons_left_iff]
    constructor
    · rintro ⟨y, ys', rfl, h1, h2⟩
      exact ⟨y, ys', h1, h2, rfl⟩
    · rintro ⟨y, ys', h1, h2, rfl⟩
      exact ⟨y, ys', rfl, h1, h2⟩

lemma mirrorsItems_iff (kvs items : List (Returned × Returned)) : MirrorsItems maxRecords kvs items ↔
    List.Forall₂ (fun p q => Mirrors maxRecords p.2 q.2) kvs items := by
  induction kvs generalizing items with
  | nil => rw [MirrorsItems, List.forall₂_nil_left_iff]
  | cons p kvs ih =>
    simp only [MirrorsItems, ih, List.forall₂_cons_left_iff]
    constructor
    · rintro ⟨q, items', rfl, h1, h2⟩
      exact ⟨q, items', h1, h2, rfl⟩
    · rintro ⟨q, items', h1, h2, rfl⟩
      exact ⟨q, items', rfl, h1, h2⟩

lemma cleanAll_iff (xs : List Returned) :
    CleanAll repr maxRecords xs ↔ ∀ x ∈ xs, Clean repr maxRecords x := by
  induction xs with
  | nil => simp [CleanAll]
  | cons x xs ih => rw [CleanAll, ih, List.forall_mem_cons]

lemma cleanItems_iff (kvs : List (Returned × Returned)) :
    CleanItems repr maxRecords kvs ↔ ∀ p ∈ kvs, Clean repr maxRecords p.2 := by
  induction kvs with
  | nil => simp [CleanItems]
  | cons p kvs ih => rw [CleanItems, ih, List.forall_mem_cons]

lemma isJsonAll_coerceAll (xs : List Returned) :
    IsJsonAll (coerceAll repr maxRecords xs) ↔ ∀ x ∈ xs, IsJson (coerceJson repr maxRecords x) := by
  rw [isJsonAll_iff, coerceAll_eq, List.forall_mem_map]

lemma mirrorsAll_coerceAll (xs : List Returned) : MirrorsAll maxRecords xs (coerceAll repr maxRecords xs) ↔
    ∀ x ∈ xs, Mirrors maxRecords x (coerceJson repr maxRecords x) := by
  rw [mirrorsAll_iff, coerceAll_eq, List.forall₂_map_right_iff, List.forall₂_same]

end Members

section Coerced

variable {repr : Returned → String} {maxRecords : ℕ} {v : Returned}

/-! ### JSON trees stay as they are -/

lemma coerceJson_scalar (h : v.IsScalar) : coerceJson repr maxRecords v = v := by
  cases v with
  | none | bool | int | float | str => rfl
  | _ => exact h.elim

lemma isJson_scalar (h : v.IsScalar) : IsJson v := by
  cases v with
  | none | bool | int | float | str => trivial
  | _ => exact h.elim

lemma clean_scalar (h : v.IsScalar) : Clean repr maxRecords v := by
  cases v with
  | none | bool | int | float | str => trivial
  | _ => exact h.elim

lemma mirrors_scalar (h : v.IsScalar) : Mirrors maxRecords v v := by
  cases v with
  | none | bool | int | float | str => rfl
  | _ => exact h.elim

lemma coerceItems_keys (kvs : List (Returned × Returned)) :
    (coerceItems repr maxRecords kvs).map Prod.fst = kvs.map fun p => p.1.pyStr repr := by
  rw [coerceItems_eq, List.map_map]
  rfl

/-- A dictionary with keys that differ as strings keeps its items. -/
lemma coerceJson_dict {kvs : List (Returned × Returned)} (h : (kvs.map fun p => p.1.pyStr repr).Nodup) :
    coerceJson repr maxRecords (.dict kvs) =
      .dict (kvs.map fun p => (.str (p.1.pyStr repr), coerceJson repr maxRecords p.2)) := by
  rw [← coerceItems_keys] at h
  rw [coerceJson, dictOfPairs_eq h, coerceItems_eq, strItems, List.map_map]
  rfl

/-- **A JSON tree** is not changed. -/
theorem coerceJson_of_isJson (h : IsJson v) : coerceJson repr maxRecords v = v := by
  induction v using Returned.byMembers with
  | scalar v hv => exact coerceJson_scalar hv
  | object t => exact h.elim
  | records rs => exact h.elim
  | tuple xs ih => exact h.elim
  | list xs ih =>
    rw [IsJson, isJsonAll_iff] at h
    have hmembers : xs.map (coerceJson repr maxRecords) = xs := by
      rw [List.map_congr_left fun x hx => ih x hx (h x hx), List.map_id']
    rw [coerceJson, coerceAll_eq, hmembers]
  | dict kvs ih =>
    rw [IsJson, isJsonItems_iff] at h
    obtain ⟨hn, hstr, hv⟩ := h
    have hkeys : kvs.map Prod.fst = (kvs.map fun p => p.1.pyStr repr).map Returned.str := by
      rw [List.map_map]
      refine List.map_congr_left fun p hp => ?_
      obtain ⟨s, hs⟩ := hstr p hp
      simp [hs, Returned.pyStr]
    rw [hkeys] at hn
    rw [coerceJson_dict (hn.of_map _)]
    refine congrArg Returned.dict ((List.map_congr_left fun p hp => ?_).trans (List.map_id' kvs))
    obtain ⟨s, hs⟩ := hstr p hp
    exact Prod.ext (by simp [hs, Returned.pyStr]) (ih p hp (hv p hp))

/-! ### Clean values become JSON -/

lemma isJson_strItems {items : List (String × Returned)} (hn : (items.map Prod.fst).Nodup)
    (hv : ∀ p ∈ items, IsJson p.2) : IsJson (.dict (strItems items)) := by
  rw [IsJson, isJsonItems_iff, strItems, List.map_map]
  refine ⟨?_, fun q hq => ?_, fun q hq => ?_⟩
  · have hmap : Prod.fst ∘ (fun p : String × Returned => (Returned.str p.1, p.2)) =
        Returned.str ∘ Prod.fst := rfl
    rw [hmap, ← List.map_map]
    exact hn.map fun _ _ h => Returned.str.inj h
  · obtain ⟨p, -, rfl⟩ := List.mem_map.1 hq
    exact ⟨p.1, rfl⟩
  · obtain ⟨p, hp, rfl⟩ := List.mem_map.1 hq
    exact hv p hp

lemma isJson_displayName (d : DisplayName) : IsJson d.value := by
  cases d <;> trivial

lemma Record.isJson_item {r : Record} (h : r.id.isSaved = true) : IsJson r.item := by
  refine isJson_strItems (by simp) fun p hp => ?_
  rcases List.mem_cons.1 hp with rfl | hp
  · cases hid : r.id with
    | saved n => simp [RecordId.value, IsJson]
    | new origin text => simp [hid, RecordId.isSaved] at h
  · obtain rfl := List.mem_singleton.1 hp
    exact isJson_displayName r.displayName

lemma mem_coerceRecords {rs : List Record} {y : Returned} (h : y ∈ coerceRecords maxRecords rs) :
    (∃ s, y = .str s) ∨ y ∈ recordItems (rs.take maxRecords) := by
  unfold coerceRecords at h
  simp only at h
  split_ifs at h
  · rcases List.mem_append.1 h with h | h
    · exact Or.inr h
    · exact Or.inl ⟨_, List.mem_singleton.1 h⟩
  · exact Or.inr h

/-- The items of records are JSON when they are ids, or when the records are saved. -/
lemma isJson_recordItems {capped : List Record} (h : capped.any (·.displayName.isRaised) = true ∨
    ∀ r ∈ capped, r.id.isSaved = true) : ∀ y ∈ recordItems capped, IsJson y := by
  intro y hy
  unfold recordItems at hy
  split_ifs at hy with hraised
  · obtain ⟨n, -, rfl⟩ := List.mem_map.1 hy
    trivial
  · obtain ⟨r, hr, rfl⟩ := List.mem_map.1 hy
    rcases h with h | h
    · exact absurd h hraised
    · exact Record.isJson_item (h r hr)

/-- **A clean value** becomes JSON. -/
theorem isJson_coerceJson (h : Clean repr maxRecords v) : IsJson (coerceJson repr maxRecords v) := by
  induction v using Returned.byMembers with
  | scalar v hv =>
    rw [coerceJson_scalar hv]
    exact isJson_scalar hv
  | object t => trivial
  | records rs =>
    rw [Clean] at h
    rw [coerceJson, IsJson, isJsonAll_iff]
    intro y hy
    rcases mem_coerceRecords hy with ⟨s, rfl⟩ | hy
    · trivial
    · exact isJson_recordItems h y hy
  | list xs ih =>
    rw [Clean, cleanAll_iff] at h
    rw [coerceJson, IsJson, isJsonAll_coerceAll]
    exact fun x hx => ih x hx (h x hx)
  | tuple xs ih =>
    rw [Clean, cleanAll_iff] at h
    rw [coerceJson, IsJson, isJsonAll_coerceAll]
    exact fun x hx => ih x hx (h x hx)
  | dict kvs ih =>
    rw [Clean, cleanItems_iff] at h
    obtain ⟨hn, hv⟩ := h
    rw [← coerceItems_keys] at hn
    rw [coerceJson, dictOfPairs_eq hn]
    refine isJson_strItems hn ?_
    rw [coerceItems_eq, List.forall_mem_map]
    exact fun p hp => ih p hp (hv p hp)

/-! ### What is kept -/

lemma recordItems_length (capped : List Record) : (recordItems capped).length ≤ capped.length := by
  unfold recordItems
  split_ifs
  · rw [List.length_map]
    exact List.length_filterMap_le _ _
  · rw [List.length_map]

lemma coerceRecords_length (maxRecords : ℕ) (rs : List Record) :
    (coerceRecords maxRecords rs).length ≤ maxRecords + 1 := by
  have hout : (recordItems (rs.take maxRecords)).length ≤ maxRecords :=
    (recordItems_length _).trans (List.length_take_le _ _)
  unfold coerceRecords
  simp only
  split_ifs
  · rw [List.length_append, List.length_singleton]
    omega
  · omega

/-- **A clean value** is mirrored. -/
theorem mirrors_coerceJson (h : Clean repr maxRecords v) :
    Mirrors maxRecords v (coerceJson repr maxRecords v) := by
  induction v using Returned.byMembers with
  | scalar v hv =>
    rw [coerceJson_scalar hv]
    exact mirrors_scalar hv
  | object t => rfl
  | records rs => exact ⟨_, rfl, coerceRecords_length maxRecords rs⟩
  | list xs ih =>
    rw [Clean, cleanAll_iff] at h
    refine ⟨_, rfl, ?_⟩
    rw [mirrorsAll_coerceAll]
    exact fun x hx => ih x hx (h x hx)
  | tuple xs ih =>
    rw [Clean, cleanAll_iff] at h
    refine ⟨_, rfl, ?_⟩
    rw [mirrorsAll_coerceAll]
    exact fun x hx => ih x hx (h x hx)
  | dict kvs ih =>
    rw [Clean, cleanItems_iff] at h
    obtain ⟨hn, hv⟩ := h
    refine ⟨_, coerceJson_dict hn, ?_⟩
    rw [mirrorsItems_iff, List.forall₂_map_right_iff, List.forall₂_same]
    exact fun p hp => ih p hp (hv p hp)

/-! ### Only clean values -/

/-- A record that is not saved shows in the items. -/
lemma isSaved_of_isJson {rs : List Record} (h : IsJson (coerceJson repr maxRecords (.records rs)))
    (hraised : (rs.take maxRecords).any (·.displayName.isRaised) = false) :
    ∀ r ∈ rs.take maxRecords, r.id.isSaved = true := by
  intro r hr
  rw [coerceJson, IsJson, isJsonAll_iff] at h
  have hmem : r.item ∈ coerceRecords maxRecords rs := by
    have hout : recordItems (rs.take maxRecords) = (rs.take maxRecords).map Record.item := by
      rw [recordItems, hraised, if_neg Bool.false_ne_true]
    unfold coerceRecords
    simp only [hout]
    split_ifs
    · exact List.mem_append_left _ (List.mem_map_of_mem hr)
    · exact List.mem_map_of_mem hr
  have hitem : IsJson r.item := h _ hmem
  cases hid : r.id with
  | saved n => rfl
  | new origin text =>
    rw [Record.item, IsJson, isJsonItems_iff] at hitem
    have hvalue : IsJson r.id.value := hitem.2.2 _ List.mem_cons_self
    rw [hid] at hvalue
    exact hvalue.elim

/-- With as many items as before, no two keys have become one. -/
lemma nodup_of_mirrors {kvs : List (Returned × Returned)}
    (h : Mirrors maxRecords (.dict kvs) (coerceJson repr maxRecords (.dict kvs))) :
    (kvs.map fun p => p.1.pyStr repr).Nodup := by
  obtain ⟨items, hitems, h⟩ := h
  obtain rfl := Returned.dict.inj hitems
  rw [mirrorsItems_iff] at h
  have hlength : kvs.length = (strItems (dictOfPairs (coerceItems repr maxRecords kvs))).length := h.length_eq
  rw [strItems, List.length_map] at hlength
  rw [← coerceItems_keys]
  refine nodup_of_length_dictOfPairs ?_
  rw [← hlength, coerceItems_eq, List.length_map]

/-- **A value that becomes JSON and is mirrored** is clean. -/
theorem clean_of_mirrors (hj : IsJson (coerceJson repr maxRecords v))
    (hm : Mirrors maxRecords v (coerceJson repr maxRecords v)) : Clean repr maxRecords v := by
  induction v using Returned.byMembers with
  | scalar v hv => exact clean_scalar hv
  | object t => trivial
  | records rs =>
    rw [Clean]
    cases hraised : (rs.take maxRecords).any (·.displayName.isRaised) with
    | true => exact Or.inl rfl
    | false => exact Or.inr (isSaved_of_isJson hj hraised)
  | list xs ih =>
    rw [coerceJson, IsJson, isJsonAll_coerceAll] at hj
    obtain ⟨ys, hys, hm⟩ := hm
    obtain rfl := Returned.list.inj hys
    rw [mirrorsAll_coerceAll] at hm
    rw [Clean, cleanAll_iff]
    exact fun x hx => ih x hx (hj x hx) (hm x hx)
  | tuple xs ih =>
    rw [coerceJson, IsJson, isJsonAll_coerceAll] at hj
    obtain ⟨ys, hys, hm⟩ := hm
    obtain rfl := Returned.list.inj hys
    rw [mirrorsAll_coerceAll] at hm
    rw [Clean, cleanAll_iff]
    exact fun x hx => ih x hx (hj x hx) (hm x hx)
  | dict kvs ih =>
    have hn : (kvs.map fun p => p.1.pyStr repr).Nodup := nodup_of_mirrors hm
    obtain ⟨items, hitems, hm⟩ := hm
    rw [coerceJson_dict hn] at hj hitems
    obtain rfl := Returned.dict.inj hitems
    rw [mirrorsItems_iff, List.forall₂_map_right_iff, List.forall₂_same] at hm
    rw [IsJson, isJsonItems_iff, List.forall_mem_map, List.forall_mem_map] at hj
    rw [Clean, cleanItems_iff]
    exact ⟨hn, fun p hp => ih p hp (hj.2.2 p hp) (hm p hp)⟩

/-- **`_coerce_json` keeps what it is given.**  The result is a tree of JSON with the shape of the value, and
coercing it again changes nothing, exactly when no two keys of a dictionary are one as strings and no record
that is shown is unsaved. -/
theorem coerceJson_iff (repr : Returned → String) (maxRecords : ℕ) (v : Returned) :
    (IsJson (coerceJson repr maxRecords v) ∧ Mirrors maxRecords v (coerceJson repr maxRecords v) ∧
      coerceJson repr maxRecords (coerceJson repr maxRecords v) = coerceJson repr maxRecords v) ↔
    Clean repr maxRecords v := by
  constructor
  · rintro ⟨hj, hm, -⟩
    exact clean_of_mirrors hj hm
  · intro h
    have hj : IsJson (coerceJson repr maxRecords v) := isJson_coerceJson h
    exact ⟨hj, mirrors_coerceJson h, coerceJson_of_isJson hj⟩

/-- Only the last entry under a key that is met twice is left, and the id of a draft is no JSON. -/
theorem equal_keys_merge :
    coerceJson (fun _ => "") 100 (.dict [(.int 1, .str "a"), (.str "1", .str "b")]) =
      .dict [(.str "1", .str "b")] ∧
    ¬ Mirrors 100 (.dict [(.int 1, .str "a"), (.str "1", .str "b")])
      (coerceJson (fun _ => "") 100 (.dict [(.int 1, .str "a"), (.str "1", .str "b")])) ∧
    ¬ IsJson (coerceJson (fun _ => "") 100 (.records [⟨.new none "NewId_0x7f", .text "Draft"⟩])) := by
  have hmerged : coerceJson (fun _ => "") 100 (.dict [(.int 1, .str "a"), (.str "1", .str "b")]) =
      .dict [(.str "1", .str "b")] := rfl
  -- one item where there were two
  refine ⟨hmerged, ?_, ?_⟩
  · rw [hmerged]
    rintro ⟨items, hitems, h⟩
    obtain rfl := Returned.dict.inj hitems
    rw [mirrorsItems_iff] at h
    exact absurd h.length_eq (by decide)
  · intro h
    rw [coerceJson, IsJson, isJsonAll_iff] at h
    have hitem : IsJson (Record.item ⟨.new none "NewId_0x7f", .text "Draft"⟩) := h _ List.mem_cons_self
    rw [Record.item, IsJson, isJsonItems_iff] at hitem
    exact hitem.2.2 _ List.mem_cons_self

end Coerced

/-! ### The answer of `run` -/

section Answer

variable (repr : Returned → String)

mutual
/-- The answer of a tool as a value. -/
def Returned.toValue : Returned → Value
  | .none => .none
  | .bool b => .bool b
  | .int n => .int n
  | .float t => .float t
  | .str s => .str s
  | .list xs => .list (toValues xs)
  | .tuple xs => .list (toValues xs)
  | .dict kvs => .dict (toItems kvs)
  | .records rs => .object (repr (.records rs))
  | .object t => .object t

def toValues : List Returned → List Value
  | [] => []
  | x :: xs => x.toValue :: toValues xs

def toItems : List (Returned × Returned) → Dict
  | [] => []
  | (k, v) :: kvs => (k.pyStr repr, v.toValue) :: toItems kvs
end

mutual
def Returned.ofValue : Value → Returned
  | .none => .none
  | .bool b => .bool b
  | .int n => .int n
  | .float t => .float t
  | .str s => .str s
  | .list xs => .list (ofValues xs)
  | .dict kvs => .dict (ofItems kvs)
  | .object t => .object t

def ofValues : List Value → List Returned
  | [] => []
  | x :: xs => Returned.ofValue x :: ofValues xs

def ofItems : List (String × Value) → List (Returned × Returned)
  | [] => []
  | (k, v) :: kvs => (.str k, Returned.ofValue v) :: ofItems kvs
end

lemma toValues_eq (xs : List Returned) : toValues repr xs = xs.map (Returned.toValue repr) := by
  induction xs with
  | nil => rfl
  | cons x xs ih => rw [toValues, ih, List.map_cons]

lemma toItems_eq (kvs : List (Returned × Returned)) :
    toItems repr kvs = kvs.map fun p => (p.1.pyStr repr, p.2.toValue repr) := by
  induction kvs with
  | nil => rfl
  | cons p kvs ih => rw [toItems, ih, List.map_cons]

lemma ofValues_eq (xs : List Value) : ofValues xs = xs.map Returned.ofValue := by
  induction xs with
  | nil => rfl
  | cons x xs ih => rw [ofValues, ih, List.map_cons]

lemma ofItems_eq (kvs : Dict) : ofItems kvs = kvs.map fun p => (.str p.1, Returned.ofValue p.2) := by
  induction kvs with
  | nil => rfl
  | cons p kvs ih => rw [ofItems, ih, List.map_cons]

/-- Nothing of a JSON tree is lost on the way to the answer. -/
theorem Returned.ofValue_toValue {v : Returned} (h : IsJson v) : Returned.ofValue (v.toValue repr) = v := by
  induction v using Returned.byMembers with
  | scalar v hv =>
    cases v with
    | none | bool | int | float | str => rfl
    | _ => exact hv.elim
  | object t => exact h.elim
  | records rs => exact h.elim
  | tuple xs ih => exact h.elim
  | list xs ih =>
    rw [IsJson, isJsonAll_iff] at h
    rw [Returned.toValue, Returned.ofValue, toValues_eq, ofValues_eq, List.map_map]
    exact congrArg Returned.list ((List.map_congr_left fun x hx => ih x hx (h x hx)).trans (List.map_id' xs))
  | dict kvs ih =>
    rw [IsJson, isJsonItems_iff] at h
    obtain ⟨-, hstr, hv⟩ := h
    rw [Returned.toValue, Returned.ofValue, toItems_eq, ofItems_eq, List.map_map]
    refine congrArg Returned.dict ((List.map_congr_left fun p hp => ?_).trans (List.map_id' kvs))
    obtain ⟨s, hs⟩ := hstr p hp
    exact Prod.ext (by simp [hs, Returned.pyStr]) (ih p hp (hv p hp))

variable {σ : Type} (O : Orm σ) (call : Invocation → EStateM PyExc σ Returned)

/-- Odoo, where a method that is called returns what `call` says. -/
def Orm.returning : Orm σ :=
  { O with
    invoke := fun inv =>
      match inv with
      | .call .. => do return (coerceJson repr maxLimit.toNat (← call inv)).toValue repr
      | .post .. => O.invoke inv }

/-- **`run` answers with the whole result**: of a clean value, a tree of JSON that mirrors it. -/
theorem run_reports {args : Dict} {s s' : Journal σ Performed} {out : Value}
    (h : (O.returning repr call).run args s = .ok out s') :
    (∃ model id kw result, out = invoked O.py O.dumps (args.get "record_ids") result (.post model id kw)) ∨
    ∃ inv raw w, call inv s.1 = .ok raw s'.1 ∧ out = invoked O.py O.dumps (args.get "record_ids") w inv ∧
      (Clean repr maxLimit.toNat raw →
        IsJson (Returned.ofValue w) ∧ Mirrors maxLimit.toNat raw (Returned.ofValue w)) := by
  obtain ⟨⟨model, inv⟩, s₁, hp, h⟩ := bind_ok.1 h
  obtain ⟨-, rfl⟩ := peek_ok.1 hp
  obtain ⟨result, s₂, hi, h⟩ := bind_ok.1 h
  obtain ⟨hi, -⟩ := logged_ok.1 hi
  obtain ⟨rfl, rfl⟩ := pure_ok.1 h
  cases inv with
  | post model id kw => exact Or.inl ⟨model, id, kw, result, rfl⟩
  | call model method ids posArgs kwArgs =>
    obtain ⟨raw, t, hraw, hi⟩ := bind_ok.1 hi
    obtain ⟨rfl, rfl⟩ := pure_ok.1 hi
    refine Or.inr ⟨_, raw, _, hraw, rfl, fun hclean => ?_⟩
    have hj : IsJson (coerceJson repr maxLimit.toNat raw) := isJson_coerceJson hclean
    rw [Returned.ofValue_toValue repr hj]
    exact ⟨hj, mirrors_coerceJson hclean⟩

end Answer

end AdvMcp.Tools
