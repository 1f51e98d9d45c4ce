import AdvMcp.Lib.Ranking
import AdvMcp.Lib.Savepoint
import AdvMcp.Read.Arguments

/-!
# What the smart defaults select

An essential field scores 1000 and every other one less, so the essential fields head the ranking:
either only essential fields are selected, or all of them are (`take_class`).  What is appended
afterwards are the essential fields that the slice has cut off.

* `scoreFieldImportance_lt`, `presentable_of_score_pos` — the scores;
* `mem_rankedFields`, `slicedFields_cases` — the ranking and its first part;
* `length_getSmartDefaultFields` — how many fields there are, for every `max_fields`.
-/

namespace AdvMcp.Read

open AdvMcp.Lib AdvMcp.Py

/-! ### Scores -/

/-- The fields of the framework: the prefixes and the names that score nothing. -/
def isSystemFieldName (fieldName : String) : Bool :=
  (excludePrefixes.any fun p => startsWith p fieldName) || fieldName ∈ excludeFields

/-- `field_info.get("type", "")` -/
def fieldTypeOf (fieldInfo : Dict) : String := ((fieldInfo.getOr "type" (.str "")).str?).getD ""

/-- The types that score nothing. -/
def heavyTypes : List String := ["binary", "image", "html", "one2many", "many2many"]

/-- What a field must be to be shown without being essential. -/
structure Presentable (lo : Lower) (fieldName : String) (fieldInfo : Dict) : Prop where
  sensitive : isSensitiveFieldName lo fieldName = false
  system : isSystemFieldName fieldName = false
  type : fieldTypeOf fieldInfo ∉ heavyTypes

variable {lo : Lower} {fieldName : String} {fieldInfo : Dict}

lemma scoreFieldImportance_essential (h : fieldName ∈ essentialFields) :
    scoreFieldImportance lo fieldName fieldInfo = 1000 := if_pos h

lemma typeScores_le : ∀ p ∈ typeScores, p.2 ≤ 200 := by decide

lemma typeScore_le (fieldType : String) : (typeScores.lookup fieldType).getD 50 ≤ 200 := by
  cases h : typeScores.lookup fieldType with
  | none => simp
  | some n =>
    obtain ⟨l₁, l₂, he, -⟩ := List.lookup_eq_some_iff.1 h
    have hmem : (fieldType, n) ∈ typeScores := by rw [he]; simp
    exact typeScores_le _ hmem

/-- All the bonuses together stay below an essential field. -/
lemma scoreFieldImportance_lt (h : fieldName ∉ essentialFields) :
    scoreFieldImportance lo fieldName fieldInfo < 1000 := by
  unfold scoreFieldImportance
  rw [if_neg h]
  have htype := typeScore_le (((fieldInfo.getOr "type" (.str "")).str?).getD "")
  split_ifs <;> simp <;> omega

lemma presentable_of_score_pos (h : fieldName ∉ essentialFields)
    (hpos : 0 < scoreFieldImportance lo fieldName fieldInfo) : Presentable lo fieldName fieldInfo := by
  unfold scoreFieldImportance at hpos
  rw [if_neg h] at hpos
  have hprefix : ¬ (excludePrefixes.any fun p => startsWith p fieldName) = true := by
    intro hc
    rw [if_pos hc] at hpos
    omega
  rw [if_neg hprefix] at hpos
  have hfield : fieldName ∉ excludeFields := by
    intro hc
    rw [if_pos hc] at hpos
    omega
  rw [if_neg hfield] at hpos
  have hsensitive : ¬ isSensitiveFieldName lo fieldName = true := by
    intro hc
    rw [if_pos hc] at hpos
    omega
  rw [if_neg hsensitive] at hpos
  have htype : (((fieldInfo.getOr "type" (.str "")).str?).getD "") = fieldTypeOf fieldInfo := rfl
  simp only [htype] at hpos
  have hbinary : fieldTypeOf fieldInfo ∉ ["binary", "image", "html"] := by
    intro hc
    rw [if_pos hc] at hpos
    omega
  rw [if_neg hbinary] at hpos
  have hmany : fieldTypeOf fieldInfo ∉ ["one2many", "many2many"] := by
    intro hc
    rw [if_pos hc] at hpos
    omega
  refine ⟨by simpa using hsensitive, ?_, ?_⟩
  · simp only [isSystemFieldName, Bool.or_eq_false_iff, decide_eq_false_iff_not]
    exact ⟨by simpa using hprefix, hfield⟩
  · intro hc
    have hc : fieldTypeOf fieldInfo ∈ ["binary", "image", "html"] ++ ["one2many", "many2many"] := hc
    rcases List.mem_append.1 hc with hc | hc
    · exact hbinary hc
    · exact hmany hc

/-! ### The ranking -/

/-- The fields that score, with their scores. -/
def scoredFields (lo : Lower) (fieldsInfo : Schema) : List (String × ℤ) :=
  (fieldsInfo.map fun p => (p.1, scoreFieldImportance lo p.1 p.2)).filter fun p => 0 < p.2

def rankedFields (lo : Lower) (fieldsInfo : Schema) : List (String × ℤ) :=
  (scoredFields lo fieldsInfo).insertionSort fun p q => q.2 ≤ p.2

/-- The fields of the slice, before the essential ones are appended. -/
def slicedFields (lo : Lower) (fieldsInfo : Schema) (maxFields : ℤ) : List String :=
  (sliceTo maxFields (rankedFields lo fieldsInfo)).map (·.1)

/-- The essential fields that the schema has. -/
def presentEssentials (fieldsInfo : Schema) : List String :=
  essentialFields.filter (· ∈ fieldsInfo.map (·.1))

/-- The other fields that score. -/
def scoringOthers (lo : Lower) (fieldsInfo : Schema) : Schema :=
  fieldsInfo.filter fun p => p.1 ∉ essentialFields && 0 < scoreFieldImportance lo p.1 p.2

variable {fieldsInfo : Schema} {maxFields : ℤ}

lemma rankedFields_perm (lo : Lower) (fieldsInfo : Schema) :
    (rankedFields lo fieldsInfo).Perm (scoredFields lo fieldsInfo) := List.perm_insertionSort _ _

lemma rankedFields_ranked (lo : Lower) (fieldsInfo : Schema) :
    Ranked Prod.snd (rankedFields lo fieldsInfo) := by
  have htrans : IsTrans (String × ℤ) fun p q => q.2 ≤ p.2 := ⟨fun _ _ _ h1 h2 => h2.trans h1⟩
  have htotal : Std.Total fun p q : String × ℤ => q.2 ≤ p.2 := ⟨fun p q => le_total q.2 p.2⟩
  exact List.pairwise_insertionSort _ _

lemma mem_rankedFields {e : String × ℤ} : e ∈ rankedFields lo fieldsInfo ↔
    ∃ p ∈ fieldsInfo, 0 < scoreFieldImportance lo p.1 p.2 ∧ e = (p.1, scoreFieldImportance lo p.1 p.2) := by
  rw [(rankedFields_perm lo fieldsInfo).mem_iff]
  unfold scoredFields
  rw [List.mem_filter, List.mem_map]
  constructor
  · rintro ⟨⟨p, hp, rfl⟩, hpos⟩
    exact ⟨p, hp, of_decide_eq_true hpos, rfl⟩
  · rintro ⟨p, hp, hpos, rfl⟩
    exact ⟨⟨p, hp, rfl⟩, decide_eq_true hpos⟩

lemma rankedFields_names_nodup (hkeys : (fieldsInfo.map (·.1)).Nodup) :
    ((rankedFields lo fieldsInfo).map (·.1)).Nodup := by
  rw [((rankedFields_perm lo fieldsInfo).map _).nodup_iff]
  have hsub : ((scoredFields lo fieldsInfo).map (·.1)).Sublist (fieldsInfo.map (·.1)) := by
    have h := (List.filter_sublist (p := fun p : String × ℤ => decide (0 < p.2))
      (l := fieldsInfo.map fun p => (p.1, scoreFieldImportance lo p.1 p.2))).map (·.1)
    rw [List.map_map] at h
    exact h
  exact hkeys.sublist hsub

/-! ### The slice -/

lemma essentialFields_nodup : essentialFields.Nodup := by decide

lemma mem_presentEssentials {f : String} :
    f ∈ presentEssentials fieldsInfo ↔ f ∈ essentialFields ∧ f ∈ fieldsInfo.map (·.1) := by
  unfold presentEssentials
  rw [List.mem_filter, decide_eq_true_iff]

lemma presentEssentials_nodup : (presentEssentials fieldsInfo).Nodup := essentialFields_nodup.filter _

lemma slicedFields_nodup (hkeys : (fieldsInfo.map (·.1)).Nodup) :
    (slicedFields lo fieldsInfo maxFields).Nodup :=
  (rankedFields_names_nodup hkeys).sublist ((List.take_sublist _ _).map _)

/-- A field of the slice is a field of the schema that scores. -/
lemma mem_slicedFields {f : String} (hf : f ∈ slicedFields lo fieldsInfo maxFields) :
    ∃ p ∈ fieldsInfo, p.1 = f ∧ 0 < scoreFieldImportance lo p.1 p.2 ∧
      (f, scoreFieldImportance lo p.1 p.2) ∈ sliceTo maxFields (rankedFields lo fieldsInfo) := by
  obtain ⟨e, he, rfl⟩ := List.mem_map.1 hf
  obtain ⟨p, hp, hpos, hpe⟩ := mem_rankedFields.1 (List.mem_of_mem_take he)
  subst hpe
  exact ⟨p, hp, rfl, hpos, he⟩

/-- Essential fields come first: the slice has none but those, or it has them all. -/
theorem slicedFields_cases (lo : Lower) (fieldsInfo : Schema) (maxFields : ℤ) :
    (∀ f ∈ slicedFields lo fieldsInfo maxFields, f ∈ essentialFields) ∨
      ∀ f ∈ presentEssentials fieldsInfo, f ∈ slicedFields lo fieldsInfo maxFields := by
  have hclass : ∀ a ∈ rankedFields lo fieldsInfo, ∀ b ∈ rankedFields lo fieldsInfo,
      a.1 ∈ essentialFields → ¬ b.1 ∈ essentialFields → b.2 < a.2 := by
    intro a ha b hb hea heb
    obtain ⟨p, -, -, rfl⟩ := mem_rankedFields.1 ha
    obtain ⟨q, -, -, rfl⟩ := mem_rankedFields.1 hb
    have hp : scoreFieldImportance lo p.1 p.2 = 1000 := scoreFieldImportance_essential hea
    have hq : scoreFieldImportance lo q.1 q.2 < 1000 := scoreFieldImportance_lt heb
    simp only
    omega
  rcases take_class (rankedFields_ranked lo fieldsInfo) hclass with h | h
  · refine Or.inl fun f hf => ?_
    obtain ⟨e, he, rfl⟩ := List.mem_map.1 hf
    exact h e he
  · refine Or.inr fun f hf => ?_
    obtain ⟨hess, hname⟩ := mem_presentEssentials.1 hf
    obtain ⟨p, hp, rfl⟩ := List.mem_map.1 hname
    have hscore : scoreFieldImportance lo p.1 p.2 = 1000 := scoreFieldImportance_essential hess
    have hmem : (p.1, scoreFieldImportance lo p.1 p.2) ∈ rankedFields lo fieldsInfo :=
      mem_rankedFields.2 ⟨p, hp, by omega, rfl⟩
    exact List.mem_map.2 ⟨_, h _ hmem hess, rfl⟩

/-! ### The selection -/

/-- What is appended are the essential fields that the slice has cut off. -/
lemma getSmartDefaultFields_eq (lo : Lower) (fieldsInfo : Schema) (maxFields : ℤ) :
    getSmartDefaultFields lo fieldsInfo maxFields = slicedFields lo fieldsInfo maxFields ++
      essentialFields.filter fun f =>
        f ∈ fieldsInfo.map (·.1) && f ∉ slicedFields lo fieldsInfo maxFields := by
  let present (f : String) : Bool := f ∈ fieldsInfo.map (·.1)
  exact foldl_append_missing present essentialFields_nodup (slicedFields lo fieldsInfo maxFields)

lemma mem_getSmartDefaultFields {f : String} : f ∈ getSmartDefaultFields lo fieldsInfo maxFields ↔
    f ∈ slicedFields lo fieldsInfo maxFields ∨ f ∈ presentEssentials fieldsInfo := by
  rw [getSmartDefaultFields_eq, List.mem_append, List.mem_filter, mem_presentEssentials]
  by_cases hf : f ∈ slicedFields lo fieldsInfo maxFields <;> simp [hf]

lemma getSmartDefaultFields_nodup (hkeys : (fieldsInfo.map (·.1)).Nodup) :
    (getSmartDefaultFields lo fieldsInfo maxFields).Nodup := by
  rw [getSmartDefaultFields_eq]
  refine (slicedFields_nodup hkeys).append (essentialFields_nodup.filter _) fun f hf hf' => ?_
  have hcut := (List.mem_filter.1 hf').2
  simp [hf] at hcut

/-- A selected field that is not essential comes from the slice. -/
lemma mem_slicedFields_of_other {f : String} (hf : f ∈ getSmartDefaultFields lo fieldsInfo maxFields)
    (hess : f ∉ essentialFields) : f ∈ slicedFields lo fieldsInfo maxFields := by
  rcases mem_getSmartDefaultFields.1 hf with h | h
  · exact h
  · exact absurd (mem_presentEssentials.1 h).1 hess

/-- **The number of fields**: those of the slice, or the essential ones when these are more. -/
theorem length_getSmartDefaultFields (hkeys : (fieldsInfo.map (·.1)).Nodup) :
    (getSmartDefaultFields lo fieldsInfo maxFields).length =
      max (presentEssentials fieldsInfo).length (slicedFields lo fieldsInfo maxFields).length := by
  have hnodup : (slicedFields lo fieldsInfo maxFields).Nodup := slicedFields_nodup hkeys
  rcases slicedFields_cases lo fieldsInfo maxFields with h | h
  · have hsub : slicedFields lo fieldsInfo maxFields ⊆ presentEssentials fieldsInfo := by
      intro f hf
      obtain ⟨p, hp, rfl, -⟩ := mem_slicedFields hf
      exact mem_presentEssentials.2 ⟨h _ hf, List.mem_map_of_mem hp⟩
    have hperm : (getSmartDefaultFields lo fieldsInfo maxFields).Perm (presentEssentials fieldsInfo) := by
      refine (List.perm_ext_iff_of_nodup (getSmartDefaultFields_nodup hkeys) presentEssentials_nodup).2 ?_
      intro f
      rw [mem_getSmartDefaultFields]
      exact ⟨fun hf => hf.elim (fun hf => hsub hf) id, Or.inr⟩
    have hle := hnodup.length_le_of_subset hsub
    rw [hperm.length_eq]
    omega
  · have hnone : essentialFields.filter (fun f =>
        f ∈ fieldsInfo.map (·.1) && f ∉ slicedFields lo fieldsInfo maxFields) = [] := by
      refine List.filter_eq_nil_iff.2 fun f hf hc => ?_
      simp only [Bool.and_eq_true, decide_eq_true_eq] at hc
      exact hc.2 (h f (mem_presentEssentials.2 ⟨hf, hc.1⟩))
    have hle := presentEssentials_nodup.length_le_of_subset h
    rw [getSmartDefaultFields_eq, hnone, List.append_nil]
    omega

/-! ### The size bound -/

lemma length_rankedFields (hkeys : (fieldsInfo.map (·.1)).Nodup) :
    (rankedFields lo fieldsInfo).length =
      (presentEssentials fieldsInfo).length + (scoringOthers lo fieldsInfo).length := by
  let scores (p : String × Dict) : Bool := 0 < scoreFieldImportance lo p.1 p.2
  let essential (p : String × Dict) : Bool := p.1 ∈ essentialFields
  have hranked : (rankedFields lo fieldsInfo).length = (fieldsInfo.filter scores).length := by
    rw [(rankedFields_perm lo fieldsInfo).length_eq, scoredFields, List.filter_map, List.length_map]
    rfl
  have hessential : (fieldsInfo.filter scores).filter essential = fieldsInfo.filter essential := by
    rw [List.filter_filter]
    refine List.filter_congr fun p _ => ?_
    by_cases hp : p.1 ∈ essentialFields
    · simp [essential, scores, hp, scoreFieldImportance_essential hp]
    · simp [essential, hp]
  have hothers : (fieldsInfo.filter scores).filter (fun p => !essential p) = scoringOthers lo fieldsInfo := by
    rw [List.filter_filter, scoringOthers]
    refine List.filter_congr fun p _ => ?_
    simp [essential, scores]
  have hnames : ((fieldsInfo.filter essential).map (·.1)).Perm (presentEssentials fieldsInfo) := by
    have hnodup : ((fieldsInfo.filter essential).map (·.1)).Nodup :=
      hkeys.sublist (List.filter_sublist.map _)
    refine (List.perm_ext_iff_of_nodup hnodup presentEssentials_nodup).2 fun f => ?_
    rw [mem_presentEssentials, List.mem_map, List.mem_map]
    constructor
    · rintro ⟨p, hp, rfl⟩
      obtain ⟨hp, he⟩ := List.mem_filter.1 hp
      exact ⟨of_decide_eq_true he, p, hp, rfl⟩
    · rintro ⟨he, p, hp, rfl⟩
      exact ⟨p, List.mem_filter.2 ⟨hp, decide_eq_true he⟩, rfl⟩
  have hlen := hnames.length_eq
  rw [List.length_map] at hlen
  rw [hranked, List.length_eq_length_filter_add essential, hessential, hothers, hlen]

lemma length_slicedFields : (slicedFields lo fieldsInfo maxFields).length =
    min (if 0 ≤ maxFields then maxFields else (rankedFields lo fieldsInfo).length + maxFields).toNat
      (rankedFields lo fieldsInfo).length := by
  unfold slicedFields sliceTo
  rw [List.length_map, List.length_take]

/-- The slice keeps the bound exactly when `max_fields` is no negative number that leaves some of the
other fields in. -/
lemma size_iff (hkeys : (fieldsInfo.map (·.1)).Nodup) :
    ((getSmartDefaultFields lo fieldsInfo maxFields).length : ℤ) ≤
        max maxFields (presentEssentials fieldsInfo).length ↔
      0 ≤ maxFields ∨ (scoringOthers lo fieldsInfo).length ≤ -maxFields := by
  rw [length_getSmartDefaultFields hkeys, length_slicedFields, length_rankedFields hkeys]
  by_cases h : 0 ≤ maxFields
  · rw [if_pos h]
    omega
  · rw [if_neg h]
    omega

/-! ### The selection as a whole -/

/-- What the default selection of a schema should be. -/
structure SmartDefaults (lo : Lower) (fieldsInfo : Schema) (maxFields : ℤ) (selected : List String) : Prop where
  nodup : selected.Nodup
  known : ∀ f ∈ selected, f ∈ fieldsInfo.map (·.1)
  essential : ∀ f ∈ presentEssentials fieldsInfo, f ∈ selected
  size : (selected.length : ℤ) ≤ max maxFields (presentEssentials fieldsInfo).length
  presentable : ∀ p ∈ fieldsInfo, p.1 ∈ selected → p.1 ∉ essentialFields → Presentable lo p.1 p.2
  best : ∀ p ∈ fieldsInfo, ∀ q ∈ fieldsInfo, p.1 ∈ selected → p.1 ∉ essentialFields → q.1 ∉ selected →
    0 < scoreFieldImportance lo q.1 q.2 → scoreFieldImportance lo q.1 q.2 ≤ scoreFieldImportance lo p.1 p.2

/-- A field that is selected without being essential scores, and is in the slice with its score. -/
lemma sliced_of_selected (hkeys : (fieldsInfo.map (·.1)).Nodup) {p : String × Dict} (hp : p ∈ fieldsInfo)
    (hsel : p.1 ∈ getSmartDefaultFields lo fieldsInfo maxFields) (hess : p.1 ∉ essentialFields) :
    0 < scoreFieldImportance lo p.1 p.2 ∧
      (p.1, scoreFieldImportance lo p.1 p.2) ∈ sliceTo maxFields (rankedFields lo fieldsInfo) := by
  obtain ⟨p', hp', hname, hpos, hin⟩ := mem_slicedFields (mem_slicedFields_of_other hsel hess)
  obtain rfl : p' = p := List.inj_on_of_nodup_map hkeys hp' hp hname
  exact ⟨hpos, hin⟩

/-- **The smart defaults**: the selection is what it should be if and only if `max_fields` is not
negative, or so much below zero that the slice leaves none of the other fields. -/
theorem getSmartDefaultFields_iff (lo : Lower) (fieldsInfo : Schema)
    (hkeys : (fieldsInfo.map (·.1)).Nodup) (maxFields : ℤ) :
    SmartDefaults lo fieldsInfo maxFields (getSmartDefaultFields lo fieldsInfo maxFields) ↔
      0 ≤ maxFields ∨ (scoringOthers lo fieldsInfo).length ≤ -maxFields := by
  rw [← size_iff hkeys]
  refine ⟨fun h => h.size, fun hsize => ⟨getSmartDefaultFields_nodup hkeys, ?_, ?_, hsize, ?_, ?_⟩⟩
  · intro f hf
    rcases mem_getSmartDefaultFields.1 hf with h | h
    · obtain ⟨p, hp, rfl, -⟩ := mem_slicedFields h
      exact List.mem_map_of_mem hp
    · exact (mem_presentEssentials.1 h).2
  · exact fun f hf => mem_getSmartDefaultFields.2 (Or.inr hf)
  · intro p hp hsel hess
    exact presentable_of_score_pos hess (sliced_of_selected hkeys hp hsel hess).1
  · intro p hp q hq hsel hess hq' hpos
    obtain ⟨-, hin⟩ := sliced_of_selected hkeys hp hsel hess
    -- a field that is left out is not in the slice either
    have hout : (q.1, scoreFieldImportance lo q.1 q.2) ∉ sliceTo maxFields (rankedFields lo fieldsInfo) :=
      fun hq'' => hq' (mem_getSmartDefaultFields.2 (Or.inl (List.mem_map.2 ⟨_, hq'', rfl⟩)))
    exact key_le_of_take (rankedFields_ranked lo fieldsInfo) hin (mem_rankedFields.2 ⟨q, hq, hpos, rfl⟩) hout

def twoCharFields : Schema :=
  [("title", [("type", .str "char")]), ("reason", [("type", .str "char")])]

theorem getSmartDefaultFields_two :
    SmartDefaults asciiLower twoCharFields 1 (getSmartDefaultFields asciiLower twoCharFields 1) :=
  (getSmartDefaultFields_iff asciiLower twoCharFields (by decide) 1).2 (Or.inl (by decide))

/-- At most -1 fields: one is shown. -/
theorem negative_max_fields_unbounded :
    ¬ SmartDefaults asciiLower twoCharFields (-1) (getSmartDefaultFields asciiLower twoCharFields (-1)) := by
  intro h
  have hsize := h.size
  revert hsize
  decide

end AdvMcp.Read
