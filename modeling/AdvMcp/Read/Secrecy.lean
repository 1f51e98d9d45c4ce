import AdvMcp.Read.Silence

/-!
# Secrets in the results of the read tools

A cell is *hidden* from a call when the name of its field looks like a secret and the caller does not
list it.  The call keeps the secrets when its result, text and data, would be the same whatever the
hidden cells held.

* `ReadCall.KeepsSecrets` — that property;
* `Inlined` — a related record that `get` reads in full and puts into its result;
* `ReadCall.Filtered` — no such record has a hidden field; and `compare` has a list of fields, or one record
  to compare with itself, or no sensitive field to read.

`keepsSecrets_iff` says that a call that returns keeps the secrets if and only if it is filtered.
-/

namespace AdvMcp.Read

open AdvMcp.Lib AdvMcp.Py AdvMcp.Access

/-! ### What is hidden from a call -/

/-- The field names that the caller lists. -/
def listedFields (py : Builtins) (fields : Value) : List String :=
  match coerceFields py fields with
  | .ok (some names) => names.filterMap Value.str?
  | _ => []

def ReadCall.listed (py : Builtins) : ReadCall → List String
  | .get _ _ fields _ => listedFields py fields
  | .search _ _ _ fields _ _ _ => listedFields py fields
  | .compare _ _ _ fields => listedFields py fields
  | .explain _ _ => []

/-- A name that looks like a secret, and is not listed. -/
def IsHidden (py : Builtins) (listed : List String) (name : String) : Prop :=
  isSensitiveFieldName py.lower name = true ∧ name ∉ listed

/-- Whatever the cells with hidden names hold, the call has the same result. -/
def ReadCall.KeepsSecrets (py : Builtins) (env : Env) (call : ReadCall) : Prop :=
  Silent (fun c : Cell => IsHidden py (call.listed py) c.field)
    (fun value => call.run py (env.withValue value)) env.value

/-- `get` reads the related record `relId` of `rel` in full and puts it into its result, in the place of
the field `name` of the record `i`. -/
structure Inlined (py : Builtins) (env : Env) (model : String) (i : ℤ) (selection : Selection)
    (name rel : String) (relId : ℤ) : Prop where
  read : ∃ names, env.fieldNames model selection.toRead = .ok names ∧ name ∈ names
  name_ne : name ≠ "id"
  kept : selection.isExplicit = true ∨ isSensitiveFieldName py.lower name = false
  inlines : Inlines py env (env.fieldsGet model schemaFieldAttributes) name (env.value ⟨model, i, name⟩)
    rel relId

/-- No field of the database reaches the result without a filter. -/
def ReadCall.Filtered (py : Builtins) (env : Env) : ReadCall → Prop
  | .get model recordId fields depth => ∀ i d selection, py.int recordId = .ok i → depth.truthy = true →
      py.int depth = .ok d → 2 ≤ d →
      resolveFields py env fields (env.fieldsGet model schemaFieldAttributes) = .ok selection →
      ∀ name rel relId, Inlined py env model i selection name rel relId →
        ∀ f ∈ env.readable rel, ¬ IsHidden py (listedFields py fields) f
  | .search .. => True
  | .compare model recordIdA recordIdB fields => coerceFields py fields ≠ .ok none ∨
      py.int recordIdA = py.int recordIdB ∨
      ∀ f ∈ env.readable model, isSensitiveFieldName py.lower f = false
  | .explain .. => True

/-! ### Listed fields -/

section Listed

variable {py : Builtins} {env : Env} {model : String} {fields : Value}

lemma visible_isHidden (listed : List String) :
    Visible py.lower fun c : Cell => IsHidden py listed c.field := by
  intro c hc hh
  rw [hh.1] at hc
  cases hc

lemma fieldList_ne {v : Value} {names : List Value} (h : fieldList v = .ok (some names)) : names ≠ [] := by
  unfold fieldList at h
  split at h
  · cases h
  · rename_i hne
    obtain rfl := Option.some.inj (Except.ok.inj h)
    rintro rfl
    exact hne rfl
  · cases h

lemma coerceFields_ne {names : List Value} (h : coerceFields py fields = .ok (some names)) : names ≠ [] := by
  unfold coerceFields at h
  split at h
  · cases h
  · simp only at h
    split_ifs at h
    · cases h
    · obtain ⟨v, -, hl⟩ := except_bind_ok.1 h
      exact fieldList_ne hl
  · exact fieldList_ne h

/-- Of a list of fields, the names that are read are listed. -/
lemma listed_of_mem {names : List Value} (hc : coerceFields py fields = .ok (some names)) {read : List String}
    (hr : env.fieldNames model (some names) = .ok read) {n : String} (hn : n ∈ read) :
    n ∈ listedFields py fields := by
  have hne := coerceFields_ne hc
  unfold listedFields
  rw [hc]
  obtain ⟨x, xs, rfl⟩ := List.exists_cons_of_ne_nil hne
  unfold Env.fieldNames at hr
  obtain ⟨v, hv, hvn⟩ := mapM_mem hr hn
  refine List.mem_filterMap.2 ⟨v, hv, ?_⟩
  cases hs : v.str? with
  | none => rw [hs] at hvn; cases hvn
  | some m => rw [hs] at hvn; exact congrArg some (Except.ok.inj hvn)

lemma resolveFields_explicit {schema : Schema} {selection : Selection}
    (h : resolveFields py env fields schema = .ok selection) (he : selection.isExplicit = true) :
    ∃ names, coerceFields py fields = .ok (some names) ∧ selection = .explicit names := by
  unfold resolveFields at h
  obtain ⟨names, hc, h⟩ := except_bind_ok.1 h
  split at h
  · obtain rfl := except_pure_ok.1 h
    cases he
  · rename_i name
    split_ifs at h
    · obtain rfl := except_pure_ok.1 h
      cases he
    · exact ⟨_, hc, (except_pure_ok.1 h).symm⟩
  · exact ⟨_, hc, (except_pure_ok.1 h).symm⟩

/-- What the caller lists is not hidden. -/
lemma selection_visible {schema : Schema} {selection : Selection}
    (h : resolveFields py env fields schema = .ok selection) :
    selection.Visible env (fun c => IsHidden py (listedFields py fields) c.field) model := by
  intro he read hr n hn i hh
  obtain ⟨names, hc, rfl⟩ := resolveFields_explicit h he
  exact hh.2 (listed_of_mem hc hr hn)

end Listed

/-! ### The record that `get` expands -/

section Record

variable {py : Builtins} {env : Env} {model : String}

lemma readOne_ok {i : ℤ} {fields : Option (List Value)} {rows : List Dict} {data : Dict}
    (hr : env.read model [i] fields = .ok rows) (hf : firstRow rows = .ok data) :
    ∃ names, env.fieldNames model fields = .ok names ∧ data = env.row model names i := by
  unfold Env.read at hr
  obtain ⟨names, hn, hr⟩ := except_bind_ok.1 hr
  obtain ⟨_, _, hr⟩ := except_bind_ok.1 hr
  obtain rfl := except_pure_ok.1 hr
  refine ⟨names, hn, ?_⟩
  by_cases hp : env.present model i = true
  · rw [filter_present hp] at hf
    exact (Except.ok.inj hf).symm
  · rw [filter_absent hp] at hf
    cases hf

lemma browse_ok {recordId : Value} {i : ℤ} (h : browseRecordOrRaise py env model recordId = .ok i) :
    py.int recordId = .ok i := by
  unfold browseRecordOrRaise at h
  obtain ⟨j, hj, h⟩ := except_bind_ok.1 h
  split_ifs at h
  rw [hj, except_pure_ok.1 h]

lemma mem_keptFields {selection : Selection} {data : Dict} {p : String × Value} :
    p ∈ keptFields py selection data ↔
      p ∈ data ∧ (selection.isExplicit = true ∨ isSensitiveFieldName py.lower p.1 = false) := by
  unfold keptFields dropSensitive
  split_ifs with he
  · simp [he]
  · simp [he]

lemma mem_set {d : Dict} {key : String} {v : Value} {p : String × Value} (h : p ∈ d.set key v) :
    p ∈ d ∨ p.2 = v := by
  unfold Dict.set at h
  split_ifs at h
  · obtain ⟨q, hq, rfl⟩ := List.mem_map.1 h
    split_ifs
    · exact Or.inr rfl
    · exact Or.inl hq
  · rcases List.mem_append.1 h with h | h
    · exact Or.inl h
    · rw [List.mem_singleton.1 h]
      exact Or.inr rfl

lemma mem_set_of_ne {d : Dict} {key : String} {v : Value} {p : String × Value} (h : p ∈ d) (hne : p.1 ≠ key) :
    p ∈ d.set key v := by
  unfold Dict.set
  split_ifs
  · exact List.mem_map.2 ⟨p, h, by simp [hne]⟩
  · exact List.mem_append.2 (Or.inl h)

/-- The swap turns binary fields into texts and leaves the others. -/
lemma swap_mem {i : ℤ} {names : List String} {shown shown' : Dict × Schema}
    (h : names.foldlM (swapBinaryUri py model i) shown = .ok shown') (p : String × Value) :
    (p ∈ shown'.1 → p ∈ shown.1 ∨ ∃ s, p.2 = .str s) ∧ (p ∈ shown.1 → p.1 ∉ names → p ∈ shown'.1) := by
  induction names generalizing shown with
  | nil =>
    obtain rfl := except_pure_ok.1 h
    exact ⟨Or.inl, fun hp _ => hp⟩
  | cons name names ih =>
    rw [List.foldlM_cons] at h
    obtain ⟨mid, hm, h⟩ := except_bind_ok.1 h
    obtain ⟨ih₁, ih₂⟩ := ih h
    have hstep : (p ∈ mid.1 → p ∈ shown.1 ∨ ∃ s, p.2 = .str s) ∧ (p ∈ shown.1 → p.1 ≠ name → p ∈ mid.1) := by
      unfold swapBinaryUri at hm
      split_ifs at hm
      · obtain ⟨uri, -, hm⟩ := except_bind_ok.1 hm
        obtain rfl := except_pure_ok.1 hm
        refine ⟨fun hp => ?_, fun hp hne => mem_set_of_ne hp hne⟩
        rcases mem_set hp with hp | hp
        · exact Or.inl hp
        · exact Or.inr ⟨uri, hp⟩
      · obtain rfl := Except.ok.inj hm
        exact ⟨Or.inl, fun hp _ => hp⟩
    constructor
    · intro hp
      rcases ih₁ hp with hp | hs
      · exact hstep.1 hp
      · exact Or.inr hs
    · intro hp hn
      have hne : p.1 ≠ name ∧ p.1 ∉ names := by simpa using hn
      exact ih₂ (hstep.2 hp hne.1) hne.2

/-- The record that is fetched: the row that was read, with the binary fields swapped. -/
lemma fetchRecord_ok {recordId : Value} {selection : Selection} {schema : Schema} {shown : Dict × Schema}
    (h : fetchRecord py env model recordId selection schema = .ok shown) :
    ∃ i names, py.int recordId = .ok i ∧ env.fieldNames model selection.toRead = .ok names ∧
      swapBinaryUris py model i (keptFields py selection (env.row model names i)) schema = .ok shown := by
  unfold fetchRecord at h
  obtain ⟨i, hi, h⟩ := except_bind_ok.1 h
  obtain ⟨rows, hr, h⟩ := except_bind_ok.1 h
  obtain ⟨row, hf, h⟩ := except_bind_ok.1 h
  obtain ⟨names, hn, rfl⟩ := readOne_ok hr hf
  exact ⟨i, names, browse_ok hi, hn, h⟩

/-- The fields of the record that depth expansion replaces by related records are the inlined ones. -/
lemma fetchRecord_inlined {recordId : Value} {selection : Selection} {data : Dict} {renderMeta : Schema}
    (h : fetchRecord py env model recordId selection (env.fieldsGet model schemaFieldAttributes) =
      .ok (data, renderMeta)) :
    ∃ i, py.int recordId = .ok i ∧ ∀ name rel relId, Inlined py env model i selection name rel relId ↔
      ∃ val, (name, val) ∈ data ∧
        Inlines py env (env.fieldsGet model schemaFieldAttributes) name val rel relId := by
  obtain ⟨i, names, hi, hn, h⟩ := fetchRecord_ok h
  refine ⟨i, hi, fun name rel relId => ?_⟩
  constructor
  · rintro ⟨⟨names', hn', hmem⟩, hne, hk, hin⟩
    obtain rfl : names = names' := Except.ok.inj (hn.symm.trans hn')
    refine ⟨_, (swap_mem h _).2 (mem_keptFields.2 ⟨mem_row.2 (Or.inr ⟨hmem, hne, rfl⟩), hk⟩) ?_, hin⟩
    -- a many2one is not binary
    intro hb
    have hb' := (List.mem_filter.1 hb).2
    simp only [hin.many2one] at hb'
    exact absurd hb' (by decide)
  · rintro ⟨val, hmem, hin⟩
    have hlist : ∃ xs, val = .list xs := by
      have hp := hin.pair
      cases val with
      | list xs => exact ⟨xs, rfl⟩
      | _ => simp [Value.items] at hp
    obtain ⟨xs, rfl⟩ := hlist
    rcases (swap_mem h _).1 hmem with hk | ⟨s, hs⟩
    · obtain ⟨hrow, hk⟩ := mem_keptFields.1 hk
      rcases mem_row.1 hrow with hid | ⟨hname, hne, hval⟩
      · cases hid
      · refine ⟨⟨names, hn, hname⟩, hne, hk, ?_⟩
        rw [← hval]
        exact hin
    · cases hs

/-- What stands in the place of an inlined record. -/
lemma expandRelation_inlines {schema : Schema} {name rel : String} {val : Value} {relId depth : ℤ}
    (h : Inlines py env schema name val rel relId) (hd : 2 ≤ depth) :
    expandRelation py env schema depth (name, val) =
      .ok (name, .dict (env.row rel (env.readable rel) relId)) := by
  obtain ⟨ht, hp, hf, hop, hr, hpr⟩ := h
  have hread : env.read rel [relId] none = .ok [env.row rel (env.readable rel) relId] := by
    show (orRaise (env.checkRead rel [relId] (env.readable rel)) >>= fun _ =>
      pure (([relId].filter (env.present rel)).map (env.row rel (env.readable rel)))) = _
    rw [hr, filter_present hpr]
    rfl
  have hin : inlineRelated py env rel relId val depth =
      .ok (.dict (env.row rel (env.readable rel) relId)) := by
    have hd1 : depth ≠ 1 := by omega
    unfold inlineRelated
    rw [hop, if_neg hd1, hread]
    rfl
  cases val with
  | list xs =>
    match xs with
    | x :: y :: rest =>
      unfold expandRelation
      simp only [ht, ne_eq, not_true_eq_false, if_false, hf, hin]
  | _ => simp [Value.items] at hp

lemma expandDepth_mapM {data : Dict} {schema : Schema} {depth : Value} {d : ℤ} (ht : depth.truthy = true)
    (hd : py.int depth = .ok d) (h0 : 0 < d) :
    expandDepth py env data schema depth = data.mapM (expandRelation py env schema d) := by
  have hpos : ¬ d ≤ 0 := by omega
  unfold expandDepth expandRelations
  rw [if_pos ht, hd]
  exact if_neg hpos

end Record

/-! ### `get` -/

section Get

variable {py : Builtins} {env : Env} {hidden : Cell → Prop} {model : String} {recordId fields depth : Value}

lemma result_inj {t t' : String} {s s' : Value} (h : result t s = result t' s') : t = t' ∧ s = s' := by
  simpa [result] using h

lemma fetchStructured_inj {selection : Selection} {schema : Schema} {d d' : Dict}
    (h : fetchStructured selection schema d = fetchStructured selection schema d') : d = d' := by
  unfold fetchStructured at h
  have hl := List.head_eq_of_cons_eq (Value.dict.inj h)
  exact Value.dict.inj (Prod.mk.inj hl).2

lemma fetch_ok {r : Value} (h : fetch py env model recordId fields depth = .ok r) :
    ∃ selection data renderMeta data' text,
      resolveFields py env fields (env.fieldsGet model schemaFieldAttributes) = .ok selection ∧
      fetchRecord py env model recordId selection (env.fieldsGet model schemaFieldAttributes) =
        .ok (data, renderMeta) ∧
      expandDepth py env data (env.fieldsGet model schemaFieldAttributes) depth = .ok data' ∧
      r = result text (fetchStructured selection (env.fieldsGet model schemaFieldAttributes) data') := by
  unfold fetch at h
  simp only [except_bind_ok, except_pure_ok] at h
  obtain ⟨_, _, _, _, selection, hs, ⟨data, renderMeta⟩, hd, data', hd', text, _, rfl⟩ := h
  exact ⟨selection, data, renderMeta, data', text, hs, hd, hd', rfl⟩

lemma fetch_silent (hv : Visible py.lower hidden)
    (hl : ∀ selection,
      resolveFields py env fields (env.fieldsGet model schemaFieldAttributes) = .ok selection →
      selection.Visible env hidden model)
    (hin : ∀ i d selection, py.int recordId = .ok i → depth.truthy = true → py.int depth = .ok d → 2 ≤ d →
      resolveFields py env fields (env.fieldsGet model schemaFieldAttributes) = .ok selection →
      ∀ name rel relId, Inlined py env model i selection name rel relId →
        ∀ f ∈ env.readable rel, ¬ hidden ⟨rel, relId, f⟩) :
    Silent hidden (fun v => fetch py (env.withValue v) model recordId fields depth) env.value := by
  unfold fetch
  simp only [resolveModel_withValue, checkOp_withValue, resolveFields_withValue, Env.withValue_fieldsGet]
  apply checks_silent
  refine Silent.bind (Silent.const _) fun selection hs => ?_
  refine Silent.bind (fetchRecord_silent hv (hl selection hs)) ?_
  rintro ⟨data, renderMeta⟩ hd
  obtain ⟨i, hi, hiff⟩ := fetchRecord_inlined hd
  refine Silent.bind (expandDepth_silent hv ?_) fun data' _ => ?_
  · intro d ht hdepth h2 p hp rel relId hp'
    exact hin i d selection hi ht hdepth h2 hs p.1 rel relId ((hiff _ _ _).2 ⟨p.2, hp, hp'⟩)
  · exact Silent.bind (fetchText_silent hv) fun _ _ => Silent.const _

lemma exists_ne_value (v : Value) : ∃ w, w ≠ v := by
  by_cases h : v = .none
  · exact ⟨.bool true, by simp [h]⟩
  · exact ⟨.none, Ne.symm h⟩

/-- **A hidden field of an inlined record shows** in the result of `get`. -/
theorem fetch_leaks (hv : Visible py.lower hidden) {selection : Selection}
    (hs : resolveFields py env fields (env.fieldsGet model schemaFieldAttributes) = .ok selection)
    (hl : selection.Visible env hidden model) {i d : ℤ} (hi : py.int recordId = .ok i)
    (ht : depth.truthy = true) (hd : py.int depth = .ok d) (h2 : 2 ≤ d) {name rel : String} {relId : ℤ}
    (hin : Inlined py env model i selection name rel relId) {f : String} (hf : f ∈ env.readable rel)
    (hh : hidden ⟨rel, relId, f⟩) {r : Value} (hr : fetch py env model recordId fields depth = .ok r) :
    ¬ Silent hidden (fun v => fetch py (env.withValue v) model recordId fields depth) env.value := by
  obtain ⟨a, ha⟩ := exists_ne_value (env.value ⟨rel, relId, f⟩)
  refine not_silent_of hh (a := a) fun heq => ha ?_
  have hr' : fetch py (env.withValue (Function.update env.value ⟨rel, relId, f⟩ a)) model recordId fields
      depth = .ok r := heq.trans hr
  generalize hv' : Function.update env.value ⟨rel, relId, f⟩ a = value' at hr'
  have hagree : Agree hidden env.value value' := hv' ▸ agree_update hh a
  -- both runs expand the same record, and to the same data
  obtain ⟨sel, data, renderMeta, data₁, text₁, hs₁, hrec₁, hexp₁, rfl⟩ := fetch_ok hr
  obtain ⟨sel', data', renderMeta', data₂, text₂, hs₂, hrec₂, hexp₂, hres⟩ := fetch_ok hr'
  obtain rfl : selection = sel := Except.ok.inj (hs.symm.trans hs₁)
  obtain rfl : selection = sel' := Except.ok.inj (hs.symm.trans hs₂)
  obtain rfl : data₁ = data₂ := fetchStructured_inj (result_inj hres).2
  have hrec : fetchRecord py (env.withValue value') model recordId selection
      (env.fieldsGet model schemaFieldAttributes) = .ok (data, renderMeta) :=
    (fetchRecord_silent hv hl value' hagree).trans hrec₁
  obtain ⟨rfl, -⟩ : data' = data ∧ renderMeta' = renderMeta :=
    Prod.mk.inj (Except.ok.inj (hrec₂.symm.trans hrec))
  -- so the inlined row is the same
  obtain ⟨j, hj, hiff⟩ := fetchRecord_inlined hrec₁
  obtain rfl : i = j := Except.ok.inj (hi.symm.trans hj)
  obtain ⟨val, hmem, hinl⟩ := (hiff name rel relId).1 hin
  have hpos : 0 < d := by omega
  have hmap₁ := (expandDepth_mapM ht hd hpos).symm.trans hexp₁
  have hmap₂ := (expandDepth_mapM ht hd hpos).symm.trans hexp₂
  have hrow := mapM_agree hmap₁ hmap₂ hmem
  have hinl' : Inlines py (env.withValue value') (env.fieldsGet model schemaFieldAttributes) name val rel
      relId := ⟨hinl.1, hinl.2, hinl.3, hinl.4, hinl.5, hinl.6⟩
  rw [expandRelation_inlines hinl h2, Env.withValue_fieldsGet, expandRelation_inlines hinl' h2] at hrow
  have hdict := Value.dict.inj (Prod.mk.inj (Except.ok.inj hrow)).2
  have hid : f ≠ "id" := by
    rintro rfl
    exact hv.own (by decide) _ _ hh
  have hget : (env.row rel (env.readable rel) relId).get f =
      ((env.withValue value').row rel (env.readable rel) relId).get f := congrArg (Dict.get · f) hdict
  rw [row_get hf hid, row_get hf hid, Env.withValue_value, ← hv', Function.update_self] at hget
  exact hget.symm

end Get

/-! ### `compare` -/

section Compare

variable {py : Builtins} {env : Env} {hidden : Cell → Prop} {model : String}
  {recordIdA recordIdB fields : Value}

lemma compare_ok {r : Value} (h : compare py env model recordIdA recordIdB fields = .ok r) :
    ∃ i j toRead names, py.int recordIdA = .ok i ∧ py.int recordIdB = .ok j ∧
      coerceFields py fields = .ok toRead ∧ env.fieldNames model toRead = .ok names ∧
      ∃ text, r = result text (compareStructured model recordIdA recordIdB
        (diffsOf py (env.row model names i) (env.row model names j))) := by
  unfold compare at h
  simp only [except_bind_ok, except_pure_ok] at h
  obtain ⟨_, _, _, _, i, hi, j, hj, toRead, hc, rowsA, hA, dataA, hfA, rowsB, hB, dataB, hfB, rfl⟩ := h
  obtain ⟨names, hn, rfl⟩ := readOne_ok hA hfA
  obtain ⟨names', hn', rfl⟩ := readOne_ok hB hfB
  obtain rfl : names = names' := Except.ok.inj (hn.symm.trans hn')
  exact ⟨i, j, toRead, names, browse_ok hi, browse_ok hj, hc, hn, _, rfl⟩

/-- A record does not differ from itself. -/
lemma diffsOf_self (data : Dict) : diffsOf py data data = [] := by
  unfold diffsOf
  simp [py.eq_refl]

/-- The fields that are compared and differ. -/
lemma mem_diffsOf {dataA dataB : Dict} {k : String} :
    k ∈ (diffsOf py dataA dataB).map (·.1) ↔
      k ∈ dataA.map (·.1) ∧ dataB.has k = true ∧ k ≠ "id" ∧ py.eq (dataA.get k) (dataB.get k) = false := by
  unfold diffsOf
  simp only [List.map_map, Function.comp_def, List.map_id', List.mem_filter, List.mem_insertionSort,
    Bool.and_eq_true, Bool.not_eq_true', decide_eq_true_eq, and_assoc]

lemma compareStructured_inj {diffs diffs' : List (String × Value × Value)}
    (h : compareStructured model recordIdA recordIdB diffs = compareStructured model recordIdA recordIdB diffs') :
    diffs.map (·.1) = diffs'.map (·.1) := by
  unfold compareStructured at h
  have hd := Value.dict.inj (Prod.mk.inj (List.head_eq_of_cons_eq (Value.dict.inj h))).2
  simpa [Function.comp_def] using congrArg (List.map Prod.fst) hd

/-- **`compare` is silent** when the fields that it reads are visible, and of a record and itself. -/
theorem compare_silent
    (h : py.int recordIdA = py.int recordIdB ∨ ∀ toRead names, coerceFields py fields = .ok toRead →
      env.fieldNames model toRead = .ok names → ∀ n ∈ names, ∀ i, ¬ hidden ⟨model, i, n⟩) :
    Silent hidden (fun v => compare py (env.withValue v) model recordIdA recordIdB fields) env.value := by
  unfold compare
  simp only [resolveModel_withValue, checkOp_withValue, browseRecordOrRaise_withValue]
  apply checks_silent
  refine Silent.bind (Silent.const _) fun i hi => ?_
  refine Silent.bind (Silent.const _) fun j hj => ?_
  refine Silent.bind (Silent.const _) fun toRead hc => ?_
  refine readOne_silent fun names hn => readOne_silent fun names' hn' => ?_
  obtain rfl : names = names' := Except.ok.inj (hn.symm.trans hn')
  rcases h with hsame | hvis
  · have hij : i = j := Except.ok.inj ((browse_ok hi).symm.trans (hsame.trans (browse_ok hj)))
    subst hij
    simp only [diffsOf_self]
    exact Silent.const _
  · exact Silent.map₂
      (fun dataA dataB => pure (result
        (compareText py model recordIdA recordIdB (diffsOf py dataA dataB))
        (compareStructured model recordIdA recordIdB (diffsOf py dataA dataB))))
      (row_silent fun n hmem => hvis toRead names hc hn n hmem i)
      (row_silent fun n hmem => hvis toRead names hc hn n hmem j)

/-- A value can be changed so that it compares otherwise. -/
lemma exists_eq_ne (v w : Value) : ∃ a, py.eq a w ≠ py.eq v w := by
  by_cases h : py.eq v w = true
  · have hs : ∃ s, w ≠ .str s := by
      by_cases hw : w = .str ""
      · exact ⟨"a", by simp [hw]⟩
      · exact ⟨"", hw⟩
    obtain ⟨s, hs⟩ := hs
    refine ⟨.str s, fun he => hs ?_⟩
    rw [h] at he
    exact (py.eq_str s w).1 he
  · refine ⟨w, fun he => h ?_⟩
    rw [← he]
    exact py.eq_refl w

/-- **A sensitive field shows** in a comparison of all the fields of two records. -/
theorem compare_leaks (hc : coerceFields py fields = .ok none) (hne : py.int recordIdA ≠ py.int recordIdB)
    {f : String} (hf : f ∈ env.readable model) (hs : isSensitiveFieldName py.lower f = true)
    (hh : ∀ i, hidden ⟨model, i, f⟩) {r : Value}
    (hr : compare py env model recordIdA recordIdB fields = .ok r) :
    ¬ Silent hidden (fun v => compare py (env.withValue v) model recordIdA recordIdB fields) env.value := by
  obtain ⟨i, j, toRead, names, hi, hj, hc', hn, text, rfl⟩ := compare_ok hr
  obtain rfl : none = toRead := Except.ok.inj (hc.symm.trans hc')
  obtain rfl : env.readable model = names := Except.ok.inj hn
  have hij : j ≠ i := by
    rintro rfl
    exact hne (hi.trans hj.symm)
  have hid : f ≠ "id" := by
    rintro rfl
    rw [harmless_own py.lower (by decide)] at hs
    cases hs
  obtain ⟨a, ha⟩ := exists_eq_ne (env.value ⟨model, i, f⟩) (env.value ⟨model, j, f⟩)
  refine not_silent_of (hh i) (a := a) fun heq => ha ?_
  have hr' : compare py (env.withValue (Function.update env.value ⟨model, i, f⟩ a)) model recordIdA recordIdB
      fields = .ok _ := heq.trans hr
  generalize hv' : Function.update env.value ⟨model, i, f⟩ a = value' at hr'
  obtain ⟨i', j', toRead', names', hi', hj', hc', hn', text', hres⟩ := compare_ok hr'
  obtain rfl : i = i' := Except.ok.inj (hi.symm.trans hi')
  obtain rfl : j = j' := Except.ok.inj (hj.symm.trans hj')
  obtain rfl : none = toRead' := Except.ok.inj (hc.symm.trans hc')
  obtain rfl : env.readable model = names' := Except.ok.inj hn'
  -- the two runs report the same fields as different
  have hkeys := compareStructured_inj (result_inj hres).2
  have hmem : ∀ env' : Env, f ∈ (diffsOf py (env'.row model (env.readable model) i)
      (env'.row model (env.readable model) j)).map (·.1) ↔
        py.eq (env'.value ⟨model, i, f⟩) (env'.value ⟨model, j, f⟩) = false := by
    intro env'
    rw [mem_diffsOf, row_has hf hid, row_get hf hid, row_get hf hid]
    have hk : f ∈ (env'.row model (env.readable model) i).map (·.1) :=
      List.mem_map.2 ⟨(f, env'.value ⟨model, i, f⟩), mem_row.2 (Or.inr ⟨hf, hid, rfl⟩), rfl⟩
    simp [hk, hid]
  have hiff := hmem env
  rw [hkeys, hmem (env.withValue value')] at hiff
  have hvi : (env.withValue value').value ⟨model, i, f⟩ = a := by
    rw [Env.withValue_value, ← hv', Function.update_self]
  have hvj : (env.withValue value').value ⟨model, j, f⟩ = env.value ⟨model, j, f⟩ := by
    rw [Env.withValue_value, ← hv', Function.update_of_ne]
    simpa using hij
  rw [hvi, hvj] at hiff
  rw [Bool.eq_iff_iff, ← not_iff_not, Bool.not_eq_true, Bool.not_eq_true]
  exact hiff

end Compare

/-! ### The four tools -/

/-- **Secrets in the results.**  A call that returns keeps the secrets that the caller does not ask for if
and only if it is filtered: `search` and `explain` always are, `get` when depth expansion inlines no
record with such a field, and `compare` with a list of fields, or on one record, or on a model
without a sensitive field. -/
theorem keepsSecrets_iff (py : Builtins) (env : Env) (call : ReadCall) (r : Value)
    (h : call.run py env = .ok r) : call.KeepsSecrets py env ↔ call.Filtered py env := by
  have hv : Visible py.lower fun c : Cell => IsHidden py (call.listed py) c.field :=
    visible_isHidden (call.listed py)
  cases call with
  | get model recordId fields depth =>
    constructor
    · intro hk i d selection hi ht hd h2 hs name rel relId hin f hf hh
      exact fetch_leaks hv hs (selection_visible hs) hi ht hd h2 hin hf hh h hk
    · intro hin
      exact fetch_silent hv (fun selection hs => selection_visible hs) hin
  | search model domain spec fields limit offset order =>
    exact ⟨fun _ => trivial, fun _ => search_silent hv fun selection hs => selection_visible hs⟩
  | compare model recordIdA recordIdB fields =>
    constructor
    · intro hk
      by_contra hnot
      simp only [ReadCall.Filtered, not_or, not_not, not_forall, Bool.not_eq_false] at hnot
      obtain ⟨hc, hne, f, hf, hs⟩ := hnot
      refine compare_leaks hc hne hf hs (fun i => ⟨hs, ?_⟩) h hk
      simp [ReadCall.listed, listedFields, hc]
    · intro hf
      apply compare_silent
      by_cases hne : py.int recordIdA = py.int recordIdB
      · exact Or.inl hne
      · right
        intro toRead names hc hn n hmem i hh
        cases toRead with
        | none =>
          obtain rfl : env.readable model = names := Except.ok.inj hn
          rcases hf with hf | hf | hf
          · exact hf hc
          · exact hne hf
          · exact Bool.false_ne_true ((hf n hmem).symm.trans hh.1)
        | some listed => exact hh.2 (listed_of_mem hc hn hmem)
  | explain model recordId => exact ⟨fun _ => trivial, fun _ => explain_silent hv⟩

/-! ### A sales database -/

/-- Equality, as far as strings go. -/
def sameText : Value → Value → Bool
  | .str s, .str t => s == t
  | .str _, _ => false
  | _, .str _ => false
  | _, _ => true

/-- Built-in functions that do for plain values. -/
def plainBuiltins : Builtins where
  lower := asciiLower
  repr _ := "..."
  eq := sameText
  eq_refl v := by cases v <;> simp [sameText]
  eq_str s v := by
    cases v with
    | str t => simp [sameText, eq_comm (a := s)]
    | _ => simp [sameText]
  format v _ := v.pyStr fun _ => "..."
  dumps _ := "..."
  loads _ := .malformed
  literalEval _ := .malformed
  intOfFloat _ := .ok 0
  intOfStr _ := .error (.of .valueError "invalid literal for int()")
  unescape s := s
  isoOfText _ := none
  isoOfDate s := s

/-- An order of the first of two partners, who have an API key each. -/
def partnerEnv : Env where
  registry :=
    { enabled := true
      modules := [⟨1, "sale", true, ⟨true, false, false, false, false⟩⟩]
      overrides := [⟨1, 10, ⟨true, false, false, false, false⟩⟩, ⟨1, 11, ⟨true, false, false, false, false⟩⟩]
      models := [⟨10, "sale.order", "Sales Order", "sale", false⟩,
        ⟨11, "res.partner", "Contact", "base, sale", false⟩]
      models_unique := by decide
      models_named := by decide }
  models m := m ∈ ["sale.order", "res.partner"]
  checkAccess _ _ := none
  fieldsGet m _ :=
    if m = "sale.order" then [("partner_id", [("type", .str "many2one"), ("relation", .str "res.partner")])]
    else [("name", [("type", .str "char")]), ("api_key", [("type", .str "char")])]
  readable m := if m = "sale.order" then ["partner_id"] else ["name", "api_key"]
  present m i := (m, i) ∈ [("sale.order", 5), ("res.partner", 1), ("res.partner", 2)]
  value c :=
    if c.model = "sale.order" then .list [.int 1, .str "Azure"]
    else if c.field = "name" then .str "Azure"
    else if c.id = 1 then .str "k-1" else .str "k-2"
  checkRead _ _ _ := none
  checkAttr _ := none
  invalidField _ _ := .of .valueError "Invalid field"
  search _ _ _ _ _ := .ok []
  searchCount _ _ := .ok 0
  param _ := none
  excerpt head _ := head

/-- At depth 1 the order shows the name of its partner only. -/
theorem keepsSecrets_order :
    (ReadCall.get "sale.order" (.int 5) .none (.int 1)).KeepsSecrets plainBuiltins partnerEnv := by
  refine (keepsSecrets_iff plainBuiltins partnerEnv _ _ rfl).2 ?_
  intro i d selection _ _ hd h2
  obtain rfl : (1 : ℤ) = d := Except.ok.inj hd
  omega

set_option maxRecDepth 10000 in
/-- Two partners compared on all their fields, and the order at depth 2, show the keys. -/
theorem keys_shown :
    compare plainBuiltins partnerEnv "res.partner" (.int 1) (.int 2) .none = .ok (result
      "============================================================
Diff: res.partner #1 vs #2
Changed fields: 1
============================================================
api_key:
  A: k-1
  B: k-2"
      (.dict [("diffs", .dict [("api_key", .dict [("a", .str "k-1"), ("b", .str "k-2")])]),
        ("model", .str "res.partner"), ("record_id_a", .int 1), ("record_id_b", .int 2)])) ∧
    (∃ text metadata, fetch plainBuiltins partnerEnv "sale.order" (.int 5) .none (.int 2) = .ok (result text
      (.dict [("record", .dict [("id", .int 5),
          ("partner_id", .dict [("id", .int 1), ("name", .str "Azure"), ("api_key", .str "k-1")])]),
        ("metadata", metadata)]))) ∧
    ¬ (ReadCall.compare "res.partner" (.int 1) (.int 2) .none).KeepsSecrets plainBuiltins partnerEnv ∧
    ¬ (ReadCall.get "sale.order" (.int 5) .none (.int 2)).KeepsSecrets plainBuiltins partnerEnv := by
  have hkey : IsHidden plainBuiltins [] "api_key" := ⟨by decide, by decide⟩
  have hin : Inlined plainBuiltins partnerEnv "sale.order" 5 (.smartDefaults ["partner_id"]) "partner_id"
      "res.partner" 1 :=
    ⟨⟨["partner_id"], rfl, by decide⟩, by decide, Or.inr (by decide), by decide, by decide, rfl, rfl, rfl, rfl⟩
  refine ⟨rfl, ⟨_, _, rfl⟩, ?_, ?_⟩
  · exact compare_leaks rfl (by simp [Builtins.int]) (show "api_key" ∈ ["name", "api_key"] by decide)
      hkey.1 (fun _ => hkey) rfl
  · exact fetch_leaks (visible_isHidden _) rfl (fun he => by cases he) rfl rfl rfl le_rfl hin
      (show "api_key" ∈ ["name", "api_key"] by decide) hkey rfl

end AdvMcp.Read
