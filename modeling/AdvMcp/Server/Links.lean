import AdvMcp.Read.Paging
import AdvMcp.Server.Contents
import AdvMcp.Tools.Affected

/-!
# The addresses in the answers of the read tools

`get` and `search` put an `odoo://` address in the place of a binary field that holds data
(`_swap_binary_uris`, `_replace_binary_uris_in_rows` of `models/read_tools.py`).

* `Serves` — what Odoo guarantees of the binary fields of a model;
* `Leads` — at the address, `resources/read` gives the stored bytes of the field;
* `fetch_linked`, `search_linked` — every address in an answer leads to the data that it stands for.
-/

namespace AdvMcp.Server

open AdvMcp.Access AdvMcp.Lib AdvMcp.Py AdvMcp.Read AdvMcp.Tools

/-- The fields of a model as the read tools see them. -/
abbrev schemaOf (env : Read.Env) (model : String) : Schema := env.fieldsGet model schemaFieldAttributes

/-- The binary fields of a model: `fields_get` and `_fields` name the same ones, a field of a readable record can be
read by itself, and what is shown with `bin_size` is the size of the Base64 that is stored. -/
structure Serves (env : Read.Env) (F : Files) (model : String) : Prop where
  model_name : model.toList.getLast? ≠ some '\n'
  id_pos : ∀ i, env.present model i = true → 0 < i
  field_name : ∀ n ∈ binaryNames (schemaOf env model), isIdentifier isFieldChar n.toList = true ∧ n ≠ "id"
  fieldType : ∀ n ∈ binaryNames (schemaOf env model), ∃ t ∈ binaryFieldTypes, F.fieldType model n = some t
  readOne : ∀ ids names, env.checkRead model ids names = none → ∀ i ∈ ids, ∀ n ∈ names,
    env.checkRead model [i] [n] = none
  stored : ∀ i, ∀ n ∈ binaryNames (schemaOf env model), (env.value ⟨model, i, n⟩).truthy = true →
    F.datas ⟨model, i, n⟩ ≠ "" ∧ (Base64.decode (F.datas ⟨model, i, n⟩).toList).isSome = true

section Leads

variable (py : Builtins) (F : Files) (env : Read.Env) (D : Digits)

/-- At the address, the stored bytes of the field; only the look for their mimetype may raise. -/
def Leads (uri : String) (c : Cell) : Prop :=
  ∃ raw, Base64.decode (F.datas c).toList = some raw ∧
    readResource py F env D uri =
      (recordFieldMimetype F env c.model c.id c.field raw >>= fun mimetype =>
        pure (buildContentEntry py F uri mimetype raw))

/-- A binary field of an answer is empty, or it is an address that leads to its data. -/
def Linked (c : Cell) (shown : Value) : Prop :=
  shown.truthy = true → ∃ uri, shown = .str uri ∧ Leads py F env D uri c

end Leads

section Links

variable {py : Builtins} {F : Files} {env : Read.Env} {D : Digits} {model name uri : String} {i : ℤ}

/-- The address of a binary field with data, of a record that the caller may read. -/
lemma leads_of_build (hs : Serves env F model) (hm : resolveModel env model = .ok ())
    (hop : checkOp py env model "read" = .ok ()) (hpres : env.present model i = true)
    (hn : name ∈ binaryNames (schemaOf env model)) (hread : env.checkRead model [i] [name] = none)
    (hval : (env.value ⟨model, i, name⟩).truthy = true) (hb : buildFieldUri py model (.int i) name = .ok uri) :
    Leads py F env D uri ⟨model, i, name⟩ := by
  obtain ⟨hne, hsome⟩ := hs.stored i name hn hval
  obtain ⟨raw, hraw⟩ := Option.isSome_iff_exists.1 hsome
  obtain ⟨t, ht, hft⟩ := hs.fieldType name hn
  have hpos := hs.id_pos i hpres
  have hparse : parseFieldUri D uri = .ok (some ⟨model, i, name⟩) :=
    (parse_build_field hb).2 ⟨hs.model_name, by omega, (hs.field_name name hn).1⟩
  have hstart : startsWith "odoo://" uri = true := by
    obtain ⟨-, -, -, huri⟩ := buildFieldUri_ok.1 hb
    rw [startsWith_iff]
    exact ⟨"record/".toList ++ _, huri⟩
  have hbrowse : browseRecordOrRaise py env model (.int i) = .ok i := by
    show (if env.present model i = true then Except.ok i else _) = _
    rw [if_pos hpres]
  refine ⟨raw, hraw, ?_⟩
  unfold readResource
  rw [hstart, if_neg (by simp), hparse, ok_bind]
  show readRecordField py F env uri ⟨model, i, name⟩ = _
  unfold readRecordField
  simp only [hm, hop, ok_bind, hft, not_not.2 ht, if_false, hbrowse, hread, hne]
  unfold b64decode
  rw [hraw]
  rfl

/-! ### The swap -/

/-- What becomes of the value of a field: the address, if it is one of the swapped fields and holds data. -/
def Swapped (py : Builtins) (model : String) (i : ℤ) (name : String) (isSwapped : Prop) (v v' : Value) : Prop :=
  isSwapped ∧ v.truthy = true ∧ (∃ uri, buildFieldUri py model (.int i) name = .ok uri ∧ v' = .str uri) ∨
    ¬ (isSwapped ∧ v.truthy = true) ∧ v' = v

lemma swapBinaryUri_get {shown mid : Dict × Schema} {n : String}
    (h : swapBinaryUri py model i shown n = .ok mid) (name : String) :
    Swapped py model i name (name = n) (shown.1.get name) (mid.1.get name) := by
  unfold swapBinaryUri at h
  split_ifs at h with ht
  · obtain ⟨uri, hb, h⟩ := except_bind_ok.1 h
    obtain rfl := except_pure_ok.1 h
    by_cases hn : name = n
    · subst hn
      exact Or.inl ⟨rfl, ht, uri, hb, Dict.get_set _ _ _⟩
    · exact Or.inr ⟨fun hs => hn hs.1, Dict.get_set_of_ne _ hn _⟩
  · obtain rfl := Except.ok.inj h
    refine Or.inr ⟨?_, rfl⟩
    rintro ⟨rfl, hs⟩
    exact ht hs

lemma Swapped.trans {p q r : Prop} (hr : r ↔ p ∨ q) {v m w : Value} (h : Swapped py model i name p v m)
    (h' : Swapped py model i name q m w) : Swapped py model i name r v w := by
  rcases h with ⟨hp, ht, uri, hb, rfl⟩ | ⟨hnot, rfl⟩
  · refine Or.inl ⟨hr.2 (Or.inl hp), ht, uri, hb, ?_⟩
    rcases h' with ⟨-, -, uri', hb', rfl⟩ | ⟨-, rfl⟩
    · rw [Except.ok.inj (hb.symm.trans hb')]
    · rfl
  · rcases h' with ⟨hq, ht, huri⟩ | ⟨hnot', rfl⟩
    · exact Or.inl ⟨hr.2 (Or.inr hq), ht, huri⟩
    · refine Or.inr ⟨fun ⟨hor, ht⟩ => ?_, rfl⟩
      rcases hr.1 hor with hp | hq
      · exact hnot ⟨hp, ht⟩
      · exact hnot' ⟨hq, ht⟩

/-- The fields of the record after the swap. -/
lemma swap_get {names : List String} {shown shown' : Dict × Schema}
    (h : names.foldlM (swapBinaryUri py model i) shown = .ok shown') (name : String) :
    Swapped py model i name (name ∈ names) (shown.1.get name) (shown'.1.get name) := by
  induction names generalizing shown with
  | nil =>
    obtain rfl := except_pure_ok.1 h
    exact Or.inr ⟨fun hs => absurd hs.1 List.not_mem_nil, rfl⟩
  | cons n names ih =>
    rw [List.foldlM_cons] at h
    obtain ⟨mid, hm, h⟩ := except_bind_ok.1 h
    exact (swapBinaryUri_get hm name).trans List.mem_cons (ih h)

lemma replace_step {row : Dict} (schema : Schema) (n : String) (hid : row.get "id" = .int i) (hi : i ≠ 0) :
    replaceBinaryUri py model row n = Prod.fst <$> swapBinaryUri py model i (row, schema) n := by
  have ht : (row.get "id").truthy = true := by
    rw [hid]
    simpa [Value.truthy] using hi
  unfold replaceBinaryUri swapBinaryUri
  rw [ht, Bool.true_and, hid]
  split_ifs
  · cases buildFieldUri py model (.int i) n <;> rfl
  · rfl

/-- The swap in the rows of `search` is the one of `get`, with the id of the row. -/
lemma replace_eq {names : List String} {row : Dict} (schema : Schema) (hid : row.get "id" = .int i) (hi : i ≠ 0)
    (hn : "id" ∉ names) : names.foldlM (replaceBinaryUri py model) row =
      Prod.fst <$> names.foldlM (swapBinaryUri py model i) (row, schema) := by
  induction names generalizing row schema with
  | nil => rfl
  | cons n names ih =>
    rw [List.mem_cons, not_or] at hn
    rw [List.foldlM_cons, List.foldlM_cons, replace_step schema n hid hi]
    cases hm : swapBinaryUri py model i (row, schema) n with
    | error e => rfl
    | ok mid =>
      rcases swapBinaryUri_get hm "id" with ⟨he, -⟩ | ⟨-, he⟩
      · exact absurd he hn.1
      · exact ih mid.2 (he.trans hid) hn.2

/-! ### Records -/

/-- A dropped field is none. -/
lemma get_dropSensitive (lo : Lower) (d : Dict) (name : String) :
    (dropSensitive lo d).get name = d.get name ∨ (dropSensitive lo d).get name = .none := by
  unfold dropSensitive Dict.get
  induction d with
  | nil => exact Or.inl rfl
  | cons p d ih =>
    obtain ⟨k, v⟩ := p
    by_cases hk : name = k
    · subst hk
      by_cases hsens : isSensitiveFieldName lo name = true
      · right
        rw [List.filter_cons_of_neg (by simpa using hsens)]
        have hnone : (d.filter fun p => !isSensitiveFieldName lo p.1).lookup name = none := by
          rw [List.lookup_eq_none_iff]
          intro p hp
          have hp' := (List.mem_filter.1 hp).2
          rw [bne_iff_ne]
          rintro rfl
          rw [hsens] at hp'
          cases hp'
        rw [hnone]
        rfl
      · left
        rw [List.filter_cons_of_pos (by simpa using hsens), List.lookup_cons_self, List.lookup_cons_self]
    · have hne : (name == k) = false := beq_false_of_ne hk
      rw [List.lookup_cons, hne]
      by_cases hsens : isSensitiveFieldName lo k = true
      · rw [List.filter_cons_of_neg (by simpa using hsens)]
        exact ih
      · rw [List.filter_cons_of_pos (by simpa using hsens), List.lookup_cons, hne]
        exact ih

/-- A row that was read, after the swap: its binary fields are linked. -/
lemma swapped_linked (hs : Serves env F model) (hm : resolveModel env model = .ok ())
    (hop : checkOp py env model "read" = .ok ()) (hpres : env.present model i = true) {ids : List ℤ}
    {names : List String} (hi : i ∈ ids) (hread : env.checkRead model ids names = none) {selection : Selection}
    {shown : Dict × Schema} {schema : Schema}
    (h : (binaryNames (schemaOf env model)).foldlM (swapBinaryUri py model i)
      (keptFields py selection (env.row model names i), schema) = .ok shown)
    (hn : name ∈ binaryNames (schemaOf env model)) : Linked py F env D ⟨model, i, name⟩ (shown.1.get name) := by
  intro ht
  have hid := (hs.field_name name hn).2
  -- what the kept fields hold is what was read
  have hkept : ((keptFields py selection (env.row model names i)).get name).truthy = true →
      name ∈ names ∧ (env.value ⟨model, i, name⟩).truthy = true := by
    intro ht
    have hget : (keptFields py selection (env.row model names i)).get name =
        (env.row model names i).get name ∨ (keptFields py selection (env.row model names i)).get name = .none := by
      unfold keptFields
      split_ifs
      · exact Or.inl rfl
      · exact get_dropSensitive _ _ _
    by_cases hmem : name ∈ names
    · refine ⟨hmem, ?_⟩
      rcases hget with hg | hg
      · rwa [hg, row_get hmem hid] at ht
      · rw [hg] at ht
        cases ht
    · rw [row_get_of_notMem hmem hid, or_self] at hget
      rw [hget] at ht
      cases ht
  rcases swap_get h name with ⟨-, hv, uri, hb, he⟩ | ⟨hnot, he⟩
  · obtain ⟨hmem, hval⟩ := hkept hv
    exact ⟨uri, he, leads_of_build hs hm hop hpres hn (hs.readOne ids names hread i hi name hmem) hval hb⟩
  · rw [he] at ht
    exact absurd ⟨hn, ht⟩ hnot

/-- What depth expansion does to a field: nothing, unless it is a many2one. -/
lemma expandRelation_ok {schema : Schema} {depth : ℤ} {p q : String × Value}
    (h : expandRelation py env schema depth p = .ok q) :
    q.1 = p.1 ∧ (fieldType (metaOf schema p.1) ≠ "many2one" → q = p) := by
  unfold expandRelation at h
  simp only at h
  split_ifs at h with ht
  · obtain rfl := Except.ok.inj h
    exact ⟨rfl, fun _ => rfl⟩
  · refine ⟨?_, fun hne => absurd hne ht⟩
    split at h
    · cases h
    · cases h
    · split at h
      · rw [Except.ok.inj h]
      · split at h
        · rw [← Except.ok.inj h]
        · split_ifs at h
          rw [Except.ok.inj h]

lemma expandAll_get {schema : Schema} {data data' : Dict} {depth : ℤ}
    (h : data.mapM (expandRelation py env schema depth) = .ok data')
    (hne : fieldType (metaOf schema name) ≠ "many2one") : data'.get name = data.get name := by
  rw [mapM_ok] at h
  unfold Dict.get
  congr 1
  induction h with
  | nil => rfl
  | @cons p q l r hpq _ ih =>
    obtain ⟨hkey, hsame⟩ := expandRelation_ok hpq
    obtain ⟨k, v⟩ := p
    obtain ⟨k', v'⟩ := q
    obtain rfl : k' = k := hkey
    rw [List.lookup_cons, List.lookup_cons, ih]
    by_cases hk : name = k'
    · subst hk
      obtain rfl := (Prod.mk.inj (hsame hne)).2
      rfl
    · rw [beq_false_of_ne hk]

lemma expandDepth_get {schema : Schema} {data data' : Dict} {depth : Value}
    (h : expandDepth py env data schema depth = .ok data')
    (hne : fieldType (metaOf schema name) ≠ "many2one") : data'.get name = data.get name := by
  unfold expandDepth at h
  split_ifs at h
  · obtain ⟨d, -, h⟩ := except_bind_ok.1 h
    unfold expandRelations at h
    split_ifs at h
    · rw [Except.ok.inj h]
    · exact expandAll_get h hne
  · rw [Except.ok.inj h]

lemma orRaise_ok {e : Option PyExc} (h : orRaise e = .ok ()) : e = none := by
  cases e with
  | none => rfl
  | some e => cases h

lemma browse_present {recordId : Value} (h : browseRecordOrRaise py env model recordId = .ok i) :
    env.present model i = true := by
  unfold browseRecordOrRaise at h
  obtain ⟨j, -, h⟩ := except_bind_ok.1 h
  split_ifs at h with hp
  rwa [← except_pure_ok.1 h]

lemma read_ok {ids : List ℤ} {fields : Option (List Value)} {rows : List Dict}
    (h : env.read model ids fields = .ok rows) : ∃ names, env.checkRead model ids names = none ∧
      rows = (ids.filter (env.present model)).map (env.row model names) := by
  unfold Env.read at h
  obtain ⟨names, -, h⟩ := except_bind_ok.1 h
  obtain ⟨⟨⟩, hc, h⟩ := except_bind_ok.1 h
  exact ⟨names, orRaise_ok hc, (except_pure_ok.1 h).symm⟩

/-- A binary field is no many2one. -/
lemma binary_not_many2one {schema : Schema} (hn : name ∈ binaryNames schema) :
    fieldType (metaOf schema name) ≠ "many2one" := by
  intro he
  have hb := (List.mem_filter.1 hn).2
  rw [he] at hb
  exact absurd hb (by decide)

/-- The record of `get`. -/
lemma fetch_linked {recordId fields depth r : Value} (hs : Serves env F model)
    (h : fetch py env model recordId fields depth = .ok r) :
    ∃ (i : ℤ) (data : Dict), py.int recordId = .ok i ∧ structuredField r "record" = .dict data ∧
      ∀ name ∈ binaryNames (schemaOf env model), Linked py F env D ⟨model, i, name⟩ (data.get name) := by
  unfold fetch at h
  simp only [except_bind_ok, except_pure_ok] at h
  obtain ⟨⟨⟩, hm, ⟨⟩, hop, selection, -, ⟨data, renderMeta⟩, hd, data', hd', text, -, rfl⟩ := h
  unfold fetchRecord at hd
  obtain ⟨i, hi, hd⟩ := except_bind_ok.1 hd
  obtain ⟨rows, hr, hd⟩ := except_bind_ok.1 hd
  obtain ⟨row, hf, hd⟩ := except_bind_ok.1 hd
  obtain ⟨names, hread, rfl⟩ := read_ok hr
  have hpres := browse_present hi
  rw [filter_present hpres] at hf
  obtain rfl := Except.ok.inj hf
  refine ⟨i, data', browse_ok hi, rfl, fun name hn => ?_⟩
  rw [expandDepth_get hd' (binary_not_many2one hn)]
  exact swapped_linked hs hm hop hpres (List.mem_singleton_self i) hread hd hn

/-- The rows of `search`. -/
lemma search_linked {domain spec fields limit offset order r : Value} (hs : Serves env F model)
    (h : Read.search py env model domain spec fields limit offset order = .ok r) :
    ∃ rows : List Dict, structuredField r "records" = .list (rows.map .dict) ∧ ∀ row ∈ rows, ∃ i,
      row.get "id" = .int i ∧ ∀ name ∈ binaryNames (schemaOf env model),
        Linked py F env D ⟨model, i, name⟩ (row.get name) := by
  have hbin : "id" ∉ binaryNames (schemaOf env model) := fun hn => (hs.field_name _ hn).2 rfl
  unfold Read.search at h
  obtain ⟨⟨⟩, hm, h⟩ := except_bind_ok.1 h
  obtain ⟨⟨⟩, hop, h⟩ := except_bind_ok.1 h
  obtain ⟨filterExpr, -, h⟩ := except_bind_ok.1 h
  obtain ⟨l, -, h⟩ := except_bind_ok.1 h
  obtain ⟨o, -, h⟩ := except_bind_ok.1 h
  obtain ⟨selection, -, h⟩ := except_bind_ok.1 h
  obtain ⟨rows, hrows, h⟩ := except_bind_ok.1 h
  -- the total is counted, or it is the number of the rows
  have hend : ∃ rows', rows.mapM (replaceBinaryUris py model (schemaOf env model)) = .ok rows' ∧
      structuredField r "records" = .list (rows'.map .dict) := by
    by_cases hc : (o = 0 && (l = 0 || rows.length < l)) = true
    · rw [if_pos hc] at h
      obtain ⟨total, -, h⟩ := except_bind_ok.1 h
      obtain ⟨rows', hswap, h⟩ := except_bind_ok.1 h
      obtain rfl := except_pure_ok.1 h
      exact ⟨rows', hswap, rfl⟩
    · rw [if_neg hc] at h
      obtain ⟨total, -, h⟩ := except_bind_ok.1 h
      obtain ⟨rows', hswap, h⟩ := except_bind_ok.1 h
      obtain rfl := except_pure_ok.1 h
      exact ⟨rows', hswap, rfl⟩
  obtain ⟨rows', hswap, hrecords⟩ := hend
  unfold searchRows Env.searchRead at hrows
  simp only [except_bind_ok, except_pure_ok] at hrows
  obtain ⟨found, ⟨ids, -, hr⟩, rfl⟩ := hrows
  obtain ⟨names, hread, rfl⟩ := read_ok hr
  refine ⟨rows', hrecords, fun row hrow => ?_⟩
  obtain ⟨kept, hkept, hrep⟩ := mapM_mem hswap hrow
  obtain ⟨d, hd, rfl⟩ := List.mem_map.1 hkept
  obtain ⟨i, hi, rfl⟩ := List.mem_map.1 hd
  obtain ⟨hi, hpres⟩ := List.mem_filter.1 hi
  have hid : (keptFields py selection (env.row model names i)).get "id" = .int i := by
    have hsens : isSensitiveFieldName py.lower "id" = false := harmless_own py.lower (by simp [ownNames])
    unfold keptFields dropSensitive
    split_ifs
    · rfl
    · unfold Env.row
      rw [List.filter_cons_of_pos (by simpa using hsens)]
      rfl
  have hpos := hs.id_pos i hpres
  unfold replaceBinaryUris at hrep
  rw [replace_eq (schemaOf env model) hid (by omega) hbin] at hrep
  cases hswap' : (binaryNames (schemaOf env model)).foldlM (swapBinaryUri py model i)
      (keptFields py selection (env.row model names i), schemaOf env model) with
  | error e =>
    rw [hswap'] at hrep
    cases hrep
  | ok shown =>
    rw [hswap'] at hrep
    obtain rfl := Except.ok.inj hrep
    refine ⟨i, ?_, fun name hn => swapped_linked hs hm hop hpres hi hread hswap' hn⟩
    rcases swap_get hswap' "id" with ⟨hmem, -⟩ | ⟨-, he⟩
    · exact absurd hmem hbin
    · rw [he]
      exact hid

end Links

/-- **The addresses in answers.**  Whatever `get` and `search` are asked, a binary field of a record in the answer
is empty, or it is an address at which `resources/read` gives the same caller the bytes that are stored. -/
theorem answers_linked {F : Files} {env : Read.Env} {model : String} (py : Builtins) (D : Digits)
    (hs : Serves env F model) :
    (∀ recordId fields depth r, fetch py env model recordId fields depth = .ok r →
      ∃ (i : ℤ) (data : Dict), py.int recordId = .ok i ∧ structuredField r "record" = .dict data ∧
        ∀ name ∈ binaryNames (schemaOf env model), Linked py F env D ⟨model, i, name⟩ (data.get name)) ∧
    ∀ domain spec fields limit offset order r,
      Read.search py env model domain spec fields limit offset order = .ok r →
      ∃ rows : List Dict, structuredField r "records" = .list (rows.map .dict) ∧ ∀ row ∈ rows, ∃ i,
        row.get "id" = .int i ∧ ∀ name ∈ binaryNames (schemaOf env model),
          Linked py F env D ⟨model, i, name⟩ (row.get name) :=
  ⟨fun _ _ _ _ h => fetch_linked hs h, fun _ _ _ _ _ _ _ h => search_linked hs h⟩

/-! ### A picture -/

/-- Partner 10, with a picture. -/
def pictureEnv : Read.Env :=
  { partnerEnv with
    fieldsGet := fun _ _ => [("name", [("type", .str "char")]), ("image_1920", [("type", .str "image")])]
    readable := fun _ => ["name", "image_1920"]
    present := fun m i => m = "res.partner" && i = 10
    value := fun c => if c.field = "name" then .str "Azure" else .str "3.00 bytes" }

def pictureFiles : Files where
  fieldType _ f := if f = "image_1920" then some "image" else some "char"
  datas _ := "SGkh"
  raw _ := .ok []
  guessMimetype _ := octetStream
  decodeText := replacedWhole
  decodeText_utf8 := replacedWhole_utf8

lemma pictureEnv_serves : Serves pictureEnv pictureFiles "res.partner" := by
  have hbin : binaryNames (schemaOf pictureEnv "res.partner") = ["image_1920"] := by decide
  refine ⟨by decide, fun i hi => ?_, fun n hn => ?_, fun n hn => ?_, fun _ _ _ _ _ _ _ => rfl, fun i n hn _ => ?_⟩
  · have hi : i = 10 := by simpa [pictureEnv] using hi
    omega
  · rw [hbin, List.mem_singleton] at hn
    subst hn
    decide
  · rw [hbin, List.mem_singleton] at hn
    subst hn
    exact ⟨"image", by decide, rfl⟩
  · exact ⟨show "SGkh" ≠ "" by decide, show (Base64.decode "SGkh".toList).isSome = true by decide⟩

/-- The partner, with the address of its picture. -/
theorem answers_linked_picture : ∃ r, fetch plainBuiltins pictureEnv "res.partner" (.int 10)
    (.list [.str "name", .str "image_1920"]) .none = .ok r ∧ ∃ (i : ℤ) (data : Dict),
      plainBuiltins.int (.int 10) = .ok i ∧ structuredField r "record" = .dict data ∧
      ∀ name ∈ binaryNames (schemaOf pictureEnv "res.partner"),
        Linked plainBuiltins pictureFiles pictureEnv asciiDigits ⟨"res.partner", i, name⟩ (data.get name) := by
  have h : fetch plainBuiltins pictureEnv "res.partner" (.int 10) (.list [.str "name", .str "image_1920"]) .none =
      .ok _ := rfl
  exact ⟨_, h, (answers_linked plainBuiltins asciiDigits pictureEnv_serves).1 _ _ _ _ h⟩

end AdvMcp.Server
