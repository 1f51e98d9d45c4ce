import AdvMcp.Read.CrossTab
import AdvMcp.Read.Paging

/-!
# The settings and the size of a result

The limits that an administrator saves on `adv.server.config` against what `search` and `aggregate` return.
`_limit_bounds` reads two parameters of `ir.config_parameter` instead, and the cross-tab has no limit.

* `matrix_cells` — the filled cells of a cross-tab are as many as its groups;
* `Slices` — how the ORM cuts the records and the groups that match;
* `Query.available`, `Query.pageSize` — how many records or groups a query has from its offset on, and the limit
  that is made of the one it asks for;
* `capped_iff` — when what is returned keeps within the settings.
-/

namespace AdvMcp.Read

open AdvMcp.Py AdvMcp.Lib

/-! ### The groups of a cross-tab -/

/-- The cells of a row of the matrix that are not empty. -/
def cellsOf : Value → List Value
  | .dict row => (row.filter fun p => p.1 ≠ "_row" && p.2.truthy).map (·.2)
  | _ => []

section Cells

variable {fl : String → Number} {py : Builtins} {rows cols cells : List String} {raw : List Dict}

/-- Keys by which Python tells tuples apart. -/
abbrev tupleCode (fl : String → Number) : List Value → List KeyCode := List.map (keyCode fl 1)

lemma sameTuple_code (he : EqDocs fl py) {a b : List Value} (ha : ∀ v ∈ a, isKey v = true)
    (hb : ∀ v ∈ b, isKey v = true) : sameTuple py a b = true ↔ tupleCode fl a = tupleCode fl b :=
  (tuple_comparison he).left a b ha hb

variable {keys vals : List (List Value)}

/-- Of the tuples that Python takes for one, one is in the set. -/
lemma exists_distinct (he : EqDocs fl py) (hk : ∀ t ∈ keys, ∀ v ∈ t, isKey v = true)
    {a : List Value} (ha : a ∈ keys) :
    ∃ b ∈ distinct py keys, tupleCode fl b = tupleCode fl a := by
  induction keys with
  | nil => cases ha
  | cons c keys ih =>
    rcases List.mem_cons.1 ha with rfl | ha
    · exact ⟨a, List.mem_cons_self, rfl⟩
    · obtain ⟨b, hb, hcode⟩ := ih (fun t ht => hk t (List.mem_cons_of_mem _ ht)) ha
      by_cases hs : sameTuple py c b = true
      · have hcb := (sameTuple_code he (hk c List.mem_cons_self)
          (hk b (List.mem_cons_of_mem _ (mem_of_distinct hb)))).1 hs
        exact ⟨c, List.mem_cons_self, hcb.trans hcode⟩
      · exact ⟨b, List.mem_cons_of_mem _ (List.mem_filter.2 ⟨hb, by simpa using hs⟩), hcode⟩

/-- The codes of the set are those of the keys, each once. -/
lemma distinct_codes (he : EqDocs fl py) (hk : ∀ t ∈ keys, ∀ v ∈ t, isKey v = true)
    (hv : vals.Perm (distinct py keys)) :
    (vals.map (tupleCode fl)).Nodup ∧ ∀ x, x ∈ vals.map (tupleCode fl) ↔ x ∈ keys.map (tupleCode fl) := by
  have hmem : ∀ t ∈ distinct py keys, ∀ v ∈ t, isKey v = true := fun t ht => hk t (mem_of_distinct ht)
  refine ⟨?_, fun x => ?_⟩
  · rw [(hv.map _).nodup_iff]
    unfold List.Nodup
    rw [List.pairwise_map]
    refine (List.Pairwise.and_mem.1 (distinct_pairwise keys)).imp fun {a b} h hcode => ?_
    have hs := (sameTuple_code he (hmem a h.1) (hmem b h.2.1)).2 hcode
    rw [h.2.2] at hs
    cases hs
  · rw [(hv.map _).mem_iff]
    constructor
    · intro hx
      obtain ⟨t, ht, rfl⟩ := List.mem_map.1 hx
      exact List.mem_map.2 ⟨t, mem_of_distinct ht, rfl⟩
    · intro hx
      obtain ⟨t, ht, rfl⟩ := List.mem_map.1 hx
      obtain ⟨b, hb, hcode⟩ := exists_distinct he hk ht
      exact List.mem_map.2 ⟨b, hb, hcode⟩

lemma dictOfItems_isEmpty {items : List (String × Value)} (h : items ≠ []) :
    (dictOfItems items).isEmpty = false := by
  obtain ⟨init, p, rfl⟩ := (List.eq_nil_or_concat' items).resolve_left h
  unfold dictOfItems
  rw [List.foldl_append, List.foldl_cons, List.foldl_nil]
  generalize List.foldl _ [] init = d
  unfold Dict.set
  split_ifs with hhas
  · cases d with
    | nil => cases hhas
    | cons q d => rfl
  · cases d <;> rfl

/-- A cell is filled when there is a group with its keys. -/
lemma cellValue_isEmpty (hg : Groups rows cols raw) (hrows : rows ≠ []) (hcells : cells ≠ []) (rv cv : List Value) :
    (cellValue py rows cols cells raw rv cv).isEmpty = false ↔
      ∃ g ∈ raw, sameTuple py (tupleOf rows g) rv = true ∧ sameTuple py (tupleOf cols g) cv = true := by
  have hgroup : ∀ g ∈ raw, g.isEmpty = false := by
    intro g hmem
    obtain ⟨k, hk⟩ := List.exists_mem_of_ne_nil rows hrows
    obtain ⟨v, hv, -⟩ := hg.keyed g hmem k (List.mem_append_left _ hk)
    cases g with
    | nil => cases hv
    | cons p g => rfl
  unfold cellValue cellOf
  cases hf : raw.reverse.find? fun g => sameTuple py (tupleOf rows g) rv && sameTuple py (tupleOf cols g) cv with
  | none =>
    refine iff_of_false (by simp) ?_
    rintro ⟨g, hmem, hr, hc⟩
    have hno := List.find?_eq_none.1 hf g (List.mem_reverse.2 hmem)
    simp [hr, hc] at hno
  | some g =>
    have hmem : g ∈ raw := List.mem_reverse.1 (List.mem_of_find?_eq_some hf)
    have hsame := List.find?_some hf
    rw [Bool.and_eq_true] at hsame
    refine iff_of_true ?_ ⟨g, hmem, hsame⟩
    simp only [Option.getD_some, hgroup g hmem, Bool.false_eq_true, if_false]
    exact dictOfItems_isEmpty fun h => hcells (List.map_eq_nil_iff.1 h)

/-- The filled cells of a row. -/
lemma cellsOf_matrixRow (hn : ReprDocs py cols raw) {colVals : List (List Value)} (hnodup : colVals.Nodup)
    (hcols : ∀ cv ∈ colVals, cv ∈ raw.map (tupleOf cols)) (rv : List Value) :
    (cellsOf (.dict (matrixRow py rows cols cells raw colVals rv))).length =
      (colVals.filter fun cv => !(cellValue py rows cols cells raw rv cv).isEmpty).length := by
  have hname : ∀ cv ∈ colVals, py.str (.list cv) ≠ "_row" := by
    intro cv hcv
    obtain ⟨g, hmem, rfl⟩ := List.mem_map.1 (hcols cv hcv)
    exact hn.row g hmem
  show ((List.filter _ (matrixRow py rows cols cells raw colVals rv)).map _).length = _
  rw [matrixRow_eq hn hnodup hcols, List.length_map, List.filter_cons_of_neg (by simp), List.filter_map,
    List.length_map]
  congr 1
  refine List.filter_congr fun cv hcv => ?_
  simp [hname cv hcv, Value.truthy]

/-- The places of a matrix have codes of their own. -/
lemma places_nodup {rowVals colVals : List (List Value)} {p : List Value → List Value → Bool}
    (hr : (rowVals.map (tupleCode fl)).Nodup) (hc : (colVals.map (tupleCode fl)).Nodup)
    (hrows : ∀ rv ∈ rowVals, rv ∈ raw.map (tupleOf rows)) :
    (rowVals.flatMap fun rv => (colVals.filter (p rv)).map fun cv => tupleCode fl rv ++ tupleCode fl cv).Nodup := by
  have hlen : ∀ rv ∈ rowVals, (tupleCode fl rv).length = rows.length := by
    intro rv hrv
    obtain ⟨g, -, rfl⟩ := List.mem_map.1 (hrows rv hrv)
    unfold tupleCode tupleOf
    rw [List.length_map, List.length_map]
  rw [List.nodup_flatMap]
  constructor
  · intro rv _
    have hsub : ((colVals.filter (p rv)).map (tupleCode fl)).Nodup := hc.sublist (List.filter_sublist.map _)
    have hinj : Function.Injective (tupleCode fl rv ++ ·) := fun x y h => List.append_cancel_left h
    have hmap := hsub.map hinj
    rwa [List.map_map] at hmap
  · unfold List.Nodup at hr
    rw [List.pairwise_map] at hr
    refine (List.Pairwise.and_mem.1 hr).imp fun {a b} h => ?_
    obtain ⟨ha, hb, hne⟩ := h
    intro x hxa hxb
    obtain ⟨cv, -, rfl⟩ := List.mem_map.1 hxa
    obtain ⟨cv', -, heq⟩ := List.mem_map.1 hxb
    exact hne (List.append_inj heq ((hlen b hb).trans (hlen a ha).symm)).1.symm

/-- The places that are filled have the codes of the groups. -/
lemma mem_places (he : EqDocs fl py) (hg : Groups rows cols raw) (hrows : rows ≠ []) (hcells : cells ≠ [])
    {rowVals colVals : List (List Value)} (hr : rowVals.Perm (distinct py (raw.map (tupleOf rows))))
    (hc : colVals.Perm (distinct py (raw.map (tupleOf cols)))) (x : List KeyCode) :
    (x ∈ rowVals.flatMap fun rv => (colVals.filter fun cv => !(cellValue py rows cols cells raw rv cv).isEmpty).map
        fun cv => tupleCode fl rv ++ tupleCode fl cv) ↔
      x ∈ (raw.map (tupleOf (rows ++ cols))).map (tupleCode fl) := by
  have hrmem := (distinct_codes he (rowKeys_isKey hg) hr).2
  have hcmem := (distinct_codes he (colKeys_isKey hg) hc).2
  have hrow : ∀ {g rv}, g ∈ raw → rv ∈ rowVals →
      (sameTuple py (tupleOf rows g) rv = true ↔ tupleCode fl (tupleOf rows g) = tupleCode fl rv) := fun hmem hrv =>
    sameTuple_code he (rowKeys_isKey hg _ (List.mem_map_of_mem hmem))
      (rowKeys_isKey hg _ (mem_of_distinct (hr.mem_iff.1 hrv)))
  have hcol : ∀ {g cv}, g ∈ raw → cv ∈ colVals →
      (sameTuple py (tupleOf cols g) cv = true ↔ tupleCode fl (tupleOf cols g) = tupleCode fl cv) := fun hmem hcv =>
    sameTuple_code he (colKeys_isKey hg _ (List.mem_map_of_mem hmem))
      (colKeys_isKey hg _ (mem_of_distinct (hc.mem_iff.1 hcv)))
  have hcode : ∀ g, tupleCode fl (tupleOf (rows ++ cols) g) =
      tupleCode fl (tupleOf rows g) ++ tupleCode fl (tupleOf cols g) := by
    intro g
    rw [tupleOf_append]
    exact List.map_append
  simp only [List.mem_flatMap, List.mem_map, List.mem_filter, Bool.not_eq_true']
  constructor
  · rintro ⟨rv, hrv, cv, ⟨hcv, hfill⟩, rfl⟩
    obtain ⟨g, hmem, hsr, hsc⟩ := (cellValue_isEmpty hg hrows hcells rv cv).1 hfill
    refine ⟨_, ⟨g, hmem, rfl⟩, ?_⟩
    rw [hcode, (hrow hmem hrv).1 hsr, (hcol hmem hcv).1 hsc]
  · rintro ⟨_, ⟨g, hmem, rfl⟩, rfl⟩
    obtain ⟨rv, hrv, hrc⟩ := List.mem_map.1 ((hrmem _).2 (List.mem_map_of_mem (List.mem_map_of_mem hmem)))
    obtain ⟨cv, hcv, hcc⟩ := List.mem_map.1 ((hcmem _).2 (List.mem_map_of_mem (List.mem_map_of_mem hmem)))
    refine ⟨rv, hrv, cv, ⟨hcv, (cellValue_isEmpty hg hrows hcells rv cv).2 ⟨g, hmem, ?_, ?_⟩⟩, ?_⟩
    · exact (hrow hmem hrv).2 hrc.symm
    · exact (hcol hmem hcv).2 hcc.symm
    · rw [hcode, hrc, hcc]

/-- **The cells of a matrix** that are filled are as many as the groups that Python tells apart by their keys. -/
lemma matrix_cells (he : EqDocs fl py) (hn : ReprDocs py cols raw) (hg : Groups rows cols raw) (hrows : rows ≠ [])
    (hcells : cells ≠ []) {rowVals colVals : List (List Value)}
    (hr : rowVals.Perm (distinct py (raw.map (tupleOf rows))))
    (hc : colVals.Perm (distinct py (raw.map (tupleOf cols)))) :
    ((rowVals.map fun rv => Value.dict (matrixRow py rows cols cells raw colVals rv)).flatMap cellsOf).length =
      (distinct py (raw.map (tupleOf (rows ++ cols)))).length := by
  have hboth : ∀ t ∈ raw.map (tupleOf (rows ++ cols)), ∀ v ∈ t, isKey v = true := by
    intro t ht
    obtain ⟨g, hmem, rfl⟩ := List.mem_map.1 ht
    exact tuple_isKey hg hmem fun k hk => hk
  have hrnodup := (distinct_codes he (rowKeys_isKey hg) hr).1
  have hcnodup := (distinct_codes he (colKeys_isKey hg) hc).1
  obtain ⟨hnodup, hmem⟩ := distinct_codes he hboth (List.Perm.refl _)
  have hrkey : ∀ rv ∈ rowVals, rv ∈ raw.map (tupleOf rows) := fun rv h => mem_of_distinct (hr.mem_iff.1 h)
  have hckey : ∀ cv ∈ colVals, cv ∈ raw.map (tupleOf cols) := fun cv h => mem_of_distinct (hc.mem_iff.1 h)
  -- the filled cells against the groups, by the codes of their keys
  have hperm := (List.perm_ext_iff_of_nodup (places_nodup hrnodup hcnodup hrkey) hnodup).2 fun x =>
    (mem_places he hg hrows hcells hr hc x).trans (hmem x).symm
  rw [← List.length_map (tupleCode fl), ← hperm.length_eq, List.length_flatMap, List.length_flatMap, List.map_map]
  congr 1
  refine List.map_congr_left fun rv _ => ?_
  show (cellsOf _).length = _
  rw [cellsOf_matrixRow hn ((List.Nodup.of_map _ hcnodup)) hckey, List.length_map]

end Cells

/-! ### Queries -/

/-- `default_limit` and `max_limit` of the configuration record. -/
structure LimitSettings where
  defaultLimit : ℤ
  maxLimit : ℤ
  one_le_default : 1 ≤ defaultLimit
  one_le_max : 1 ≤ maxLimit

/-- The most that a query may return: the smaller setting if it asks for no limit. -/
def LimitSettings.cap (c : LimitSettings) : Value → ℤ
  | .none => min c.defaultLimit c.maxLimit
  | _ => c.maxLimit

/-- The arguments of `search` and of `aggregate`. -/
inductive Query where
  | search (domain spec fields limit offset order : Value)
  | aggregate (rowGroupby colGroupby aggregates domain limit offset : Value)

/-- The limit that is asked for. -/
def Query.limit : Query → Value
  | .search _ _ _ limit _ _ => limit
  | .aggregate _ _ _ _ limit _ => limit

/-- The records that an answer lists, its groups, or those in the cells of its matrix. -/
def Query.entries (out : Value) : Query → List Value
  | .search _ _ _ _ _ _ => listed "records" out
  | .aggregate _ colGroupby _ _ _ _ =>
    if colGroupby.truthy then (listed "matrix" out).flatMap cellsOf else listed "groups" out

section Caps

variable (fl : String → Number) (py : Builtins) (env : Env) (G : Grouping) (model : String)

def Query.run : Query → Except PyExc Value
  | .search domain spec fields limit offset order => Read.search py env model domain spec fields limit offset order
  | .aggregate rowGroupby colGroupby aggregates domain limit offset =>
    Read.aggregate py env G model rowGroupby colGroupby aggregates domain limit offset

/-- The ORM answers with slices of the records and of the groups that match, and with all groups of a cross-tab;
the records are there, and `sorted` returns what it was given in another order. -/
structure Slices where
  matching : List Value → Value → Except PyExc (List ℤ)
  groups : List Value → Value → List Value → Except PyExc (List Dict)
  search_eq : ∀ filter order (o l : ℤ), 0 ≤ o → 0 < l → env.search model filter o l order =
    (fun ids => (ids.drop o.toNat).take l.toNat) <$> matching filter order
  present : ∀ {filter order ids}, matching filter order = .ok ids → ∀ i ∈ ids, env.present model i = true
  readGroup_eq : ∀ filter groupby aggs (o l : ℤ), 0 ≤ o → 0 < l →
    G.readGroup model filter groupby aggs o (some l) =
      (fun gs => (gs.drop o.toNat).take l.toNat) <$> groups filter groupby aggs
  crossTab : ∀ {filter rows cols aggs raw},
    G.readGroup model filter (.list (rows.map .str ++ cols.map .str)) aggs 0 none = .ok raw →
      Groups rows cols raw ∧ ReprDocs py cols raw
  eq_docs : EqDocs fl py
  sorted_perm : ∀ ks ks', G.sorted ks = .ok ks' → ks'.Perm ks

variable {fl py G} in
/-- How many records or groups there are for a query, from its offset on; of a cross-tab, those that Python tells
apart by their keys. -/
def Query.available (S : Slices fl py env G model) : Query → Except PyExc ℕ
  | .search domain spec _ _ offset order => do
    let filterExpr ← buildFilter py domain spec
    let offset ← clampOffset py env offset
    let ids ← S.matching filterExpr (orElse order .none)
    return ids.length - offset.toNat
  | .aggregate rowGroupby colGroupby aggregates domain _ offset => do
    let filterExpr ← coerceDomain py domain
    let offset ← clampOffset py env offset
    let aggs ← aggregatesOf aggregates
    if colGroupby.truthy then
      let colKeys ← pyList colGroupby
      let rowKeys ← pyList (rowGroups rowGroupby)
      let raw ← G.readGroup model filterExpr (.list (rowKeys ++ colKeys)) aggs 0 none
      let rows ← strings rowKeys
      let cols ← strings colKeys
      return (distinct py (raw.map (tupleOf (rows ++ cols)))).length
    else
      let groups ← S.groups filterExpr (rowGroups rowGroupby) aggs
      return groups.length - offset.toNat

/-- The limit that is made of the one that a query asks for; the cross-tab has none. -/
def Query.pageSize : Query → Option ℤ
  | .search _ _ _ limit _ _ => (clampLimit py env limit).toOption
  | .aggregate _ colGroupby _ _ limit _ =>
    if colGroupby.truthy then none else (clampLimit py env limit).toOption

end Caps

section Sizes

variable {fl : String → Number} {py : Builtins} {env : Env} {G : Grouping} {model : String} {out : Value}

lemma clampOffset_nonneg {offset : Value} {o : ℤ} (h : clampOffset py env offset = .ok o) : 0 ≤ o := by
  have hb := limitBounds_spec py env
  unfold clampOffset at h
  obtain ⟨n, -, hn⟩ := except_bind_ok.1 h
  obtain rfl := except_pure_ok.1 hn
  have hcap : 0 ≤ (limitBounds py env).2 * maxOffsetPages :=
    Int.mul_nonneg (by omega) (by decide)
  omega

/-- `search` shows the rows of its page. -/
lemma searchFound_rows {domain spec fields limit offset order : Value} {found : Found}
    (h : searchFound py env model domain spec fields order limit offset = .ok found) :
    ∃ filterExpr l o selection rows, buildFilter py domain spec = .ok filterExpr ∧
      clampLimit py env limit = .ok l ∧ clampOffset py env offset = .ok o ∧
        searchRows py env model filterExpr selection l o order = .ok rows ∧ found.rows.length = rows.length := by
  unfold searchFound at h
  obtain ⟨⟨⟩, -, h⟩ := except_bind_ok.1 h
  obtain ⟨⟨⟩, -, h⟩ := except_bind_ok.1 h
  obtain ⟨filterExpr, hfilter, h⟩ := except_bind_ok.1 h
  obtain ⟨l, hl, h⟩ := except_bind_ok.1 h
  obtain ⟨o, ho, h⟩ := except_bind_ok.1 h
  obtain ⟨selection, -, h⟩ := except_bind_ok.1 h
  obtain ⟨rows, hrows, h⟩ := except_bind_ok.1 h
  refine ⟨filterExpr, l, o, selection, rows, hfilter, hl, ho, hrows, ?_⟩
  -- the total is counted in one of two ways, and the rows are shown alike
  simp only at h
  split_ifs at h
  all_goals
    obtain ⟨total, -, h⟩ := except_bind_ok.1 h
    obtain ⟨shown, hshown, h⟩ := except_bind_ok.1 h
    obtain rfl := except_pure_ok.1 h
    exact (mapM_ok.1 hshown).length_eq.symm

/-- The rows of a page are a slice of those that match. -/
lemma searchRows_length (S : Slices fl py env G model) {filterExpr : List Value} {selection : Selection} {l o : ℤ}
    {order : Value} {rows : List Dict} (hl : 0 < l) (ho : 0 ≤ o)
    (h : searchRows py env model filterExpr selection l o order = .ok rows) :
    ∃ ids, S.matching filterExpr (orElse order .none) = .ok ids ∧
      (rows.length : ℤ) = min l (ids.length - o.toNat : ℕ) := by
  unfold searchRows Env.searchRead at h
  obtain ⟨data, hdata, h⟩ := except_bind_ok.1 h
  obtain rfl := except_pure_ok.1 h
  obtain ⟨page, hpage, hread⟩ := except_bind_ok.1 hdata
  rw [S.search_eq _ _ _ _ ho hl] at hpage
  cases hm : S.matching filterExpr (orElse order .none) with
  | error e =>
    rw [hm] at hpage
    cases hpage
  | ok ids =>
    rw [hm] at hpage
    obtain rfl : (ids.drop o.toNat).take l.toNat = page := Except.ok.inj hpage
    refine ⟨ids, rfl, ?_⟩
    unfold Env.read at hread
    obtain ⟨names, -, hread⟩ := except_bind_ok.1 hread
    obtain ⟨⟨⟩, -, hread⟩ := except_bind_ok.1 hread
    obtain rfl := except_pure_ok.1 hread
    have hkept : ((ids.drop o.toNat).take l.toNat).filter (env.present model) =
        (ids.drop o.toNat).take l.toNat :=
      List.filter_eq_self.2 fun i hi => S.present hm i (List.mem_of_mem_drop (List.mem_of_mem_take hi))
    rw [List.length_map, List.length_map, hkept, List.length_take, List.length_drop]
    omega

/-- **`search`** lists as many records as there are, up to its limit. -/
lemma search_records (S : Slices fl py env G model) {domain spec fields limit offset order : Value}
    (h : search py env model domain spec fields limit offset order = .ok out) :
    ∃ l n, clampLimit py env limit = .ok l ∧
      (Query.search domain spec fields limit offset order).available env model S = .ok n ∧
        ((listed "records" out).length : ℤ) = min l n := by
  rw [search_eq] at h
  cases hf : searchFound py env model domain spec fields order limit offset with
  | error e =>
    rw [hf] at h
    cases h
  | ok found =>
    rw [hf] at h
    obtain rfl : Found.answer py env model found = out := Except.ok.inj h
    obtain ⟨filterExpr, l, o, selection, rows, hfilter, hl, ho, hrows, hlen⟩ := searchFound_rows hf
    obtain ⟨ids, hids, hcount⟩ := searchRows_length S (clampLimit_spec hl).1 (clampOffset_nonneg ho) hrows
    refine ⟨l, ids.length - o.toNat, hl, ?_, ?_⟩
    · unfold Query.available
      simp only [hfilter, ho, hids, ok_bind]
      rfl
    · show ((List.map Value.dict found.rows).length : ℤ) = _
      rw [List.length_map, hlen, hcount]

/-- What `aggregate` has made of its arguments when it comes to the pivot. -/
lemma aggregate_ok {rowGroupby colGroupby aggregates domain limit offset : Value}
    (h : aggregate py env G model rowGroupby colGroupby aggregates domain limit offset = .ok out) :
    ∃ filterExpr l o aggs, coerceDomain py domain = .ok filterExpr ∧ clampLimit py env limit = .ok l ∧
      clampOffset py env offset = .ok o ∧ aggregatesOf aggregates = .ok aggs ∧ (rowGroups rowGroupby).truthy = true ∧
        (if colGroupby.truthy then
          pyList colGroupby >>= fun colKeys => crossTab py G model (rowGroups rowGroupby) colKeys aggs filterExpr
        else flatPivot py G model (rowGroups rowGroupby) aggs filterExpr l o) = .ok out := by
  unfold aggregate at h
  obtain ⟨⟨⟩, -, h⟩ := except_bind_ok.1 h
  obtain ⟨⟨⟩, -, h⟩ := except_bind_ok.1 h
  cases hrow : (rowGroups rowGroupby).truthy with
  | false =>
    rw [hrow] at h
    cases h
  | true =>
    rw [hrow] at h
    obtain ⟨filterExpr, hfilter, h⟩ := except_bind_ok.1 h
    obtain ⟨l, hl, h⟩ := except_bind_ok.1 h
    obtain ⟨o, ho, h⟩ := except_bind_ok.1 h
    obtain ⟨aggs, haggs, h⟩ := except_bind_ok.1 h
    exact ⟨filterExpr, l, o, aggs, hfilter, hl, ho, haggs, rfl, h⟩

/-- **The flat pivot** lists as many groups as there are, up to its limit. -/
lemma aggregate_groups (S : Slices fl py env G model) {rowGroupby colGroupby aggregates domain limit offset : Value}
    (hcol : colGroupby.truthy = false)
    (h : aggregate py env G model rowGroupby colGroupby aggregates domain limit offset = .ok out) :
    ∃ l n, clampLimit py env limit = .ok l ∧
      (Query.aggregate rowGroupby colGroupby aggregates domain limit offset).available env model S = .ok n ∧
        ((listed "groups" out).length : ℤ) = min l n := by
  obtain ⟨filterExpr, l, o, aggs, hfilter, hl, ho, haggs, -, h⟩ := aggregate_ok h
  rw [if_neg (by simp [hcol])] at h
  have hpos := (clampLimit_spec hl).1
  obtain ⟨raw, hraw, hcount⟩ := flatPivot_groups hpos h
  rw [S.readGroup_eq _ _ _ _ _ (clampOffset_nonneg ho) (by omega)] at hraw
  cases hg : S.groups filterExpr (rowGroups rowGroupby) aggs with
  | error e =>
    rw [hg] at hraw
    cases hraw
  | ok gs =>
    rw [hg] at hraw
    obtain rfl : (gs.drop o.toNat).take (l + 1).toNat = raw := Except.ok.inj hraw
    refine ⟨l, gs.length - o.toNat, hl, ?_, ?_⟩
    · unfold Query.available
      simp only [hfilter, ho, haggs, hcol, hg, ok_bind, Bool.false_eq_true, if_false]
      rfl
    · rw [hcount, List.length_take, List.length_drop]
      omega

/-- There is an aggregate in every cell. -/
lemma aggregatesOf_ne {aggregates : Value} {aggs : List Value} (h : aggregatesOf aggregates = .ok aggs) :
    aggs ≠ [] := by
  unfold aggregatesOf at h
  split_ifs at h with ht
  · rintro rfl
    cases aggregates with
    | list xs =>
      obtain rfl := Except.ok.inj h
      cases ht
    | dict kvs =>
      obtain rfl := List.map_eq_nil_iff.1 (Except.ok.inj h)
      cases ht
    | str s =>
      have hs := List.map_eq_nil_iff.1 (Except.ok.inj h)
      have hs' : s = "" := String.toList_eq_nil_iff.1 hs
      simp [hs', Value.truthy] at ht
    | _ => cases h
  · obtain rfl := Except.ok.inj h
    exact List.cons_ne_nil _ _

/-- **The cross-tab** has a cell for every group that there is. -/
lemma aggregate_matrix (S : Slices fl py env G model) {rowGroupby colGroupby aggregates domain limit offset : Value}
    (hcol : colGroupby.truthy = true)
    (h : aggregate py env G model rowGroupby colGroupby aggregates domain limit offset = .ok out) :
    (Query.aggregate rowGroupby colGroupby aggregates domain limit offset).available env model S =
      .ok ((listed "matrix" out).flatMap cellsOf).length := by
  obtain ⟨filterExpr, l, o, aggs, hfilter, -, ho, haggs, htruthy, h⟩ := aggregate_ok h
  rw [if_pos hcol] at h
  obtain ⟨colKeys, hcols, h⟩ := except_bind_ok.1 h
  obtain ⟨rows, cols, cells, raw, colVals, rowVals, hrow, rfl, rfl, hraw, hcv, hrv, hmatrix⟩ := crossTab_ok h
  obtain ⟨hgroups, hrepr⟩ := S.crossTab hraw
  have hrows : rows ≠ [] := by
    rintro rfl
    rw [hrow] at htruthy
    cases htruthy
  have hcells : cells ≠ [] := fun h => aggregatesOf_ne haggs (by rw [h]; rfl)
  have hkeys : pyList (rowGroups rowGroupby) = .ok (rows.map .str) := by
    rw [hrow]
    rfl
  rw [hmatrix, matrix_cells S.eq_docs hrepr hgroups hrows hcells (S.sorted_perm _ _ hrv) (S.sorted_perm _ _ hcv)]
  unfold Query.available
  simp only [hfilter, ho, haggs, hcol, hcols, ok_bind, if_true, hkeys, hraw, strings_str]
  rfl

/-! ### Against the settings -/

/-- A query with a page returns what there is, up to its limit. -/
lemma Query.entries_page (S : Slices fl py env G model) {query : Query} {l : ℤ}
    (hpage : query.pageSize py env = some l) (h : query.run py env G model = .ok out) :
    ∃ n : ℕ, query.available env model S = .ok n ∧ ((query.entries out).length : ℤ) = min l n := by
  have hlimit : ∀ {limit : Value} {l' : ℤ}, clampLimit py env limit = .ok l' →
      (clampLimit py env limit).toOption = some l → l' = l := by
    intro limit l' hl' hl
    rw [hl'] at hl
    exact Option.some.inj hl
  cases query with
  | search domain spec fields limit offset order =>
    obtain ⟨l', n, hl', hn, hcount⟩ := search_records S h
    obtain rfl := hlimit hl' hpage
    exact ⟨n, hn, hcount⟩
  | aggregate rowGroupby colGroupby aggregates domain limit offset =>
    unfold Query.pageSize at hpage
    simp only at hpage
    split_ifs at hpage with hcol
    obtain ⟨l', n, hl', hn, hcount⟩ := aggregate_groups S (by simpa using hcol) h
    obtain rfl := hlimit hl' hpage
    refine ⟨n, hn, ?_⟩
    unfold Query.entries
    simp only
    rw [if_neg hcol]
    exact hcount

/-- A query without one returns all that there is. -/
lemma Query.entries_whole (S : Slices fl py env G model) {query : Query} (hpage : query.pageSize py env = none)
    (h : query.run py env G model = .ok out) :
    query.available env model S = .ok (query.entries out).length := by
  have hlimit : ∀ {limit : Value} {l : ℤ}, clampLimit py env limit = .ok l →
      (clampLimit py env limit).toOption ≠ none := by
    intro limit l hl hnone
    rw [hl] at hnone
    cases hnone
  cases query with
  | search domain spec fields limit offset order =>
    obtain ⟨l, n, hl, -⟩ := search_records S h
    exact absurd hpage (hlimit hl)
  | aggregate rowGroupby colGroupby aggregates domain limit offset =>
    unfold Query.pageSize at hpage
    simp only at hpage
    split_ifs at hpage with hcol
    · unfold Query.entries
      simp only
      rw [if_pos hcol]
      exact aggregate_matrix S hcol h
    · obtain ⟨l, n, hl, -⟩ := aggregate_groups S (by simpa using hcol) h
      exact absurd hpage (hlimit hl)

/-- **The cap on the size of a result.**  Whatever the settings, the query and the database, what is returned
keeps within the settings if and only if there is no more than that from the offset on, or the query is no
cross-tab and the limit that the parameters of the database make of the one asked for keeps within them. -/
theorem capped_iff (S : Slices fl py env G model) (c : LimitSettings) (query : Query)
    (h : query.run py env G model = .ok out) :
    ((query.entries out).length : ℤ) ≤ c.cap query.limit ↔
      (∃ n : ℕ, query.available env model S = .ok n ∧ (n : ℤ) ≤ c.cap query.limit) ∨
        ∃ l, query.pageSize py env = some l ∧ l ≤ c.cap query.limit := by
  cases hpage : query.pageSize py env with
  | none =>
    have hn := Query.entries_whole S hpage h
    constructor
    · exact fun hle => Or.inl ⟨_, hn, hle⟩
    · rintro (⟨n, hn', hle⟩ | ⟨l, hl, -⟩)
      · obtain rfl := Except.ok.inj (hn.symm.trans hn')
        exact hle
      · cases hl
  | some l =>
    obtain ⟨n, hn, hcount⟩ := Query.entries_page S hpage h
    constructor
    · intro hle
      by_cases hnl : (n : ℤ) ≤ l
      · exact Or.inl ⟨n, hn, by omega⟩
      · exact Or.inr ⟨l, rfl, by omega⟩
    · rintro (⟨n', hn', hle⟩ | ⟨l', hl', hle⟩)
      · obtain rfl := Except.ok.inj (hn.symm.trans hn')
        omega
      · obtain rfl := Option.some.inj hl'
        omega

/-- The limit of a page keeps within the settings where the parameters hold them. -/
lemma clampLimit_le_cap {c : LimitSettings}
    (hparams : limitBounds py env = (min c.defaultLimit c.maxLimit, c.maxLimit)) {limit : Value} {l : ℤ} (h : clampLimit py env limit = .ok l) : l ≤ c.cap limit := by
  unfold clampLimit at h
  rw [hparams] at h
  simp only at h
  split_ifs at h with ht
  · obtain rfl := Except.ok.inj h
    cases limit with
    | none => exact le_refl _
    | _ => exact min_le_right _ _
  · obtain ⟨n, -, hn⟩ := except_bind_ok.1 h
    obtain rfl := except_pure_ok.1 hn
    have hcap : c.cap limit = c.maxLimit := by
      cases limit with
      | none => exact absurd rfl ht
      | _ => rfl
    rw [hcap]
    split_ifs
    · exact min_le_right _ _
    · exact min_le_right _ _

/-- **Where the parameters hold the settings**, every query but the cross-tab keeps within them. -/
theorem capped_of_parameters (S : Slices fl py env G model) (c : LimitSettings)
    (hparams : limitBounds py env = (min c.defaultLimit c.maxLimit, c.maxLimit)) {query : Query} {l : ℤ}
    (hpage : query.pageSize py env = some l) (h : query.run py env G model = .ok out) :
    ((query.entries out).length : ℤ) ≤ c.cap query.limit := by
  obtain ⟨n, -, hcount⟩ := Query.entries_page S hpage h
  rw [hcount]
  refine (min_le_left _ _).trans ?_
  have hl : ∀ {limit : Value}, (clampLimit py env limit).toOption = some l → l ≤ c.cap limit := by
    intro limit hl
    cases hcl : clampLimit py env limit with
    | error e =>
      rw [hcl] at hl
      cases hl
    | ok l' =>
      rw [hcl] at hl
      obtain rfl := Option.some.inj hl
      exact clampLimit_le_cap hparams hcl
  cases query with
  | search domain spec fields limit offset order => exact hl hpage
  | aggregate rowGroupby colGroupby aggregates domain limit offset =>
    unfold Query.pageSize at hpage
    simp only at hpage
    split_ifs at hpage
    exact hl hpage

end Sizes

/-- The names of the partners, with no limit. -/
def partnersQuery : Query := .search .none .none (.list [.str "name"]) .none (.int 0) .none

def noGrouping : Grouping := ⟨fun _ _ _ _ _ _ => .ok [], .ok⟩

/-- The first of `n` partners, up to the limit of the module. -/
lemma partnersQuery_run (n : ℕ) : ∃ out, partnersQuery.run plainBuiltins (numberedEnv n) noGrouping "res.partner" =
    .ok out ∧ (partnersQuery.entries out).length = min 10 n := by
  have hl : clampLimit plainBuiltins (numberedEnv n) .none = .ok ((10 : ℕ) : ℤ) := rfl
  have ho : clampOffset plainBuiltins (numberedEnv n) (.int 0) = .ok ((0 : ℕ) : ℤ) := rfl
  obtain ⟨found, hf, hrows, -⟩ := (numberedSet n).found (by omega) hl ho
  refine ⟨found.answer plainBuiltins (numberedEnv n) "res.partner", ?_, ?_⟩
  · show search plainBuiltins (numberedEnv n) "res.partner" _ _ _ _ _ _ = _
    rw [search_eq, hf]
    rfl
  · show (List.map Value.dict found.rows).length = _
    rw [List.length_map, hrows, List.length_take, List.length_drop, numberedSet_length]
    omega

/-- Orders of two customers, by their salespersons. -/
def orderGroups : List Dict :=
  [[("partner_id", .list [.int 1, .str "Azure"]), ("user_id", .list [.int 2, .str "Marc"]), ("__count", .int 5)],
    [("partner_id", .list [.int 1, .str "Azure"]), ("user_id", .list [.int 3, .str "Demo"]), ("__count", .int 1)],
    [("partner_id", .list [.int 2, .str "Deco"]), ("user_id", .list [.int 2, .str "Marc"]), ("__count", .int 4)]]

def ordersBy (groupby : List String) : Except PyExc (List Dict) :=
  if groupby = ["partner_id", "user_id"] then .ok orderGroups else .error (.of .valueError "Invalid field")

def orderGrouping : Grouping where
  readGroup _ _ groupby _ o limit :=
    (fun gs => match limit with
      | none => gs
      | some l => (gs.drop o.toNat).take l.toNat) <$> ordersBy (groupby.items.filterMap Value.str?)
  sorted := .ok

lemma orderGroups_keyed {rows cols : List String} (h : rows ++ cols = ["partner_id", "user_id"]) :
    Groups rows cols orderGroups where
  keyed := by
    rw [h]
    intro g hg k hk
    simp only [orderGroups, List.mem_cons, List.not_mem_nil, or_false] at hg hk
    rcases hg with rfl | rfl | rfl <;> rcases hk with rfl | rfl <;> exact ⟨_, rfl, rfl⟩
  distinct := by
    rw [h]
    show [[Value.list [.int 1, .str "Azure"], .list [.int 2, .str "Marc"]],
      [.list [.int 1, .str "Azure"], .list [.int 3, .str "Demo"]],
      [.list [.int 2, .str "Deco"], .list [.int 2, .str "Marc"]]].Nodup
    simp

lemma orderGroups_repr {rows cols : List String} (h : rows ++ cols = ["partner_id", "user_id"]) :
    ReprDocs keyBuiltins cols orderGroups := by
  have hcols : cols = [] ∨ cols = ["user_id"] ∨ cols = ["partner_id", "user_id"] := by
    rcases rows with _ | ⟨r, _ | ⟨r', rows⟩⟩
    · exact Or.inr (Or.inr h)
    · exact Or.inr (Or.inl (List.cons.inj h).2)
    · exact Or.inl (List.append_eq_nil_iff.1 (List.cons.inj (List.cons.inj h).2).2).2
  have hsame : ∀ g ∈ orderGroups, ∀ g' ∈ orderGroups,
      keyBuiltins.repr (.list (tupleOf cols g)) = keyBuiltins.repr (.list (tupleOf cols g')) →
        tupleOf cols g = tupleOf cols g' := by
    intro g hg g' hg'
    simp only [orderGroups, List.mem_cons, List.not_mem_nil, or_false] at hg hg'
    rcases hcols with rfl | rfl | rfl <;> rcases hg with rfl | rfl | rfl <;> rcases hg' with rfl | rfl | rfl
    all_goals first | exact fun _ => rfl | exact fun h => absurd h (by decide)
  refine ⟨hsame, fun g hg => ?_⟩
  simp only [orderGroups, List.mem_cons, List.not_mem_nil, or_false] at hg
  rcases hcols with rfl | rfl | rfl <;> rcases hg with rfl | rfl | rfl <;> decide

def orderSlices : Slices (fun _ => ⊥) keyBuiltins partnerEnv orderGrouping "sale.order" where
  matching _ _ := .ok []
  groups _ groupby _ := ordersBy (groupby.items.filterMap Value.str?)
  search_eq _ _ _ _ _ _ := by
    show Except.ok [] = Except.ok ((([] : List ℤ).drop _).take _)
    rw [List.drop_nil, List.take_nil]
  present h i hi := by
    obtain rfl := Except.ok.inj h
    cases hi
  readGroup_eq _ _ _ _ _ _ _ := rfl
  crossTab {filter rows cols aggs raw} h := by
    have hnames : (Value.list (rows.map .str ++ cols.map .str)).items.filterMap Value.str? = rows ++ cols := by
      show (rows.map Value.str ++ cols.map Value.str).filterMap Value.str? = _
      rw [← List.map_append, List.filterMap_map]
      exact List.filterMap_some
    have h : (fun gs => gs) <$> ordersBy ((Value.list (rows.map .str ++ cols.map .str)).items.filterMap Value.str?) =
      .ok raw := h
    rw [hnames] at h
    unfold ordersBy at h
    split_ifs at h with hall
    · obtain rfl : orderGroups = raw := Except.ok.inj h
      exact ⟨orderGroups_keyed hall, orderGroups_repr hall⟩
    · cases h
  eq_docs := keyBuiltins_eq
  sorted_perm ks ks' h := by
    obtain rfl := Except.ok.inj h
    exact List.Perm.refl _

/-- The orders by customer and salesperson, with no limit. -/
def ordersQuery : Query := .aggregate (.str "partner_id") (.list [.str "user_id"]) .none .none .none (.int 0)

/-- With the settings as they are installed, the three groups of a cross-tab of two rows. -/
theorem capped_iff_orders : ∃ out, ordersQuery.run keyBuiltins partnerEnv orderGrouping "sale.order" = .ok out ∧
    (ordersQuery.entries out).length = 3 ∧
      ((ordersQuery.entries out).length : ℤ) ≤ (⟨10, 100, by omega, by omega⟩ : LimitSettings).cap .none :=
  ⟨_, rfl, rfl, (capped_iff orderSlices _ ordersQuery rfl).2 (Or.inl ⟨3, rfl, by decide⟩)⟩

/-- With both settings at 5 as well. -/
theorem settings_exceeded : ∃ out,
    partnersQuery.run plainBuiltins (numberedEnv 25) noGrouping "res.partner" = .ok out ∧
      ¬ ((partnersQuery.entries out).length : ℤ) ≤ (⟨5, 5, by omega, by omega⟩ : LimitSettings).cap .none := by
  obtain ⟨out, hout, hlen⟩ := partnersQuery_run 25
  refine ⟨out, hout, ?_⟩
  rw [hlen]
  decide

end AdvMcp.Read
