import AdvMcp.Lib.Pager
import AdvMcp.Lib.Savepoint
import AdvMcp.Read.Secrecy

/-!
# Paging through `search`

A client starts at offset 0 and issues the call that each answer names as the next page, until an answer
names none.

* `searchFound` — `search` up to the formatting of its answer (`search_eq`);
* `ResultSet` — calls that are admitted, over a fixed list of matching records;
* `Walk` — the client's calls; they are the reading of a pager (`ResultSet.complete_iff_pages`) whose cap is the largest
  offset, `max_limit` times `MAX_OFFSET_PAGES`;
* `paging_complete_iff` — so the client comes to an end with every record once exactly when the last page
  starts within that offset.
-/

namespace AdvMcp.Read

open AdvMcp.Py AdvMcp.Lib

/-! ### The answer of `search` -/

/-- What `search` finds: the filter and the fields that it uses, the rows and the page. -/
structure Found where
  filterExpr : List Value
  selection : Selection
  rows : List Dict
  page : Page

section Search

variable (py : Builtins) (env : Env) (model : String) (domain spec fields order : Value)

/-- `search`, up to the formatting of its answer. -/
def searchFound (limit offset : Value) : Except PyExc Found := do
  resolveModel env model
  checkOp py env model "read"
  let filterExpr ← buildFilter py domain spec
  let limit ← clampLimit py env limit
  let offset ← clampOffset py env offset
  let schema := env.fieldsGet model schemaFieldAttributes
  let selection ← resolveFields py env fields schema
  let rows ← searchRows py env model filterExpr selection limit offset order
  let total ← if offset = 0 && (limit = 0 || rows.length < limit) then pure (rows.length : ℤ)
    else env.searchCount model filterExpr
  let rows ← rows.mapM (replaceBinaryUris py model schema)
  let totalPages := if limit = 0 then 1 else (total + limit - 1).fdiv limit
  let currentPage := if limit = 0 then 1 else offset.fdiv limit + 1
  let (nextHint, prevHint) := pageHints "search" offset limit rows.length total
  return ⟨filterExpr, selection, rows, limit, offset, total, nextHint, prevHint, currentPage, totalPages⟩

/-- The answer: the text, and the structured content. -/
def Found.answer (found : Found) : Value :=
  result
    (formatSearchResults py model found.rows found.filterExpr
      (found.selection.toRead.map fun fields => fields.filterMap Value.str?)
      (env.fieldsGet model schemaFieldAttributes) found.page)
    (.dict [("records", .list (found.rows.map .dict)), ("total", .int found.page.totalCount),
      ("limit", .int found.page.limit), ("offset", .int found.page.offset), ("model", .str model)])

/-- **`search` answers with what it finds.** -/
theorem search_eq (limit offset : Value) : search py env model domain spec fields limit offset order =
    Found.answer py env model <$> searchFound py env model domain spec fields order limit offset := by
  unfold search searchFound
  simp only [map_bind]
  refine bind_congr fun _ => bind_congr fun _ => bind_congr fun filterExpr => bind_congr fun l =>
    bind_congr fun o => bind_congr fun selection => bind_congr fun rows => ?_
  split_ifs <;> simp only [map_bind, map_pure] <;> rfl

/-! ### The hints -/

/-- The text of `_page_hints` for a call. -/
def hint (offset limit : ℕ) : String :=
  "search with offset=" ++ toString (offset : ℤ) ++ ", limit=" ++ toString (limit : ℤ)

end Search

lemma toList_toString (n : ℕ) : (toString (n : ℤ)).toList = Nat.toDigits 10 n := by
  rw [Int.toString_eq_repr, Int.repr_eq_if, if_pos (Int.natCast_nonneg n), Int.toNat_natCast]
  simp [Nat.repr]

/-- The next page is named while there are rows behind the page. -/
lemma pageHints_next (o l total : ℕ) :
    (pageHints "search" o l (min l (total - o) : ℕ) total).1 =
      if o + l < total then some (hint (o + l) l) else none := by
  unfold pageHints
  by_cases hmore : o + l < total
  · have hcount : (o : ℤ) + (min l (total - o) : ℕ) < total := by omega
    simp only [hcount, hmore, if_true]
    rfl
  · have hcount : ¬ (o : ℤ) + (min l (total - o) : ℕ) < total := by omega
    simp only [hcount, hmore, if_false]

/-- A hint names one call. -/
lemma hint_injective {o l o' l' : ℕ} (h : hint o l = hint o' l') : o = o' ∧ l = l' := by
  have hdigits : ∀ n : ℕ, ∀ c ∈ Nat.toDigits 10 n, c.isDigit = true := fun n c hc =>
    Nat.isDigit_of_mem_toDigits (by decide) (by decide) hc
  have hnat : ∀ {n n' : ℕ}, Nat.toDigits 10 n = Nat.toDigits 10 n' → n = n' := by
    intro n n' he
    have hval := congrArg (fun cs => Nat.ofDigitChars 10 cs 0) he
    simpa using hval
  have hlist := congrArg String.toList h
  unfold hint at hlist
  simp only [String.toList_append, toList_toString, List.append_assoc, List.append_cancel_left_eq] at hlist
  have hsep : (", limit=").toList = ',' :: (" limit=").toList := by decide
  rw [hsep, List.cons_append, List.cons_append] at hlist
  have htake := congrArg (List.takeWhile Char.isDigit) hlist
  have hdrop := congrArg (List.dropWhile Char.isDigit) hlist
  have hcomma : Char.isDigit ',' = false := by decide
  rw [(takeWhile_clean (hdigits o) hcomma).1, (takeWhile_clean (hdigits o') hcomma).1] at htake
  rw [(takeWhile_clean (hdigits o) hcomma).2, (takeWhile_clean (hdigits o') hcomma).2] at hdrop
  have hlim := (List.cons.inj hdrop).2
  rw [List.append_cancel_left_eq] at hlim
  exact ⟨hnat htake, hnat hlim⟩

/-! ### The bounds -/

section Bounds

variable {py : Builtins} {env : Env}

lemma limitBounds_spec (py : Builtins) (env : Env) :
    0 < (limitBounds py env).1 ∧ (limitBounds py env).1 ≤ (limitBounds py env).2 := by
  have hlo : ∀ n d : ℤ, 0 < d → 0 < if 0 < n then n else d := by
    intro n d hd
    split_ifs with h
    · exact h
    · exact hd
  unfold limitBounds
  exact ⟨lt_min (hlo _ _ (by decide)) (hlo _ _ (by decide)), min_le_right _ _⟩

/-- The page size is positive, and at most the largest limit. -/
lemma clampLimit_spec {limit : Value} {l : ℤ} (h : clampLimit py env limit = .ok l) :
    0 < l ∧ l ≤ (limitBounds py env).2 := by
  obtain ⟨h1, h2⟩ := limitBounds_spec py env
  unfold clampLimit at h
  simp only at h
  split_ifs at h with ht
  · obtain rfl := Except.ok.inj h
    exact ⟨h1, h2⟩
  · obtain ⟨n, -, hn⟩ := except_bind_ok.1 h
    have hn' := except_pure_ok.1 hn
    split_ifs at hn' with hle
    · omega
    · omega

/-- The limit of a hint is taken as it is. -/
lemma clampLimit_self {l : ℕ} (h : 0 < l) (hl : (l : ℤ) ≤ (limitBounds py env).2) :
    clampLimit py env (.int l) = .ok l := by
  have ht : (Value.int l).truthy = true := by
    show decide ((l : ℤ) ≠ 0) = true
    exact decide_eq_true (by omega)
  unfold clampLimit
  simp only [ht, Bool.not_true, Bool.false_eq_true, if_false]
  show Except.ok _ = _
  rw [if_neg (by omega), min_eq_left hl]

/-- An offset beyond the largest one is moved back to it. -/
lemma clampOffset_nat (o : ℕ) {cap : ℕ} (hcap : (limitBounds py env).2 * maxOffsetPages = cap) :
    clampOffset py env (.int o) = .ok ((min o cap : ℕ) : ℤ) := by
  have harg : (if (Value.int o).truthy = true then Value.int o else .int 0) = .int o := by
    cases o with
    | zero => rfl
    | succ o =>
      have hne : ((o + 1 : ℕ) : ℤ) ≠ 0 := by omega
      exact if_pos (decide_eq_true hne)
  unfold clampOffset
  rw [harg, hcap]
  show Except.ok _ = _
  rw [max_eq_right (Int.natCast_nonneg o)]
  exact congrArg Except.ok (by omega)

end Bounds

/-! ### A fixed result -/

/-- Calls of `search` that are admitted, over a fixed list of matching records, with the row that is shown
of each. -/
structure ResultSet (py : Builtins) (env : Env) (model : String) (domain spec fields order : Value) where
  filterExpr : List Value
  selection : Selection
  names : List String
  ids : List ℤ
  rows : List Dict
  resolved : resolveModel env model = .ok ()
  allowed : checkOp py env model "read" = .ok ()
  filter : buildFilter py domain spec = .ok filterExpr
  selected : resolveFields py env fields (env.fieldsGet model schemaFieldAttributes) = .ok selection
  named : env.fieldNames model selection.toRead = .ok names
  readable : ∀ l, env.checkRead model l names = none
  present : ∀ i ∈ ids, env.present model i = true
  search : ∀ o l : ℕ, env.search model filterExpr o l (orElse order .none) = .ok ((ids.drop o).take l)
  count : env.searchCount model filterExpr = .ok ids.length
  shown : ids.mapM (fun i => replaceBinaryUris py model (env.fieldsGet model schemaFieldAttributes)
    (keptFields py selection (env.row model names i))) = .ok rows

section Walk

variable {py : Builtins} {env : Env} {model : String} {domain spec fields order : Value}

lemma ResultSet.length (R : ResultSet py env model domain spec fields order) :
    R.ids.length = R.rows.length := (mapM_ok.1 R.shown).length_eq

/-- The rows of a page, before the binary fields are replaced. -/
lemma ResultSet.searchRows (R : ResultSet py env model domain spec fields order) (o l : ℕ) :
    searchRows py env model R.filterExpr R.selection l o order =
      .ok (((R.ids.drop o).take l).map fun i => keptFields py R.selection (env.row model R.names i)) := by
  have hkept : ((R.ids.drop o).take l).filter (env.present model) = (R.ids.drop o).take l := by
    refine List.filter_eq_self.2 fun i hi => R.present i ?_
    exact List.mem_of_mem_drop (List.mem_of_mem_take hi)
  have hread : env.searchRead model R.filterExpr R.selection.toRead o l (orElse order .none) =
      .ok (((R.ids.drop o).take l).map (env.row model R.names)) := by
    unfold Env.searchRead Env.read
    rw [R.search, R.named]
    show (orRaise (env.checkRead model _ R.names) >>= fun _ => _) = _
    rw [R.readable]
    show Except.ok _ = _
    rw [hkept]
  unfold Read.searchRows
  rw [hread]
  show Except.ok _ = _
  rw [List.map_map]
  rfl

/-- **A page** is a slice of the result set, with its total, and names the next one. -/
lemma ResultSet.found (R : ResultSet py env model domain spec fields order) {limit offset : Value}
    {l o : ℕ} (hpos : 0 < l) (hl : clampLimit py env limit = .ok (l : ℤ))
    (ho : clampOffset py env offset = .ok (o : ℤ)) :
    ∃ found, searchFound py env model domain spec fields order limit offset = .ok found ∧
      found.rows = (R.rows.drop o).take l ∧ found.page.totalCount = R.rows.length ∧
      found.page.nextHint = if o + l < R.rows.length then some (hint (o + l) l) else none := by
  have hlen := R.length
  have hrows := R.searchRows o l
  have hshown : (((R.ids.drop o).take l).map fun i => keptFields py R.selection (env.row model R.names i)).mapM
      (replaceBinaryUris py model (env.fieldsGet model schemaFieldAttributes)) =
      .ok ((R.rows.drop o).take l) := by
    rw [mapM_ok, List.forall₂_map_left_iff]
    exact List.forall₂_take _ (List.forall₂_drop _ (mapM_ok.1 R.shown))
  have hcount : (((R.ids.drop o).take l).map
      fun i => keptFields py R.selection (env.row model R.names i)).length = min l (R.rows.length - o) := by
    rw [List.length_map, List.length_take, List.length_drop, hlen]
  have hcount' : ((R.rows.drop o).take l).length = min l (R.rows.length - o) := by
    rw [List.length_take, List.length_drop]
  -- the shortcut for the total counts a first page that is not full, and so the whole result
  have htotal : (o : ℤ) = 0 → ((min l (R.rows.length - o) : ℕ) : ℤ) < l →
      ((min l (R.rows.length - o) : ℕ) : ℤ) = R.rows.length := by
    intro h0 hlt
    omega
  have hnext := pageHints_next o l R.rows.length
  unfold searchFound
  rw [R.resolved, R.allowed, R.filter, hl, ho]
  simp only [ok_bind, R.selected, hrows, hcount, pure_bind, hshown, hcount', R.count, hlen]
  by_cases hfirst : (decide ((o : ℤ) = 0) &&
      (decide ((l : ℤ) = 0) || decide (((min l (R.rows.length - o) : ℕ) : ℤ) < l))) = true
  · rw [if_pos hfirst]
    simp only [Bool.and_eq_true, Bool.or_eq_true, decide_eq_true_eq] at hfirst
    have ht := htotal hfirst.1 (hfirst.2.resolve_left (by omega))
    rw [← ht] at hnext
    exact ⟨_, rfl, rfl, ht, hnext⟩
  · rw [if_neg hfirst]
    exact ⟨_, rfl, rfl, rfl, hnext⟩

/-! ### The walk -/

/-- The client who issues a call, and then the one that each answer names, comes to an end, and has been
given these answers. -/
inductive Walk (py : Builtins) (env : Env) (model : String) (domain spec fields order : Value) :
    Value → Value → List Found → Prop
  | last {limit offset : Value} {found : Found} :
      searchFound py env model domain spec fields order limit offset = .ok found →
      found.page.nextHint = none → Walk py env model domain spec fields order limit offset [found]
  | next {limit offset : Value} {found : Found} {o l : ℕ} {founds : List Found} :
      searchFound py env model domain spec fields order limit offset = .ok found →
      found.page.nextHint = some (hint o l) →
      Walk py env model domain spec fields order (.int l) (.int o) founds →
      Walk py env model domain spec fields order limit offset (found :: founds)

/-- The client comes to an end, has been given every row once, in order, and each time their number. -/
def ResultSet.Complete (R : ResultSet py env model domain spec fields order) (limit : Value) : Prop :=
  ∃ founds, Walk py env model domain spec fields order limit (.int 0) founds ∧
    (founds.map (·.rows)).flatten = R.rows ∧ ∀ found ∈ founds, found.page.totalCount = R.rows.length

section Pages

variable (R : ResultSet py env model domain spec fields order) {limit offset : Value} {l cap o : ℕ}
  {founds : List Found}

/-- What the client is given are the pages of a pager, and each says how many rows there are. -/
lemma ResultSet.pages_of_walk (hcap : (limitBounds py env).2 * maxOffsetPages = cap)
    (hw : Walk py env model domain spec fields order limit offset founds) :
    ∀ o : ℕ, clampLimit py env limit = .ok (l : ℤ) → offset = .int o →
      Pages R.rows l cap o (founds.map (·.rows)) ∧
        ∀ found ∈ founds, found.page.totalCount = R.rows.length := by
  induction hw with
  | @last limit offset found hf hnone =>
    intro o hl ho
    subst ho
    obtain ⟨found', hf', hrows, htotal, hhint⟩ :=
      R.found (Int.natCast_pos.1 (clampLimit_spec hl).1) hl (clampOffset_nat o hcap)
    obtain rfl : found' = found := Except.ok.inj (hf'.symm.trans hf)
    rw [hnone] at hhint
    refine ⟨?_, by simpa using htotal⟩
    rw [List.map_singleton, hrows]
    refine .last ?_
    by_contra hmore
    rw [if_pos (by omega)] at hhint
    cases hhint
  | @next limit offset found o' l' founds hf hsome _ ih =>
    intro o hl ho
    subst ho
    have hpos := clampLimit_spec hl
    obtain ⟨found', hf', hrows, htotal, hhint⟩ :=
      R.found (Int.natCast_pos.1 hpos.1) hl (clampOffset_nat o hcap)
    obtain rfl : found' = found := Except.ok.inj (hf'.symm.trans hf)
    rw [hsome] at hhint
    by_cases hmore : min o cap + l < R.rows.length
    · rw [if_pos hmore] at hhint
      obtain ⟨rfl, rfl⟩ := hint_injective (Option.some.inj hhint)
      obtain ⟨hps, hts⟩ := ih _ (clampLimit_self (Int.natCast_pos.1 hpos.1) hpos.2) rfl
      rw [List.map_cons, hrows]
      exact ⟨.next hmore hps, List.forall_mem_cons.2 ⟨htotal, hts⟩⟩
    · rw [if_neg hmore] at hhint
      cases hhint

/-- The pages of the pager are what a client is given. -/
lemma ResultSet.walk_of_pages (hcap : (limitBounds py env).2 * maxOffsetPages = cap)
    {ps : List (List Dict)} (hps : Pages R.rows l cap o ps) :
    ∀ limit : Value, clampLimit py env limit = .ok (l : ℤ) →
      ∃ founds, Walk py env model domain spec fields order limit (.int o) founds ∧
        founds.map (·.rows) = ps := by
  induction hps with
  | @last o hlast =>
    intro limit hl
    obtain ⟨found, hf, hrows, -, hhint⟩ :=
      R.found (Int.natCast_pos.1 (clampLimit_spec hl).1) hl (clampOffset_nat o hcap)
    rw [if_neg (by omega)] at hhint
    exact ⟨[found], .last hf hhint, by rw [List.map_singleton, hrows]⟩
  | @next o ps hmore _ ih =>
    intro limit hl
    have hpos := clampLimit_spec hl
    obtain ⟨found, hf, hrows, -, hhint⟩ :=
      R.found (Int.natCast_pos.1 hpos.1) hl (clampOffset_nat o hcap)
    rw [if_pos hmore] at hhint
    obtain ⟨founds, hw, hmap⟩ := ih _ (clampLimit_self (Int.natCast_pos.1 hpos.1) hpos.2)
    exact ⟨found :: founds, .next hf hhint hw, by rw [List.map_cons, hrows, hmap]⟩

/-- The client's calls are complete when the reading of the pager is. -/
lemma ResultSet.complete_iff_pages (hcap : (limitBounds py env).2 * maxOffsetPages = cap)
    (hl : clampLimit py env limit = .ok (l : ℤ)) :
    R.Complete limit ↔ ∃ ps, Pages R.rows l cap 0 ps ∧ ps.flatten = R.rows := by
  constructor
  · rintro ⟨founds, hw, hflat, -⟩
    exact ⟨_, (R.pages_of_walk hcap hw 0 hl rfl).1, hflat⟩
  · rintro ⟨ps, hps, hflat⟩
    obtain ⟨founds, hw, hmap⟩ := R.walk_of_pages hcap hps limit hl
    exact ⟨founds, hw, by rw [hmap, hflat], (R.pages_of_walk hcap hw 0 hl rfl).2⟩

end Pages

/-- **Paging completeness**, for every fixed result, every limit and all bounds: the client comes to an end,
has been given every record once, in order, and each time their number, exactly when the offset of the
last page is at most the largest one. -/
theorem paging_complete_iff (R : ResultSet py env model domain spec fields order) {limit : Value} {l : ℤ}
    (hl : clampLimit py env limit = .ok l) :
    R.Complete limit ↔ (R.rows.length : ℤ) ≤ ((limitBounds py env).2 * maxOffsetPages / l + 1) * l := by
  have hb := limitBounds_spec py env
  have hpos := (clampLimit_spec hl).1
  have hcap0 : 0 ≤ (limitBounds py env).2 * maxOffsetPages := by
    unfold maxOffsetPages
    omega
  obtain ⟨cap, hcap⟩ := Int.eq_ofNat_of_zero_le hcap0
  obtain ⟨l, rfl⟩ := Int.eq_ofNat_of_zero_le hpos.le
  rw [R.complete_iff_pages hcap hl, pages_complete_iff (Int.natCast_pos.1 hpos), hcap]
  norm_cast

end Walk

/-! ### Many partners -/

/-- A database with `n` partners. -/
def numberedEnv (n : ℕ) : Env :=
  { partnerEnv with
    present := fun _ _ => true
    value := fun _ => .str "Azure"
    search := fun _ _ o l _ => .ok ((((List.range n).map Int.ofNat).drop o.toNat).take l.toNat)
    searchCount := fun _ _ => .ok n }

/-- The names of all partners. -/
def numberedSet (n : ℕ) : ResultSet plainBuiltins (numberedEnv n) "res.partner" .none .none
    (.list [.str "name"]) .none where
  filterExpr := []
  selection := .explicit [.str "name"]
  names := ["name"]
  ids := (List.range n).map Int.ofNat
  rows := ((List.range n).map Int.ofNat).map ((numberedEnv n).row "res.partner" ["name"])
  resolved := rfl
  allowed := rfl
  filter := rfl
  selected := rfl
  named := rfl
  readable _ := rfl
  present _ _ := rfl
  search _ _ := rfl
  count := by rw [List.length_map, List.length_range]; rfl
  shown := by
    rw [mapM_ok, List.forall₂_map_right_iff, List.forall₂_same]
    exact fun i _ => rfl

lemma numberedSet_length (n : ℕ) : (numberedSet n).rows.length = n := by
  show (List.map _ (List.map _ (List.range n))).length = n
  rw [List.length_map, List.length_map, List.length_range]

/-- The names of 25 partners, on pages of the default limit. -/
theorem paging_complete_partners : (numberedSet 25).Complete .none := by
  have hl : clampLimit plainBuiltins (numberedEnv 25) .none = .ok 10 := rfl
  exact (paging_complete_iff (numberedSet 25) hl).2 (by decide)

/-- The client who reads the names of 100011 partners, on pages of the default limit, never comes to an end
with every record read once. -/
theorem paging_stuck : ¬ (numberedSet 100011).Complete .none := by
  intro h
  have hcap : (limitBounds plainBuiltins (numberedEnv 100011)).2 * maxOffsetPages = (100000 : ℕ) := rfl
  have hl : clampLimit plainBuiltins (numberedEnv 100011) .none = .ok ((10 : ℕ) : ℤ) := rfl
  have hps := ((numberedSet 100011).complete_iff_pages hcap hl).1 h
  have hle := (pages_complete_iff (by decide)).1 hps
  rw [numberedSet_length] at hle
  omega

end AdvMcp.Read
