import AdvMcp.Read.Paging

/-!
# Arguments that are refused

What the argument readers of `models/read_tools.py` do with any value at all: which exceptions leave
`_clamp_limit` and `_clamp_offset`, and whether `search` and `count` read a domain in the same way.

* `clamps_iff` — the two page arguments stay within their bounds or are refused with a `UserError`,
  exactly when `int()` does not fail in a way that the code does not handle;
* `sameFilter_iff` — the domains of which `_build_filter` and `_coerce_domain` make the same.
-/

namespace AdvMcp.Read

open AdvMcp.Py

/-! ### `int()` -/

section Integers

variable {py : Builtins}

/-- How `int()` fails, by Python's documentation. -/
structure IntDocs (py : Builtins) : Prop where
  finite : ∀ t, t ∉ ["inf", "-inf", "nan"] → ∃ n, py.intOfFloat t = .ok n
  /-- An `OverflowError` -/
  infinite : ∀ t ∈ ["inf", "-inf"], ∃ e, py.intOfFloat t = .error e ∧ e.cls = .exception
  nan : ∃ e, py.intOfFloat "nan" = .error e ∧ e.cls = .valueError
  str : ∀ s e, py.intOfStr s = .error e → e.cls = .valueError

/-- `float("inf")` or `float("-inf")` -/
def isInfinite : Value → Bool
  | .float t => t ∈ ["inf", "-inf"]
  | _ => false

/-- A boolean, an integer, a finite float, or a string that is the literal of an integer. -/
def IsIntegral (py : Builtins) : Value → Prop
  | .bool _ => True
  | .int _ => True
  | .float t => t ∉ ["inf", "-inf", "nan"]
  | .str s => ∃ n, py.intOfStr s = .ok n
  | _ => False

lemma int_of_isIntegral (D : IntDocs py) {v : Value} (h : IsIntegral py v) : ∃ n, py.int v = .ok n := by
  cases v with
  | bool b => exact ⟨_, rfl⟩
  | int n => exact ⟨n, rfl⟩
  | float t => exact D.finite t h
  | str s => exact h
  | _ => exact h.elim

/-- `int()` of an infinite float raises an exception that is neither a `TypeError` nor a `ValueError`. -/
lemma int_of_isInfinite (D : IntDocs py) {v : Value} (h : isInfinite v = true) :
    ∃ e, py.int v = .error e ∧ e.cls = .exception := by
  cases v with
  | float t => exact D.infinite t (of_decide_eq_true h)
  | _ => exact absurd h Bool.false_ne_true

/-- Anything else that is no integer raises one of the two. -/
lemma int_fails (D : IntDocs py) {v : Value} (hi : isInfinite v = false) (h : ¬ IsIntegral py v) :
    ∃ e, py.int v = .error e ∧ e.cls ∈ [ExcClass.typeError, .valueError] := by
  cases v with
  | bool b => exact absurd trivial h
  | int n => exact absurd trivial h
  | float t =>
    have ht : t = "nan" := by
      have hinf : t ∉ ["inf", "-inf"] := of_decide_eq_false hi
      have hmem : t ∈ ["inf", "-inf", "nan"] := not_not.1 h
      simp only [List.mem_cons, List.not_mem_nil, or_false] at hinf hmem
      tauto
    obtain ⟨e, he, hcls⟩ := D.nan
    rw [ht]
    exact ⟨e, he, by simp [hcls]⟩
  | str s =>
    cases hs : py.intOfStr s with
    | ok n => exact absurd ⟨n, hs⟩ h
    | error e => exact ⟨e, hs, by simp [D.str s e hs]⟩
  | _ => exact ⟨_, rfl, by simp [PyExc.of]⟩

lemma isInfinite_of_isIntegral {v : Value} (h : IsIntegral py v) : isInfinite v = false := by
  cases v with
  | float t =>
    have ht : t ∉ ["inf", "-inf", "nan"] := h
    simp only [List.mem_cons, List.not_mem_nil, or_false, not_or] at ht
    simp [isInfinite, ht]
  | _ => rfl

/-- The three outcomes of an `int()` that the code guards. -/
lemma intElse_cases (D : IntDocs py) (v : Value) (raised : PyExc) :
    (IsIntegral py v ∧ ∃ n, intElse py v raised = .ok n) ∨
    (isInfinite v = true ∧ ∃ e, intElse py v raised = .error e ∧ e.cls = .exception) ∨
    (¬ IsIntegral py v ∧ isInfinite v = false ∧ intElse py v raised = .error raised) := by
  unfold intElse
  by_cases hint : IsIntegral py v
  · obtain ⟨n, hn⟩ := int_of_isIntegral D hint
    rw [hn]
    exact Or.inl ⟨hint, n, rfl⟩
  · cases hinf : isInfinite v with
    | true =>
      obtain ⟨e, he, hcls⟩ := int_of_isInfinite D hinf
      have hne : e.cls ∉ [ExcClass.typeError, .valueError] := by simp [hcls]
      rw [he]
      exact Or.inr (Or.inl ⟨rfl, e, if_neg hne, hcls⟩)
    | false =>
      obtain ⟨e, he, hcls⟩ := int_fails D hinf hint
      rw [he]
      exact Or.inr (Or.inr ⟨hint, rfl, if_pos hcls⟩)

end Integers

/-! ### The page -/

section Page

variable {py : Builtins}

/-- The call returns an integer between the two bounds, or raises a `UserError`. -/
def Clamped (r : Except PyExc ℤ) (lo hi : ℤ) : Prop :=
  match r with
  | .ok n => lo ≤ n ∧ n ≤ hi
  | .error e => e.isUserError = true

lemma not_isUserError {e : PyExc} (h : e.cls = .exception) : e.isUserError = false := by
  simp [PyExc.isUserError, h]

lemma clampLimit_clamped (D : IntDocs py) (env : Env) (limit : Value) :
    Clamped (clampLimit py env limit) 1 (limitBounds py env).2 ↔ isInfinite limit = false := by
  have hspec : ∀ l, clampLimit py env limit = .ok l →
      Clamped (clampLimit py env limit) 1 (limitBounds py env).2 := by
    intro l hl
    have hbounds := clampLimit_spec hl
    rw [hl]
    exact ⟨by omega, hbounds.2⟩
  by_cases ht : limit.truthy = true
  · have hdef : clampLimit py env limit = (intArg py limit "'limit' must be an integer.").bind fun n =>
        .ok (if n ≤ 0 then (limitBounds py env).1 else min n (limitBounds py env).2) := by
      unfold clampLimit
      rw [ht]
      rfl
    rcases intElse_cases D limit (.of .userError "'limit' must be an integer.") with
      ⟨hint, n, hn⟩ | ⟨hinf, e, he, hcls⟩ | ⟨-, hinf, he⟩
    · rw [intArg, hn] at hdef
      exact iff_of_true (hspec _ hdef) (isInfinite_of_isIntegral hint)
    · rw [hdef, intArg, he, hinf]
      refine iff_of_false (fun h => ?_) (by simp)
      have hu : e.isUserError = true := h
      rw [not_isUserError hcls] at hu
      exact Bool.false_ne_true hu
    · rw [hdef, intArg, he]
      exact iff_of_true rfl hinf
  · have hl : clampLimit py env limit = .ok (limitBounds py env).1 := by
      unfold clampLimit
      simp [ht]
    refine iff_of_true (hspec _ hl) ?_
    cases limit with
    | float t =>
      have hmem : t ∈ ["0.0", "-0.0"] := not_not.1 fun h => ht (decide_eq_true h)
      simp only [List.mem_cons, List.not_mem_nil, or_false] at hmem
      rcases hmem with rfl | rfl <;> decide
    | _ => rfl

/-- The offset that `int()` is applied to. -/
lemma clampOffset_clamped (D : IntDocs py) (env : Env) (offset : Value) :
    Clamped (clampOffset py env offset) 0 ((limitBounds py env).2 * maxOffsetPages) ↔
      (offset.truthy = true → IsIntegral py offset) := by
  have hb := limitBounds_spec py env
  have hcap : 0 ≤ (limitBounds py env).2 * maxOffsetPages := Int.mul_nonneg (by omega) (by decide)
  have harg : IsIntegral py (if offset.truthy = true then offset else .int 0) ↔
      (offset.truthy = true → IsIntegral py offset) := by
    split_ifs with ht
    · exact ⟨fun h _ => h, fun h => h ht⟩
    · exact iff_of_true trivial fun h => absurd h ht
  rw [← harg]
  unfold clampOffset
  generalize (if offset.truthy = true then offset else .int 0) = v
  rcases intElse_cases D v (unboundLocal "_") with ⟨hint, n, hn⟩ | ⟨hinf, e, he, hcls⟩ | ⟨hint, -, he⟩
  · rw [hn]
    refine iff_of_true ?_ hint
    show 0 ≤ min (max 0 n) _ ∧ min (max 0 n) _ ≤ _
    omega
  · rw [he]
    refine iff_of_false (fun h => ?_) fun h => ?_
    · have hu : e.isUserError = true := h
      rw [not_isUserError hcls] at hu
      exact Bool.false_ne_true hu
    · rw [isInfinite_of_isIntegral h] at hinf
      exact Bool.false_ne_true hinf
  · rw [he]
    refine iff_of_false (fun h => ?_) hint
    have hu : (unboundLocal "_").isUserError = true := h
    exact Bool.false_ne_true hu

/-- **The page arguments**, for every stored setting: a limit is clamped or refused unless it is an infinite
float, and an offset exactly when it is empty or `int()` accepts it. -/
theorem clamps_iff (D : IntDocs py) (env : Env) (limit offset : Value) :
    (Clamped (clampLimit py env limit) 1 (limitBounds py env).2 ↔ isInfinite limit = false) ∧
    (Clamped (clampOffset py env offset) 0 ((limitBounds py env).2 * maxOffsetPages) ↔
      (offset.truthy = true → IsIntegral py offset)) :=
  ⟨clampLimit_clamped D env limit, clampOffset_clamped D env offset⟩

/-- `int()` of a float, with zero for the finite ones. -/
def plainIntOfFloat (t : String) : Except PyExc ℤ :=
  if t ∈ ["inf", "-inf"] then .error (.of .exception "cannot convert float infinity to integer")
  else if t = "nan" then .error (.of .valueError "cannot convert float NaN to integer")
  else .ok 0

def pageBuiltins : Builtins := { plainBuiltins with intOfFloat := plainIntOfFloat }

lemma pageBuiltins_docs : IntDocs pageBuiltins where
  finite t ht := by
    simp only [List.mem_cons, List.not_mem_nil, or_false, not_or] at ht
    exact ⟨0, by simp [pageBuiltins, plainIntOfFloat, ht]⟩
  infinite t ht := ⟨_, by simp only [pageBuiltins, plainIntOfFloat]; rw [if_pos ht], rfl⟩
  nan := ⟨_, by simp [pageBuiltins, plainIntOfFloat]; rfl, rfl⟩
  str s e h := by
    obtain rfl := Except.error.inj h
    rfl

/-- A limit that is no integer, and an offset of the second page. -/
theorem clamps_iff_pages :
    Clamped (clampLimit pageBuiltins partnerEnv (.str "ten")) 1 (limitBounds pageBuiltins partnerEnv).2 ∧
    Clamped (clampOffset pageBuiltins partnerEnv (.int 10)) 0
      ((limitBounds pageBuiltins partnerEnv).2 * maxOffsetPages) :=
  ⟨(clamps_iff pageBuiltins_docs partnerEnv (.str "ten") (.int 10)).1.2 rfl,
    (clamps_iff pageBuiltins_docs partnerEnv (.str "ten") (.int 10)).2.2 fun _ => trivial⟩

/-- `{"limit": Infinity}` leaves with an `OverflowError`, and `{"offset": "ten"}` with an `UnboundLocalError`. -/
theorem clamps_escape :
    ¬ Clamped (clampLimit pageBuiltins partnerEnv (.float "inf")) 1 (limitBounds pageBuiltins partnerEnv).2 ∧
    ¬ Clamped (clampOffset pageBuiltins partnerEnv (.str "ten")) 0
      ((limitBounds pageBuiltins partnerEnv).2 * maxOffsetPages) := by
  have hlimit : clampLimit pageBuiltins partnerEnv (.float "inf") =
      .error (.of .exception "cannot convert float infinity to integer") := rfl
  have hoffset : clampOffset pageBuiltins partnerEnv (.str "ten") = .error (unboundLocal "_") := rfl
  rw [hlimit, hoffset]
  exact ⟨Bool.false_ne_true, Bool.false_ne_true⟩

end Page

/-! ### The domain -/

section Domains

variable {py : Builtins}

/-- What the parsers do, by Python's documentation: neither accepts the empty text, and an exception of
theirs is none of Odoo's. -/
structure ParserDocs (py : Builtins) : Prop where
  loads_empty : py.loads "" = .malformed
  literalEval_empty : py.literalEval "" = .malformed
  loads_raised : ∀ s e, py.loads s = .raised e → e.isUserError = false
  literalEval_raised : ∀ s e, py.literalEval s = .raised e → e.isUserError = false

/-- A parser raises an exception that `_parse_list_arg` does not catch. -/
def Escapes (py : Builtins) (text : String) : Prop :=
  (∃ e, py.loads text = .raised e) ∨ (py.loads text = .malformed ∧ ∃ e, py.literalEval text = .raised e)

/-- `search` and `count` make the same of the domain: one list of clauses, or a `UserError`. -/
def SameFilter (py : Builtins) (domain : Value) : Prop :=
  (∃ f, buildFilter py domain .none = .ok f ∧ coerceDomain py domain = .ok f) ∨
  ∃ e e', buildFilter py domain .none = .error e ∧ coerceDomain py domain = .error e' ∧
    e.isUserError = true ∧ e'.isUserError = true

/-- No domain at all, a list, or a text that is not blank and that the parsers accept or properly reject. -/
def ReadAlike (py : Builtins) : Value → Prop
  | .none => True
  | .list _ => True
  | .str s => strip s ≠ "" ∧ ¬ Escapes py (strip s)
  | _ => False

/-- The outcomes of `_parse_list_arg`. -/
lemma parseListArg_cases (D : ParserDocs py) (text kind : String) :
    (¬ Escapes py text ∧ ∃ v, parseListArg py text kind = .ok v) ∨
    (¬ Escapes py text ∧ ∃ e, parseListArg py text kind = .error e ∧ e.isUserError = true) ∨
    (Escapes py text ∧ ∃ e, parseListArg py text kind = .error e ∧ e.isUserError = false) := by
  unfold parseListArg Escapes
  cases hl : py.loads text with
  | value v => exact Or.inl ⟨by simp, v, rfl⟩
  | raised e => exact Or.inr (Or.inr ⟨Or.inl ⟨e, rfl⟩, e, rfl, D.loads_raised text e hl⟩)
  | malformed =>
    cases hv : py.literalEval text with
    | value v => exact Or.inl ⟨by simp, v, rfl⟩
    | raised e => exact Or.inr (Or.inr ⟨Or.inr ⟨rfl, e, rfl⟩, e, rfl, D.literalEval_raised text e hv⟩)
    | malformed => exact Or.inr (Or.inl ⟨by simp, _, rfl, rfl⟩)

/-- The list that a text denotes. -/
def listOfText (py : Builtins) (text : String) : Except PyExc (List Value) := do
  match ← parseListArg py text "domain" with
  | .list clauses => return clauses
  | _ => throw (.of .userError "Domain must be a list.")

lemma buildFilter_none (domain : Value) :
    buildFilter py domain .none = (domainClauses py domain).map (unescapeDomain py) := by
  unfold buildFilter specClauses
  cases domainClauses py domain with
  | error e => rfl
  | ok clauses => exact congrArg Except.ok (List.append_nil _)

lemma buildFilter_str (s : String) :
    buildFilter py (.str s) .none = (listOfText py (strip s)).map (unescapeDomain py) := by
  rw [buildFilter_none]
  rfl

lemma coerceDomain_str {s : String} (h : strip s ≠ "") :
    coerceDomain py (.str s) = (listOfText py (strip s)).map (unescapeDomain py) := by
  unfold coerceDomain listOfText
  simp only [if_neg h]
  cases parseListArg py (strip s) "domain" with
  | error e => rfl
  | ok v => cases v <;> rfl

/-- A text that escapes leaves `search` with an exception of the parser, and any other one does not. -/
lemma listOfText_cases (D : ParserDocs py) (text : String) :
    (¬ Escapes py text ∧ ∃ clauses, listOfText py text = .ok clauses) ∨
    (¬ Escapes py text ∧ ∃ e, listOfText py text = .error e ∧ e.isUserError = true) ∨
    (Escapes py text ∧ ∃ e, listOfText py text = .error e ∧ e.isUserError = false) := by
  unfold listOfText
  rcases parseListArg_cases D text "domain" with ⟨hesc, v, hv⟩ | ⟨hesc, e, he, hu⟩ | ⟨hesc, e, he, hu⟩
  · rw [hv]
    cases v with
    | list clauses => exact Or.inl ⟨hesc, clauses, rfl⟩
    | _ => exact Or.inr (Or.inl ⟨hesc, _, rfl, rfl⟩)
  · rw [he]
    exact Or.inr (Or.inl ⟨hesc, e, rfl, hu⟩)
  · rw [he]
    exact Or.inr (Or.inr ⟨hesc, e, rfl, hu⟩)

/-- Two readings of which only one is refused differ. -/
lemma not_sameFilter {domain : Value} {f : List Value} {e : PyExc} (hb : buildFilter py domain .none = .ok f)
    (hc : coerceDomain py domain = .error e) : ¬ SameFilter py domain := by
  rintro (⟨g, -, hg⟩ | ⟨e₁, e₂, h, -⟩)
  · rw [hc] at hg
    cases hg
  · rw [hb] at h
    cases h

lemma sameFilter_str (D : ParserDocs py) (s : String) :
    SameFilter py (.str s) ↔ strip s ≠ "" ∧ ¬ Escapes py (strip s) := by
  by_cases hs : strip s = ""
  · have hc : coerceDomain py (.str s) = .ok [] := if_pos hs
    have hparse : listOfText py "" = .error (.of .userError
        ("Invalid domain: expected a list, got " ++ prefixText 100 "")) := by
      unfold listOfText parseListArg
      rw [D.loads_empty, D.literalEval_empty]
      rfl
    have hb : buildFilter py (.str s) .none = _ := buildFilter_str s
    rw [hs, hparse] at hb
    refine iff_of_false ?_ fun h => h.1 hs
    rintro (⟨f, hf, -⟩ | ⟨e₁, e₂, -, h, -⟩)
    · rw [hb] at hf
      cases hf
    · rw [hc] at h
      cases h
  · have hb : buildFilter py (.str s) .none = _ := buildFilter_str s
    have hc : coerceDomain py (.str s) = _ := coerceDomain_str hs
    rcases listOfText_cases D (strip s) with ⟨hesc, clauses, hl⟩ | ⟨hesc, e, he, hu⟩ | ⟨hesc, e, he, hu⟩
    · rw [hl] at hb hc
      exact iff_of_true (Or.inl ⟨_, hb, hc⟩) ⟨hs, hesc⟩
    · rw [he] at hb hc
      exact iff_of_true (Or.inr ⟨e, e, hb, hc, hu, hu⟩) ⟨hs, hesc⟩
    · rw [he] at hb hc
      refine iff_of_false ?_ fun h => h.2 hesc
      rintro (⟨f, hf, -⟩ | ⟨e₁, e₂, h, -, hu', -⟩)
      · rw [hb] at hf
        cases hf
      · rw [hb] at h
        obtain rfl := Except.error.inj h
        rw [hu] at hu'
        exact Bool.false_ne_true hu'

/-- **One reading of a domain**: `search` and `count` agree on it exactly if there is none, if it is a list, or
if it is a text that is not blank and on which the parsers raise nothing else. -/
theorem sameFilter_iff (D : ParserDocs py) (domain : Value) : SameFilter py domain ↔ ReadAlike py domain := by
  cases domain with
  | none => exact iff_of_true (Or.inl ⟨[], rfl, rfl⟩) trivial
  | list clauses => exact iff_of_true (Or.inl ⟨_, buildFilter_none (.list clauses), rfl⟩) trivial
  | str s => exact sameFilter_str D s
  | _ => exact iff_of_false (not_sameFilter rfl rfl) id

lemma plainBuiltins_parsers : ParserDocs plainBuiltins where
  loads_empty := rfl
  literalEval_empty := rfl
  loads_raised _ _ h := by cases h
  literalEval_raised _ _ h := by cases h

/-- A word is refused by both. -/
theorem sameFilter_iff_word : SameFilter plainBuiltins (.str "draft") := by
  have hword : ReadAlike plainBuiltins (.str "draft") := ⟨by decide, by rintro (⟨e, h⟩ | ⟨-, e, h⟩) <;> cases h⟩
  exact (sameFilter_iff plainBuiltins_parsers (.str "draft")).2 hword

/-- `{"domain": {"state": "draft"}}` selects every record in `search`, where `count` refuses it. -/
theorem sameFilter_fails : ¬ SameFilter plainBuiltins (.dict [("state", .str "draft")]) :=
  not_sameFilter rfl rfl

end Domains

end AdvMcp.Read
