import AdvMcp.Read.Secrecy
import AdvMcp.Read.UriSchema
import AdvMcp.Server.Handler

/-!
# Resources and their addresses

The builders and the parsers of `tools/uri_schema.py` against one another, and the model in the audit record of
`resources/read` against those that `_read_resource` of `models/tool_mixin.py` asks access for.

* `fieldGroups_iff`, `attachmentGroup_iff` — what the two patterns match;
* `accessAsked` — the models whose access is checked; `hint_asked_iff` — when they are the one in the audit record;
* `scheme_iff` — which addresses make the round trip.
-/

namespace AdvMcp.Server

open AdvMcp.Access AdvMcp.Lib AdvMcp.Py AdvMcp.Read

/-! ### Patterns -/

section Patterns

variable {D : Digits} {l m ds f r : List Char} {uri : String}

lemma behind_iff {p : String} : behind p l = some r ↔ l = p.toList ++ r := by
  unfold behind
  split_ifs with h
  · obtain ⟨t, rfl⟩ := List.isPrefixOf_iff_prefix.1 h
    simp
  · refine iff_of_false (by simp) ?_
    rintro rfl
    exact h (List.isPrefixOf_iff_prefix.2 (List.prefix_append _ _))

lemma cutSlash_iff : cutSlash l = some (m, r) ↔ l = m ++ '/' :: r ∧ ∀ c ∈ m, c ≠ '/' := by
  unfold cutSlash
  constructor
  · intro h
    split at h
    · cases h
    · rename_i c r' hd
      obtain ⟨rfl, rfl⟩ := Prod.mk.inj (Option.some.inj h)
      have hc : c = '/' := by
        have hhead := List.head?_dropWhile_not (fun c => decide (c ≠ '/')) l
        rw [hd] at hhead
        simpa using hhead
      subst hc
      refine ⟨?_, fun c hc => ?_⟩
      · rw [← hd, List.takeWhile_append_dropWhile]
      · have htake := List.mem_takeWhile_imp hc
        simpa using htake
  · rintro ⟨rfl, hm⟩
    have hdrop : (m ++ '/' :: r).dropWhile (fun c => decide (c ≠ '/')) = '/' :: r := by
      rw [List.dropWhile_append_of_pos (by simpa using hm)]
      rfl
    have htake : (m ++ '/' :: r).takeWhile (fun c => decide (c ≠ '/')) = m := by
      rw [List.takeWhile_append_of_pos (by simpa using hm)]
      simp
    rw [hdrop, htake]

/-- A text whose own end is no newline, with or without a newline behind it. -/
lemma beforeEnd_iff (hf : f.getLast? ≠ some '\n') : beforeEnd l = f ↔ l = f ∨ l = f ++ ['\n'] := by
  unfold beforeEnd
  constructor
  · intro h
    split_ifs at h with hl
    · right
      obtain ⟨l', rfl⟩ := List.getLast?_eq_some_iff.1 hl
      rw [← h, List.dropLast_concat]
    · exact Or.inl h
  · rintro (rfl | rfl)
    · rw [if_neg hf]
    · simp

lemma isIdentifier_mem {p : Char → Bool} (hp : ∀ c, c.isAlpha = true → p c = true)
    (h : isIdentifier p l = true) : ∀ c ∈ l, p c = true := by
  cases l with
  | nil => exact fun c hc => absurd hc List.not_mem_nil
  | cons a l =>
    have h' : a.isAlpha = true ∧ l.all p = true := by simpa [isIdentifier] using h
    intro c hc
    rcases List.mem_cons.1 hc with rfl | hc
    · exact hp c h'.1
    · exact List.all_eq_true.1 h'.2 c hc

lemma isNameChar_of_isAlpha (c : Char) (h : c.isAlpha = true) : isNameChar c = true := by
  simp [isNameChar, Char.isAlphanum, h]

lemma isFieldChar_of_isAlpha (c : Char) (h : c.isAlpha = true) : isFieldChar c = true := by
  simp [isFieldChar, Char.isAlphanum, h]

lemma getLast_of_mem {p : Char → Bool} (h : ∀ c ∈ l, p c = true) (hp : p '\n' = false) :
    l.getLast? ≠ some '\n' := by
  intro hl
  have hmem := List.mem_of_getLast? hl
  rw [h '\n' hmem] at hp
  cases hp

lemma isDigit_slash : D.isDigit '/' = false := by
  unfold Digits.isDigit
  rw [D.ascii '/' (by decide)]
  rfl

lemma isDigit_newline : D.isDigit '\n' = false := by
  unfold Digits.isDigit
  rw [D.ascii '\n' (by decide)]
  rfl

lemma isNumber_iff : isNumber D ds = true ↔ ds ≠ [] ∧ ∀ c ∈ ds, D.isDigit c = true := by
  unfold isNumber
  simp

lemma isNumber_slash (h : isNumber D ds = true) : ∀ c ∈ ds, c ≠ '/' := by
  rintro c hc rfl
  have hd := (isNumber_iff.1 h).2 '/' hc
  rw [isDigit_slash] at hd
  cases hd

lemma name_slash (h : isIdentifier isNameChar m = true) : ∀ c ∈ m, c ≠ '/' := by
  rintro c hc rfl
  have hd := isIdentifier_mem isNameChar_of_isAlpha h '/' hc
  exact absurd hd (by decide)

/-- **What the pattern of a field matches.** -/
theorem fieldGroups_iff : fieldGroups D uri = some (m, ds, f) ↔
    isIdentifier isNameChar m = true ∧ isNumber D ds = true ∧ isIdentifier isFieldChar f = true ∧
      ∃ nl, (nl = [] ∨ nl = ['\n']) ∧
        uri.toList = "odoo://record/".toList ++ (m ++ '/' :: (ds ++ '/' :: (f ++ nl))) := by
  have hend : isIdentifier isFieldChar f = true → f.getLast? ≠ some '\n' := fun hf =>
    getLast_of_mem (isIdentifier_mem isFieldChar_of_isAlpha hf) (by decide)
  unfold fieldGroups
  simp only [Option.bind_eq_bind, Option.bind_eq_some_iff, Prod.exists, behind_iff, cutSlash_iff]
  constructor
  · rintro ⟨l₁, hl₁, m', l₂, ⟨rfl, hm'⟩, ds', l₃, ⟨rfl, hds'⟩, h⟩
    split_ifs at h with hc
    simp only [Option.some.injEq, Prod.mk.injEq] at h
    obtain ⟨rfl, rfl, rfl⟩ := h
    simp only [Bool.and_eq_true] at hc
    obtain ⟨⟨h1, h2⟩, h3⟩ := hc
    refine ⟨h1, h2, h3, ?_⟩
    rcases (beforeEnd_iff (hend h3)).1 rfl with he | he
    · exact ⟨[], Or.inl rfl, by rw [hl₁, List.append_nil, ← he]⟩
    · exact ⟨['\n'], Or.inr rfl, by rw [hl₁, ← he]⟩
  · rintro ⟨h1, h2, h3, nl, hnl, huri⟩
    refine ⟨_, huri, m, _, ⟨rfl, name_slash h1⟩, ds, _, ⟨rfl, isNumber_slash h2⟩, ?_⟩
    have hbefore : beforeEnd (f ++ nl) = f := by
      refine (beforeEnd_iff (hend h3)).2 ?_
      rcases hnl with rfl | rfl
      · exact Or.inl (List.append_nil f)
      · exact Or.inr rfl
    rw [hbefore, h1, h2, h3]
    rfl

/-- **What the pattern of an attachment matches.** -/
theorem attachmentGroup_iff : attachmentGroup D uri = some ds ↔ isNumber D ds = true ∧
    ∃ nl, (nl = [] ∨ nl = ['\n']) ∧ uri.toList = "odoo://attachment/".toList ++ (ds ++ nl) := by
  have hend : isNumber D ds = true → ds.getLast? ≠ some '\n' := fun hd =>
    getLast_of_mem (isNumber_iff.1 hd).2 isDigit_newline
  unfold attachmentGroup
  simp only [Option.bind_eq_bind, Option.bind_eq_some_iff, behind_iff]
  constructor
  · rintro ⟨l₁, hl₁, h⟩
    split_ifs at h with hc
    obtain rfl := Option.some.inj h
    refine ⟨hc, ?_⟩
    rcases (beforeEnd_iff (hend hc)).1 rfl with he | he
    · exact ⟨[], Or.inl rfl, by rw [hl₁, List.append_nil, ← he]⟩
    · exact ⟨['\n'], Or.inr rfl, by rw [hl₁, ← he]⟩
  · rintro ⟨h1, nl, hnl, huri⟩
    refine ⟨_, huri, ?_⟩
    have hbefore : beforeEnd (ds ++ nl) = ds := by
      refine (beforeEnd_iff (hend h1)).2 ?_
      rcases hnl with rfl | rfl
      · exact Or.inl (List.append_nil ds)
      · exact Or.inr rfl
    rw [hbefore, if_pos h1]

end Patterns

/-! ### Round trips -/

section RoundTrips

variable {py : Builtins} {D : Digits} {uri model field : String} {n : ℤ} {ds : List Char}

/-- The numeral in the address of a field. -/
def IdNumeral (D : Digits) (uri : String) : Prop := ∃ m ds f, fieldGroups D uri = some (m, ds, f) ∧ Numeral ds

/-- The numeral in the address of an attachment. -/
def AttachmentNumeral (D : Digits) (uri : String) : Prop := ∃ ds, attachmentGroup D uri = some ds ∧ Numeral ds

lemma isValidModelName_iff : isValidModelName model = isIdentifier isNameChar (beforeEnd model.toList) := by
  rfl

lemma intOfDigits_ok : intOfDigits D ds = .ok n ↔ ds.length ≤ maxStrDigits ∧ n = D.number ds := by
  unfold intOfDigits
  split_ifs with h
  · exact iff_of_false (fun he => by cases he) fun hn => absurd hn.1 (by omega)
  · exact ⟨fun he => ⟨by omega, (Except.ok.inj he).symm⟩, fun hn => by rw [hn.2]⟩

/-- An integer that can be printed. -/
lemma formatted_int {s : String} : formatted py (.int n) = .ok s ↔
    (Nat.toDigits 10 n.natAbs).length ≤ maxStrDigits ∧ s = toString n := by
  unfold formatted
  simp only
  split_ifs with h
  · exact iff_of_false (fun he => by cases he) fun hn => absurd hn.1 (by omega)
  · exact ⟨fun he => ⟨by omega, (Except.ok.inj he).symm⟩, fun hn => by rw [hn.2]⟩

lemma toString_natCast (k : ℕ) : (toString (k : ℤ)).toList = Nat.toDigits 10 k := Nat.toList_repr

lemma isNumber_toDigits (k : ℕ) : isNumber D (Nat.toDigits 10 k) = true :=
  isNumber_iff.2 ⟨Nat.toDigits_ne_nil, fun _ hc => Digits.isDigit_of_ascii ((numeral_toDigits k).ascii _ hc)⟩

lemma buildFieldUri_ok : buildFieldUri py model (.int n) field = .ok uri ↔
    isValidModelName model = true ∧ field ≠ "" ∧ (Nat.toDigits 10 n.natAbs).length ≤ maxStrDigits ∧
      uri.toList = "odoo://record/".toList ++
        (model.toList ++ '/' :: ((toString n).toList ++ '/' :: field.toList)) := by
  have htext : ∀ s : String, "odoo://record/" ++ model ++ "/" ++ s ++ "/" ++ field = uri ↔ uri.toList =
      "odoo://record/".toList ++ (model.toList ++ '/' :: (s.toList ++ '/' :: field.toList)) := by
    intro s
    rw [← String.toList_inj, eq_comm]
    simp
  unfold buildFieldUri
  split_ifs with hm hf
  · exact iff_of_false (fun h => by cases h) fun h => by simp [h.1] at hm
  · exact iff_of_false (fun h => by cases h) fun h => h.2.1 hf
  · simp only [except_bind_ok, except_pure_ok, formatted_int]
    constructor
    · rintro ⟨s, ⟨hlen, rfl⟩, h⟩
      exact ⟨by simpa using hm, hf, hlen, (htext _).1 h⟩
    · rintro ⟨-, -, hlen, h⟩
      exact ⟨_, ⟨hlen, rfl⟩, (htext _).2 h⟩

lemma buildAttachmentUri_ok : buildAttachmentUri py n = .ok uri ↔
    (Nat.toDigits 10 n.natAbs).length ≤ maxStrDigits ∧
      uri.toList = "odoo://attachment/".toList ++ (toString n).toList := by
  unfold buildAttachmentUri
  simp only [except_bind_ok, except_pure_ok, formatted_int]
  constructor
  · rintro ⟨s, ⟨hlen, rfl⟩, rfl⟩
    exact ⟨hlen, String.toList_append⟩
  · rintro ⟨hlen, h⟩
    exact ⟨_, ⟨hlen, rfl⟩, by rw [← String.toList_inj, h, String.toList_append]⟩

lemma parseFieldUri_ok {ref : RecordFieldURI} : parseFieldUri D uri = .ok (some ref) ↔
    ∃ m ds f, fieldGroups D uri = some (m, ds, f) ∧ ds.length ≤ maxStrDigits ∧
      ref = ⟨String.ofList m, D.number ds, String.ofList f⟩ := by
  unfold parseFieldUri
  cases hg : fieldGroups D uri with
  | none => simp
  | some g =>
    obtain ⟨m, ds, f⟩ := g
    simp only [except_bind_ok, except_pure_ok, intOfDigits_ok]
    constructor
    · rintro ⟨n, ⟨hlen, rfl⟩, h⟩
      exact ⟨m, ds, f, rfl, hlen, (Option.some.inj h).symm⟩
    · rintro ⟨m', ds', f', h, hlen, rfl⟩
      obtain ⟨rfl, rfl, rfl⟩ : m = m' ∧ ds = ds' ∧ f = f' := by simpa using h
      exact ⟨_, ⟨hlen, rfl⟩, rfl⟩

lemma parseAttachmentUri_ok : parseAttachmentUri D uri = .ok (some n) ↔
    ∃ ds, attachmentGroup D uri = some ds ∧ ds.length ≤ maxStrDigits ∧ n = D.number ds := by
  unfold parseAttachmentUri
  cases hg : attachmentGroup D uri with
  | none => simp
  | some ds =>
    simp only [except_bind_ok, except_pure_ok, intOfDigits_ok]
    constructor
    · rintro ⟨n, ⟨hlen, rfl⟩, h⟩
      exact ⟨ds, rfl, hlen, (Option.some.inj h).symm⟩
    · rintro ⟨ds', h, hlen, rfl⟩
      obtain rfl := Option.some.inj h
      exact ⟨_, ⟨hlen, rfl⟩, rfl⟩

/-- A field's address that was built is parsed back. -/
lemma parse_build_field (h : buildFieldUri py model (.int n) field = .ok uri) :
    parseFieldUri D uri = .ok (some ⟨model, n, field⟩) ↔
      model.toList.getLast? ≠ some '\n' ∧ 0 ≤ n ∧ isIdentifier isFieldChar field.toList = true := by
  obtain ⟨hmodel, -, hlen, huri⟩ := buildFieldUri_ok.1 h
  rw [parseFieldUri_ok]
  constructor
  · rintro ⟨m, ds, f, hg, -, href⟩
    obtain ⟨h1, h2, h3, -⟩ := fieldGroups_iff.1 hg
    simp only [RecordFieldURI.mk.injEq] at href
    obtain ⟨rfl, rfl, rfl⟩ := href
    rw [String.toList_ofList, String.toList_ofList]
    exact ⟨getLast_of_mem (isIdentifier_mem isNameChar_of_isAlpha h1) (by decide), Int.natCast_nonneg _, h3⟩
  · rintro ⟨hnl, hn, hf⟩
    obtain ⟨k, rfl⟩ := Int.eq_ofNat_of_zero_le hn
    rw [isValidModelName_iff, beforeEnd, if_neg hnl] at hmodel
    refine ⟨model.toList, Nat.toDigits 10 k, field.toList, ?_, by simpa using hlen, ?_⟩
    · refine fieldGroups_iff.2 ⟨hmodel, isNumber_toDigits k, hf, [], Or.inl rfl, ?_⟩
      rw [huri, toString_natCast, List.append_nil]
    · rw [String.ofList_toList, String.ofList_toList, Digits.number_toDigits]

/-- An attachment's address that was built is parsed back. -/
lemma parse_build_attachment (h : buildAttachmentUri py n = .ok uri) :
    parseAttachmentUri D uri = .ok (some n) ↔ 0 ≤ n := by
  obtain ⟨hlen, huri⟩ := buildAttachmentUri_ok.1 h
  rw [parseAttachmentUri_ok]
  constructor
  · rintro ⟨ds, -, -, rfl⟩
    exact Int.natCast_nonneg _
  · intro hn
    obtain ⟨k, rfl⟩ := Int.eq_ofNat_of_zero_le hn
    refine ⟨Nat.toDigits 10 k, ?_, by simpa using hlen, by rw [Digits.number_toDigits]⟩
    exact attachmentGroup_iff.2 ⟨isNumber_toDigits k, [], Or.inl rfl, by rw [huri, toString_natCast, List.append_nil]⟩

/-- The text in front of the first slash is the same. -/
lemma slash_cancel {m m' r r' : List Char} (hm : ∀ c ∈ m, c ≠ '/') (hm' : ∀ c ∈ m', c ≠ '/') :
    m ++ '/' :: r = m' ++ '/' :: r' ↔ m = m' ∧ r = r' := by
  constructor
  · intro h
    have hcut : cutSlash (m ++ '/' :: r) = some (m, r) := cutSlash_iff.2 ⟨rfl, hm⟩
    rw [h, cutSlash_iff.2 ⟨rfl, hm'⟩] at hcut
    simpa [eq_comm] using hcut
  · rintro ⟨rfl, rfl⟩
    rfl

lemma newline_iff {l nl : List Char} (hl : l.getLast? ≠ some '\n') (hnl : nl = [] ∨ nl = ['\n']) :
    (l ++ nl).getLast? ≠ some '\n' ↔ nl = [] := by
  rcases hnl with rfl | rfl
  · simpa using hl
  · simp

lemma isValidModelName_ofList {m : List Char} (h : isIdentifier isNameChar m = true) :
    isValidModelName (String.ofList m) = true := by
  have hm := getLast_of_mem (isIdentifier_mem isNameChar_of_isAlpha h) (show isNameChar '\n' = false by decide)
  rw [isValidModelName_iff, String.toList_ofList, beforeEnd, if_neg hm]
  exact h

/-- The number of an address is a numeral when it is printed as it stands there. -/
lemma idNumeral_iff {m ds f : List Char} (hg : fieldGroups D uri = some (m, ds, f)) :
    IdNumeral D uri ↔ Nat.toDigits 10 (D.number ds) = ds := by
  rw [Digits.toDigits_number]
  constructor
  · rintro ⟨m', ds', f', hg', hn⟩
    obtain ⟨-, rfl, -⟩ : m = m' ∧ ds = ds' ∧ f = f' := by simpa [hg] using hg'
    exact hn
  · exact fun hn => ⟨m, ds, f, hg, hn⟩

lemma attachmentNumeral_iff {ds : List Char} (hg : attachmentGroup D uri = some ds) :
    AttachmentNumeral D uri ↔ Nat.toDigits 10 (D.number ds) = ds := by
  rw [Digits.toDigits_number]
  constructor
  · rintro ⟨ds', hg', hn⟩
    obtain rfl : ds = ds' := by simpa [hg] using hg'
    exact hn
  · exact fun hn => ⟨ds, hg, hn⟩

/-- The address of a field that was parsed is built back. -/
lemma build_parse_field {ref : RecordFieldURI} (h : parseFieldUri D uri = .ok (some ref)) :
    buildFieldUri py ref.model (.int ref.recordId) ref.field = .ok uri ↔
      uri.toList.getLast? ≠ some '\n' ∧ IdNumeral D uri := by
  obtain ⟨m, ds, f, hg, hlen, rfl⟩ := parseFieldUri_ok.1 h
  obtain ⟨h1, h2, h3, nl, hnl, huri⟩ := fieldGroups_iff.1 hg
  have hf := isIdentifier_mem isFieldChar_of_isAlpha h3
  have hfne : f ≠ [] := by
    rintro rfl
    cases h3
  have hfield : String.ofList f ≠ "" := mt String.ofList_eq_empty_iff.1 hfne
  have hprint : (Nat.toDigits 10 (D.number ds)).length ≤ maxStrDigits :=
    (Digits.length_toDigits_number (isNumber_iff.1 h2).1).trans hlen
  have hlast : uri.toList.getLast? ≠ some '\n' ↔ nl = [] := by
    have hassoc : uri.toList = ("odoo://record/".toList ++ (m ++ '/' :: (ds ++ '/' :: f))) ++ nl := by
      rw [huri]
      simp
    rw [hassoc]
    refine newline_iff ?_ hnl
    have hassoc' : "odoo://record/".toList ++ (m ++ '/' :: (ds ++ '/' :: f)) =
        ("odoo://record/".toList ++ (m ++ '/' :: (ds ++ ['/']))) ++ f := by
      simp only [List.append_assoc, List.cons_append, List.nil_append]
    rw [hassoc', List.getLast?_append_of_ne_nil _ hfne]
    exact getLast_of_mem hf (by decide)
  rw [buildFieldUri_ok, idNumeral_iff hg, hlast]
  simp only [String.toList_ofList, toString_natCast, Int.natAbs_natCast]
  constructor
  · rintro ⟨-, -, -, h⟩
    rw [huri] at h
    have hrest := (slash_cancel (name_slash h1) (name_slash h1)).1 (List.append_cancel_left h)
    have hslash := isNumber_slash (isNumber_toDigits (D := D) (D.number ds))
    obtain ⟨hds, hfn⟩ := (slash_cancel (isNumber_slash h2) hslash).1 hrest.2
    exact ⟨List.append_right_eq_self.1 hfn, hds.symm⟩
  · rintro ⟨rfl, hds⟩
    refine ⟨isValidModelName_ofList h1, hfield, hprint, ?_⟩
    rw [huri, hds, List.append_nil]

/-- The address of an attachment that was parsed is built back. -/
lemma build_parse_attachment (h : parseAttachmentUri D uri = .ok (some n)) :
    buildAttachmentUri py n = .ok uri ↔ uri.toList.getLast? ≠ some '\n' ∧ AttachmentNumeral D uri := by
  obtain ⟨ds, hg, hlen, rfl⟩ := parseAttachmentUri_ok.1 h
  obtain ⟨h2, nl, hnl, huri⟩ := attachmentGroup_iff.1 hg
  have hprint : (Nat.toDigits 10 (D.number ds)).length ≤ maxStrDigits :=
    (Digits.length_toDigits_number (isNumber_iff.1 h2).1).trans hlen
  have hdl : ds.getLast? ≠ some '\n' := getLast_of_mem (isNumber_iff.1 h2).2 isDigit_newline
  have hlast : uri.toList.getLast? ≠ some '\n' ↔ nl = [] := by
    rw [huri, ← List.append_assoc]
    refine newline_iff ?_ hnl
    rw [List.getLast?_append_of_ne_nil _ (isNumber_iff.1 h2).1]
    exact hdl
  rw [buildAttachmentUri_ok, attachmentNumeral_iff hg, hlast, Int.natAbs_natCast, toString_natCast, huri]
  constructor
  · rintro ⟨-, h⟩
    have hrest : ds ++ nl = Nat.toDigits 10 (D.number ds) := List.append_cancel_left h
    rcases hnl with rfl | rfl
    · rw [List.append_nil] at hrest
      exact ⟨rfl, hrest.symm⟩
    · -- a printed number has no newline
      have hmem : '\n' ∈ Nat.toDigits 10 (D.number ds) := by
        rw [← hrest]
        simp
      have hd := (isNumber_iff.1 (isNumber_toDigits (D := D) (D.number ds))).2 '\n' hmem
      rw [isDigit_newline] at hd
      cases hd
  · rintro ⟨rfl, hds⟩
    exact ⟨hprint, by rw [hds, List.append_nil]⟩

/-- The two schemes differ behind `odoo://`. -/
lemma schemes_apart (r r' : List Char) : "odoo://record/".toList ++ r ≠ "odoo://attachment/".toList ++ r' := by
  intro h
  have hsix := congrArg (fun l => l[7]?) h
  revert hsix
  simp

/-- An attachment's address is no field's. -/
lemma parseFieldUri_attachment (h : parseAttachmentUri D uri = .ok (some n)) : parseFieldUri D uri = .ok none := by
  obtain ⟨ds, hg, -⟩ := parseAttachmentUri_ok.1 h
  obtain ⟨-, nl, -, huri⟩ := attachmentGroup_iff.1 hg
  have hnone : fieldGroups D uri = none := by
    refine Option.eq_none_iff_forall_ne_some.2 fun g hf => ?_
    obtain ⟨m, ds', f⟩ := g
    obtain ⟨-, -, -, nl', -, huri'⟩ := fieldGroups_iff.1 hf
    exact schemes_apart _ _ (huri'.symm.trans huri)
  unfold parseFieldUri
  rw [hnone]

/-- No address is one of both kinds. -/
lemma not_both {ref : RecordFieldURI} (h : parseFieldUri D uri = .ok (some ref)) :
    parseAttachmentUri D uri ≠ .ok (some n) := by
  intro h'
  rw [parseFieldUri_attachment h'] at h
  cases h

end RoundTrips

/-! ### The checked model -/

section Asked

variable (py : Builtins) (env : Read.Env) (D : Digits)

/-- `_check_attachment_allowed`: the models whose access it asks for, in order. -/
def attachmentAsked (attachmentId : ℤ) : List String :=
  if !env.present "ir.attachment" attachmentId then []
  else if verifyModelOperation env.registry py.lower "ir.attachment" "read" then ["ir.attachment"]
  else
    match env.attr "ir.attachment" attachmentId "res_model" with
    | .ok (.str model) => if model = "" then ["ir.attachment"] else ["ir.attachment", model]
    | _ => ["ir.attachment"]

/-- `_read_resource`: the models whose access it asks for. -/
def accessAsked (uri : String) : List String :=
  if !startsWith "odoo://" uri then []
  else
    match parseFieldUri D uri with
    | .error _ => []
    | .ok (some ref) => if ref.model = "" || !env.models ref.model then [] else [ref.model]
    | .ok none =>
      match parseAttachmentUri D uri with
      | .ok (some attachmentId) => attachmentAsked py env attachmentId
      | _ => []

/-- `ir.attachment` does not open an attachment, and the model that it belongs to is asked. -/
def OpenedByParent (uri m : String) : Prop :=
  ∃ attachmentId, parseAttachmentUri D uri = .ok (some attachmentId) ∧
    env.present "ir.attachment" attachmentId = true ∧
    verifyModelOperation env.registry py.lower "ir.attachment" "read" = false ∧
    env.attr "ir.attachment" attachmentId "res_model" = .ok (.str m) ∧ m ≠ ""

variable {py env D} {uri m : String}

lemma startsWith_iff {p s : String} : startsWith p s = true ↔ ∃ r, s.toList = p.toList ++ r := by
  unfold startsWith
  rw [List.isPrefixOf_iff_prefix]
  exact ⟨fun ⟨r, h⟩ => ⟨r, h.symm⟩, fun ⟨r, h⟩ => ⟨r, h.symm⟩⟩

/-- The record of a field's address names the model of the field. -/
lemma hint_of_field {ref : RecordFieldURI} (h : parseFieldUri D uri = .ok (some ref)) :
    resourceModelHint uri = some ref.model := by
  obtain ⟨g, ds, f, hg, -, rfl⟩ := parseFieldUri_ok.1 h
  obtain ⟨h1, -, -, nl, -, huri⟩ := fieldGroups_iff.1 hg
  have hstart : startsWith "odoo://record/" uri = true := startsWith_iff.2 ⟨_, huri⟩
  have hdrop : uri.toList.drop "odoo://record/".length = g ++ '/' :: (ds ++ '/' :: (f ++ nl)) := by
    rw [huri]
    exact List.drop_left
  have htake : (g ++ '/' :: (ds ++ '/' :: (f ++ nl))).takeWhile (fun c => decide (c ≠ '/')) = g := by
    rw [List.takeWhile_append_of_pos (by simpa using name_slash h1)]
    simp
  have hne : String.ofList g ≠ "" := by
    rw [Ne, String.ofList_eq_empty_iff]
    rintro rfl
    cases h1
  unfold resourceModelHint
  rw [if_pos hstart, hdrop, htake]
  exact if_neg hne

/-- The record of an attachment's address names `ir.attachment`. -/
lemma hint_of_attachment {n : ℤ} (h : parseAttachmentUri D uri = .ok (some n)) :
    resourceModelHint uri = some "ir.attachment" := by
  obtain ⟨ds, hg, -⟩ := parseAttachmentUri_ok.1 h
  obtain ⟨-, nl, -, huri⟩ := attachmentGroup_iff.1 hg
  have hstart : startsWith "odoo://attachment/" uri = true := startsWith_iff.2 ⟨_, huri⟩
  have hother : startsWith "odoo://record/" uri = false := by
    rw [← Bool.not_eq_true, startsWith_iff]
    rintro ⟨r, hr⟩
    exact schemes_apart _ _ (hr.symm.trans huri)
  unfold resourceModelHint
  rw [hother, if_neg Bool.false_ne_true, if_pos hstart]

/-- Both schemes begin the same way. -/
lemma startsWith_attachment {n : ℤ} (h : parseAttachmentUri D uri = .ok (some n)) :
    startsWith "odoo://" uri = true := by
  obtain ⟨ds, hg, -⟩ := parseAttachmentUri_ok.1 h
  obtain ⟨-, nl, -, huri⟩ := attachmentGroup_iff.1 hg
  refine startsWith_iff.2 ⟨"attachment/".toList ++ (ds ++ nl), ?_⟩
  rw [huri]
  rfl

/-- At an attachment's address the models are those of the attachment. -/
lemma accessAsked_attachment {n : ℤ} (h : parseAttachmentUri D uri = .ok (some n)) :
    accessAsked py env D uri = attachmentAsked py env n := by
  unfold accessAsked
  rw [startsWith_attachment h, parseFieldUri_attachment h, h]
  rfl

lemma attachmentAsked_cases (n : ℤ) : attachmentAsked py env n = [] ∨
    attachmentAsked py env n = ["ir.attachment"] ∨
    ∃ model, env.present "ir.attachment" n = true ∧
      verifyModelOperation env.registry py.lower "ir.attachment" "read" = false ∧
      env.attr "ir.attachment" n "res_model" = .ok (.str model) ∧ model ≠ "" ∧
      attachmentAsked py env n = ["ir.attachment", model] := by
  unfold attachmentAsked
  split_ifs with hp hv
  · exact Or.inl rfl
  · exact Or.inr (Or.inl rfl)
  · split
    · rename_i model hm
      split_ifs with h0
      · exact Or.inr (Or.inl rfl)
      · exact Or.inr (Or.inr ⟨model, by simpa using hp, by simpa using hv, hm, h0, rfl⟩)
    · exact Or.inr (Or.inl rfl)

/-- The model of an attachment that `ir.attachment` does not open is asked behind it. -/
lemma attachmentAsked_parent {n : ℤ} (hp : env.present "ir.attachment" n = true)
    (hv : verifyModelOperation env.registry py.lower "ir.attachment" "read" = false)
    (hm : env.attr "ir.attachment" n "res_model" = .ok (.str m)) (h0 : m ≠ "") :
    attachmentAsked py env n = ["ir.attachment", m] := by
  unfold attachmentAsked
  simp only [hp, hv, hm, h0, Bool.not_true, Bool.false_eq_true, if_false]

/-- **The model in the record** is the first whose access is asked for; another one is asked for only to open
an attachment. -/
lemma hint_asked : (∀ m, (accessAsked py env D uri).head? = some m → resourceModelHint uri = some m) ∧
    ∀ m ∈ accessAsked py env D uri, resourceModelHint uri = some m ∨ OpenedByParent py env D uri m := by
  unfold accessAsked
  split_ifs with hs
  · simp
  · split
    · simp
    · rename_i ref hp
      split_ifs with hm
      · simp
      · have hhint := hint_of_field hp
        simp [hhint]
    · split
      · rename_i n hp
        have hhint := hint_of_attachment hp
        have hcases : attachmentAsked py env n = [] ∨ _ := attachmentAsked_cases n
        rcases hcases with h | h | ⟨model, hpres, hv, hm, h0, h⟩
        · simp [h]
        · simp [h, hhint]
        · rw [h, hhint]
          refine ⟨by simp, fun m hmem => ?_⟩
          rcases List.mem_cons.1 hmem with rfl | hmem
          · exact Or.inl rfl
          · rw [List.mem_singleton.1 hmem]
            exact Or.inr ⟨n, hp, hpres, hv, hm, h0⟩
      · simp

/-- The models of an address are all the one in the record, unless one of them is asked as the model of an
attachment. -/
lemma hint_asked_iff : (∀ m ∈ accessAsked py env D uri, resourceModelHint uri = some m) ↔
    ∀ m, OpenedByParent py env D uri m → m = "ir.attachment" := by
  constructor
  · rintro h m ⟨n, hp, hpres, hv, hm, h0⟩
    have hmem : m ∈ accessAsked py env D uri := by
      rw [accessAsked_attachment hp, attachmentAsked_parent hpres hv hm h0]
      exact List.mem_cons_of_mem _ (List.mem_singleton_self m)
    have hhint := h m hmem
    rw [hint_of_attachment hp] at hhint
    exact (Option.some.inj hhint).symm
  · intro h m hmem
    rcases hint_asked.2 m hmem with hhint | hparent
    · exact hhint
    · have hm := h m hparent
      obtain ⟨n, hp, -⟩ := hparent
      rw [hm]
      exact hint_of_attachment hp

end Asked

/-- **The `odoo://` scheme.**  What is built is parsed back exactly if the model has no final newline, the id is
not negative and the field is an identifier; what is parsed is built back exactly if it has no final newline and
its number is an ASCII numeral without leading zeros.  No address is of both kinds.  The audit record names the
first model whose access is asked for, and every one exactly if no attachment that `ir.attachment` does not open
has a model of its own that is asked next. -/
theorem scheme_iff (py : Builtins) (env : Read.Env) (D : Digits) :
    (∀ (model field : String) (n : ℤ) (uri : String), buildFieldUri py model (.int n) field = .ok uri →
      (parseFieldUri D uri = .ok (some ⟨model, n, field⟩) ↔
        model.toList.getLast? ≠ some '\n' ∧ 0 ≤ n ∧ isIdentifier isFieldChar field.toList = true)) ∧
    (∀ (n : ℤ) (uri : String), buildAttachmentUri py n = .ok uri →
      (parseAttachmentUri D uri = .ok (some n) ↔ 0 ≤ n)) ∧
    (∀ (uri : String) (ref : RecordFieldURI), parseFieldUri D uri = .ok (some ref) →
      (buildFieldUri py ref.model (.int ref.recordId) ref.field = .ok uri ↔
        uri.toList.getLast? ≠ some '\n' ∧ IdNumeral D uri)) ∧
    (∀ (uri : String) (n : ℤ), parseAttachmentUri D uri = .ok (some n) →
      (buildAttachmentUri py n = .ok uri ↔ uri.toList.getLast? ≠ some '\n' ∧ AttachmentNumeral D uri)) ∧
    (∀ (uri : String) (ref : RecordFieldURI) (n : ℤ), parseFieldUri D uri = .ok (some ref) →
      parseAttachmentUri D uri ≠ .ok (some n)) ∧
    ∀ uri : String, (∀ m, (accessAsked py env D uri).head? = some m → resourceModelHint uri = some m) ∧
      (∀ m ∈ accessAsked py env D uri, resourceModelHint uri = some m ∨ OpenedByParent py env D uri m) ∧
      ((∀ m ∈ accessAsked py env D uri, resourceModelHint uri = some m) ↔
        ∀ m, OpenedByParent py env D uri m → m = "ir.attachment") :=
  ⟨fun _ _ _ _ h => parse_build_field h, fun _ _ h => parse_build_attachment h,
    fun _ _ h => build_parse_field h, fun _ _ h => build_parse_attachment h, fun _ _ _ h => not_both h,
    fun _ => ⟨hint_asked.1, hint_asked.2, hint_asked_iff⟩⟩

/-- The picture of a partner. -/
theorem scheme_iff_picture : parseFieldUri asciiDigits "odoo://record/res.partner/10/image_1920" =
    .ok (some ⟨"res.partner", 10, "image_1920"⟩) :=
  ((scheme_iff plainBuiltins partnerEnv asciiDigits).1 "res.partner" "image_1920" 10
    "odoo://record/res.partner/10/image_1920" rfl).2 ⟨by decide, by decide, by decide⟩

/-- Partners may be read, attachments may not; the attachment 7 belongs to a partner. -/
def partnerFile : Read.Env :=
  { partnerEnv with
    present := fun m i => (m, i) = ("ir.attachment", 7)
    value := fun _ => .str "res.partner" }

/-- An address that is built and not parsed, two addresses of one attachment, and one that is opened by a model
that the audit record does not name. -/
theorem scheme_broken :
    buildFieldUri plainBuiltins "res.partner" (.int 10) "x/y" = .ok "odoo://record/res.partner/10/x/y" ∧
    parseFieldUri asciiDigits "odoo://record/res.partner/10/x/y" = .ok none ∧
    buildFieldUri plainBuiltins "res.partner\n" (.int 10) "name" = .ok "odoo://record/res.partner\n/10/name" ∧
    parseFieldUri asciiDigits "odoo://record/res.partner\n/10/name" = .ok none ∧
    parseAttachmentUri asciiDigits "odoo://attachment/007" = .ok (some 7) ∧
    parseAttachmentUri asciiDigits "odoo://attachment/7\n" = .ok (some 7) ∧
    buildAttachmentUri plainBuiltins 7 = .ok "odoo://attachment/7" ∧
    resourceModelHint "odoo://attachment/7" = some "ir.attachment" ∧
    accessAsked plainBuiltins partnerFile asciiDigits "odoo://attachment/7" = ["ir.attachment", "res.partner"] ∧
    verifyModelOperation partnerFile.registry asciiLower "ir.attachment" "read" = false ∧
    verifyModelOperation partnerFile.registry asciiLower "res.partner" "read" = true := by
  refine ⟨?_, ?_, ?_, ?_, ?_, ?_, ?_, ?_, ?_, ?_, ?_⟩ <;> rfl

end AdvMcp.Server
