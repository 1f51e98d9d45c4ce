import AdvMcp.Lib.Holes
import AdvMcp.Lib.Savepoint
import AdvMcp.Py.Exc

/-!
# References to earlier results

`_REF_RE`, `_extract_ref` and `_resolve_refs` of `models/write_tools.py`.

* `Template r t` — `t` is the template of the reference `r`, such as `{{order.id}}`;
* `findRef` — the match of `_REF_RE` at the head of a text;
* `resolveRefs` — the arguments with their templates resolved, or the exception of the first one that is not;
* `Filled look v v'` — what this should be: `v'` is `v` with every template filled, at once, by what `look`
  says of its reference.  `resolveRefs_iff` says it is.
-/

namespace AdvMcp.Tools

open AdvMcp.Lib AdvMcp.Py

/-! ### Templates -/

/-- The name of an operation and a field of its result. -/
structure Ref where
  name : String
  field : String

/-- `\{\{([^.}]+)\.([^}]+)\}\}` -/
structure Template (r : Ref) (t : List Char) : Prop where
  name_ne : r.name ≠ ""
  name_clean : ∀ c ∈ r.name.toList, c ≠ '.' ∧ c ≠ '}'
  field_ne : r.field ≠ ""
  field_clean : ∀ c ∈ r.field.toList, c ≠ '}'
  spelled : t = '{' :: '{' :: (r.name.toList ++ '.' :: (r.field.toList ++ ['}', '}']))

def inName (c : Char) : Bool := c != '.' && c != '}'

def inField (c : Char) : Bool := c != '}'

/-- The match of `_REF_RE` at the head of a text, and its length. -/
def findRef (l : List Char) : Option (Ref × ℕ) :=
  match l with
  | '{' :: '{' :: l₁ =>
    let name := l₁.takeWhile inName
    match l₁.dropWhile inName with
    | '.' :: l₂ =>
      let field := l₂.takeWhile inField
      match l₂.dropWhile inField with
      | '}' :: '}' :: _ =>
        if name.isEmpty || field.isEmpty then none
        else some (⟨String.ofList name, String.ofList field⟩, name.length + field.length + 5)
      | _ => none
    | _ => none
  | _ => none

lemma findRef_of_template {r : Ref} {t : List Char} (h : Template r t) (rest : List Char) :
    findRef (t ++ rest) = some (r, t.length) := by
  have hn : ∀ c ∈ r.name.toList, inName c = true := fun c hc => by simpa [inName] using h.name_clean c hc
  have hf : ∀ c ∈ r.field.toList, inField c = true := fun c hc => by simpa [inField] using h.field_clean c hc
  have hl : t ++ rest = '{' :: '{' :: (r.name.toList ++ '.' :: (r.field.toList ++ '}' :: ('}' :: rest))) := by
    rw [h.spelled]
    simp
  obtain ⟨hn1, hn2⟩ := takeWhile_clean (r := r.field.toList ++ '}' :: ('}' :: rest)) hn
    (show inName '.' = false by decide)
  obtain ⟨hf1, hf2⟩ := takeWhile_clean (r := '}' :: rest) hf (show inField '}' = false by decide)
  have hne : r.name.toList ≠ [] := fun he => h.name_ne (by rw [← String.ofList_toList (s := r.name), he])
  have hfe : r.field.toList ≠ [] := fun he => h.field_ne (by rw [← String.ofList_toList (s := r.field), he])
  have hlen : t.length = r.name.toList.length + r.field.toList.length + 5 := by
    rw [h.spelled]
    simp only [List.length_cons, List.length_append, List.length_nil]
    omega
  rw [hl, hlen]
  unfold findRef
  simp only [hn1, hn2, hf1, hf2]
  rw [if_neg (by simp [hne, hfe]), String.ofList_toList, String.ofList_toList]

lemma template_of_findRef {l : List Char} {r : Ref} {n : ℕ} (h : findRef l = some (r, n)) :
    ∃ t rest, l = t ++ rest ∧ Template r t ∧ t.length = n := by
  unfold findRef at h
  split at h
  · rename_i l₁
    simp only at h
    split at h
    · rename_i l₂ h₁
      split at h
      · rename_i rest h₂
        split_ifs at h with h0
        obtain ⟨rfl, rfl⟩ := Prod.mk.inj (Option.some.inj h)
        simp only [Bool.or_eq_true, List.isEmpty_iff, not_or] at h0
        have hl₁ : l₁.takeWhile inName ++ '.' :: l₂ = l₁ := by
          rw [← h₁, List.takeWhile_append_dropWhile]
        have hl₂ : l₂.takeWhile inField ++ '}' :: '}' :: rest = l₂ := by
          rw [← h₂, List.takeWhile_append_dropWhile]
        refine ⟨_, rest, ?_, ⟨?_, ?_, ?_, ?_, rfl⟩, ?_⟩
        · simp only [String.toList_ofList, List.cons_append, List.append_assoc, List.nil_append]
          rw [hl₂, hl₁]
        · exact mt String.ofList_eq_empty_iff.1 h0.1
        · intro c hc
          rw [String.toList_ofList] at hc
          simpa [inName] using List.mem_takeWhile_imp hc
        · exact mt String.ofList_eq_empty_iff.1 h0.2
        · intro c hc
          rw [String.toList_ofList] at hc
          simpa [inField] using List.mem_takeWhile_imp hc
        · simp only [String.toList_ofList, List.length_cons, List.length_append, List.length_nil]
          omega
      · cases h
    · cases h
  · cases h

/-- `findRef` finds the templates. -/
def refFinder : Finder Template where
  find := findRef
  find_iff l r n := by
    constructor
    · exact template_of_findRef
    · rintro ⟨t, rest, rfl, ht, rfl⟩
      exact findRef_of_template ht rest
  spelled r t h := by
    rw [h.spelled]
    simp

/-- `re.fullmatch` -/
def fullmatch (s : String) : Option Ref :=
  match findRef s.toList with
  | some (r, n) => if n = s.toList.length then some r else none
  | none => none

lemma fullmatch_iff {s : String} {r : Ref} : fullmatch s = some r ↔ Template r s.toList := by
  unfold fullmatch
  constructor
  · intro h
    split at h
    · rename_i r' n hf
      split_ifs at h with hn
      obtain rfl := Option.some.inj h
      obtain ⟨t, rest, hl, ht, hlen⟩ := template_of_findRef hf
      have hrest : rest = [] := by
        have hl' := congrArg List.length hl
        rw [List.length_append, hlen, hn] at hl'
        exact List.length_eq_zero_iff.1 (by omega)
      rw [hl, hrest, List.append_nil]
      exact ht
    · cases h
  · intro h
    have hf := findRef_of_template h []
    rw [List.append_nil] at hf
    rw [hf]
    exact if_pos rfl

/-! ### The fields of a result -/

/-- `field in data` -/
def pyIn (field : String) : Value → Except PyExc Bool
  | .dict kvs => .ok (Dict.has kvs field)
  | .str s => .ok (inText field s)
  | .list xs => .ok (xs.any fun x => x.str? == some field)
  | v => .error (.of .typeError ("argument of type '" ++ v.typeName ++ "' is not iterable"))

/-- `data[field]` -/
def pyItem (field : String) : Value → Except PyExc Value
  | .dict kvs => .ok (Dict.get kvs field)
  | v => .error (.of .typeError ("'" ++ v.typeName ++ "' indices must be integers or slices, not str"))

/-- `_extract_ref` -/
def extractRef (r : Ref) (named : Dict) (index : ℕ) : Except PyExc Value :=
  match named.get r.name with
  | .none => .error (.of .userError ("Op " ++ toString index ++ ": unknown ref '" ++ r.name ++ "'."))
  | .dict result =>
    match (result.lookup "structuredContent").getD (.dict []) with
    | .dict sc =>
      let data := (sc.lookup "record").getD (.dict sc)
      match pyIn r.field data with
      | .error e => .error e
      | .ok false => .error (.of .userError
          ("Op " ++ toString index ++ ": '" ++ r.field ++ "' not found in ref '" ++ r.name ++ "'."))
      | .ok true => pyItem r.field data
    | v => .error (noGet v)
  | v => .error (noGet v)

/-- The field that a result exposes: of its `record`, or of its structured content. -/
def exposedField (field : String) : Value → Option Value
  | .dict result =>
    match (result.lookup "structuredContent").getD (.dict []) with
    | .dict sc =>
      match (sc.lookup "record").getD (.dict sc) with
      | .dict data => data.lookup field
      | _ => none
    | _ => none
  | _ => none

lemma extractRef_iff {r : Ref} {named : Dict} {index : ℕ} {v : Value} :
    extractRef r named index = .ok v ↔ exposedField r.field (named.get r.name) = some v := by
  unfold extractRef exposedField
  cases named.get r.name with
  | dict result =>
    simp only
    cases (result.lookup "structuredContent").getD (.dict []) with
    | dict sc =>
      simp only
      cases (sc.lookup "record").getD (.dict sc) with
      | dict data =>
        cases hf : data.lookup r.field with
        | none =>
          have hh : Dict.has data r.field = false := by rw [Dict.has_eq, hf]; rfl
          simp [pyIn, hh, hf]
        | some w =>
          have hh : Dict.has data r.field = true := by rw [Dict.has_eq, hf]; rfl
          have hg : Dict.get data r.field = w := by unfold Dict.get; rw [hf]; rfl
          simp [pyIn, pyItem, hh, hg, hf]
      | _ =>
        -- a value that is not an object is refused, whatever `in` says of it
        simp only [reduceCtorEq, iff_false]
        split <;> simp [pyItem]
    | _ => simp
  | _ => simp

/-! ### Arguments -/

section Resolve

variable (repr : Value → String) (named : Dict) (index : ℕ)

/-- The replacement of a match: `str` of the field. -/
def fillPiece : Piece Char Ref → Except PyExc String
  | .text c => .ok (String.singleton c)
  | .hole r => do return (← extractRef r named index).pyStr repr

mutual

/-- `_resolve_refs` -/
def resolveRefs : Value → Except PyExc Value
  | .str s =>
    match fullmatch s with
    | some r => extractRef r named index
    | none => do return .str (String.join (← (pieces findRef 0 s.toList).mapM (fillPiece repr named index)))
  | .dict kvs => do return .dict (← resolveItems kvs)
  | .list xs => do return .list (← resolveList xs)
  | v => .ok v

def resolveList : List Value → Except PyExc (List Value)
  | [] => .ok []
  | v :: vs => do return (← resolveRefs v) :: (← resolveList vs)

def resolveItems : List (String × Value) → Except PyExc (List (String × Value))
  | [] => .ok []
  | (k, v) :: kvs => do return (k, ← resolveRefs v) :: (← resolveItems kvs)

end

end Resolve

/-- A piece filled: text stays, and a hole becomes the text of its value. -/
inductive FilledPiece (repr : Value → String) (look : Ref → Value → Prop) : Piece Char Ref → String → Prop
  | text (c : Char) : FilledPiece repr look (.text c) (String.singleton c)
  | hole {r : Ref} {v : Value} : look r v → FilledPiece repr look (.hole r) (v.pyStr repr)

/-- **Simultaneous substitution.**  A string that is one template becomes its value; in any other string
the templates are cut out and each becomes the text of its value; lists and objects are filled through, the
keys as they are; and nothing that was filled in is looked at again. -/
inductive Filled (repr : Value → String) (look : Ref → Value → Prop) : Value → Value → Prop
  | whole {s : String} {r : Ref} {v : Value} : Template r s.toList → look r v → Filled repr look (.str s) v
  | embedded {s : String} {ps : List (Piece Char Ref)} {ts : List String} :
    (∀ r, ¬ Template r s.toList) → Cut Template s.toList ps →
    List.Forall₂ (FilledPiece repr look) ps ts → Filled repr look (.str s) (.str (String.join ts))
  | list {xs ys : List Value} : List.Forall₂ (Filled repr look) xs ys →
    Filled repr look (.list xs) (.list ys)
  | dict {kvs kvs' : List (String × Value)} : kvs.map Prod.fst = kvs'.map Prod.fst →
    List.Forall₂ (Filled repr look) (kvs.map Prod.snd) (kvs'.map Prod.snd) →
    Filled repr look (.dict kvs) (.dict kvs')
  | scalar {v : Value} : (∀ s, v ≠ .str s) → (∀ xs, v ≠ .list xs) → (∀ kvs, v ≠ .dict kvs) →
    Filled repr look v v

section Fill

variable {repr : Value → String} {named : Dict} {index : ℕ}

/-- What the results so far say of a reference. -/
abbrev Found (named : Dict) (r : Ref) (v : Value) : Prop :=
  exposedField r.field (named.get r.name) = some v

lemma fillPiece_iff {p : Piece Char Ref} {t : String} :
    fillPiece repr named index p = .ok t ↔ FilledPiece repr (Found named) p t := by
  cases p with
  | text c =>
    constructor
    · intro h
      obtain rfl := Except.ok.inj h
      exact .text c
    · rintro ⟨⟩
      rfl
  | hole r =>
    show (extractRef r named index >>= fun v => pure (v.pyStr repr)) = .ok t ↔ _
    simp only [except_bind_ok, except_pure_ok, extractRef_iff]
    constructor
    · rintro ⟨v, hv, rfl⟩
      exact .hole hv
    · rintro ⟨⟩
      rename_i v hv
      exact ⟨v, hv, rfl⟩

/-- A string is resolved as it should be filled. -/
lemma resolveStr_iff {s : String} {v' : Value} :
    resolveRefs repr named index (.str s) = .ok v' ↔ Filled repr (Found named) (.str s) v' := by
  rw [resolveRefs]
  cases hf : fullmatch s with
  | some r =>
    simp only [extractRef_iff]
    constructor
    · exact fun h => .whole (fullmatch_iff.1 hf) h
    · intro h
      cases h with
      | whole ht hl =>
        rw [fullmatch_iff.2 ht] at hf
        rwa [← Option.some.inj hf]
      | embedded hn _ _ => exact absurd (fullmatch_iff.1 hf) (hn r)
      | scalar hs _ _ => exact absurd rfl (hs s)
  | none =>
    have hn : ∀ r, ¬ Template r s.toList := by
      intro r ht
      rw [fullmatch_iff.2 ht] at hf
      cases hf
    have hcut : Cut Template s.toList (pieces findRef 0 s.toList) := (cut_iff refFinder).2 rfl
    simp only [except_bind_ok, except_pure_ok, mapM_ok]
    constructor
    · rintro ⟨ts, hts, rfl⟩
      exact .embedded hn hcut (hts.imp fun _ _ => fillPiece_iff.1)
    · intro h
      cases h with
      | whole ht _ => exact absurd ht (hn _)
      | @embedded _ ps ts _ hc hts =>
        obtain rfl := (cut_iff refFinder).1 hc
        exact ⟨ts, hts.imp fun _ _ => fillPiece_iff.2, rfl⟩
      | scalar hs _ _ => exact absurd rfl (hs s)

/-- A value without parts stays. -/
lemma resolveScalar_iff {v v' : Value} (hs : ∀ s, v ≠ .str s) (hl : ∀ xs, v ≠ .list xs)
    (hd : ∀ kvs, v ≠ .dict kvs) : .ok v = (.ok v' : Except PyExc Value) ↔ Filled repr (Found named) v v' := by
  constructor
  · intro h
    obtain rfl := Except.ok.inj h
    exact .scalar hs hl hd
  · intro h
    cases h with
    | whole _ _ => exact absurd rfl (hs _)
    | embedded _ _ _ => exact absurd rfl (hs _)
    | list _ => exact absurd rfl (hl _)
    | dict _ _ => exact absurd rfl (hd _)
    | scalar _ _ _ => rfl

mutual

/-- **The arguments of an operation** are resolved exactly as they should be filled. -/
theorem resolveRefs_iff : ∀ v {v' : Value},
    resolveRefs repr named index v = .ok v' ↔ Filled repr (Found named) v v'
  | .str _, _ => resolveStr_iff
  | .list xs, v' => by
    rw [resolveRefs]
    simp only [except_bind_ok, except_pure_ok, resolveList_iff xs]
    constructor
    · rintro ⟨ys, h, rfl⟩
      exact .list h
    · intro h
      cases h with
      | list h => exact ⟨_, h, rfl⟩
      | scalar _ hl _ => exact absurd rfl (hl xs)
  | .dict kvs, v' => by
    rw [resolveRefs]
    simp only [except_bind_ok, except_pure_ok, resolveItems_iff kvs]
    constructor
    · rintro ⟨kvs', ⟨hk, h⟩, rfl⟩
      exact .dict hk h
    · intro h
      cases h with
      | dict hk h => exact ⟨_, ⟨hk, h⟩, rfl⟩
      | scalar _ _ hd => exact absurd rfl (hd kvs)
  | .none, _ => resolveScalar_iff (by simp) (by simp) (by simp)
  | .bool _, _ => resolveScalar_iff (by simp) (by simp) (by simp)
  | .int _, _ => resolveScalar_iff (by simp) (by simp) (by simp)
  | .float _, _ => resolveScalar_iff (by simp) (by simp) (by simp)
  | .object _, _ => resolveScalar_iff (by simp) (by simp) (by simp)

theorem resolveList_iff : ∀ xs {ys : List Value},
    resolveList repr named index xs = .ok ys ↔ List.Forall₂ (Filled repr (Found named)) xs ys
  | [], ys => by
    rw [resolveList, List.forall₂_nil_left_iff]
    exact ⟨fun h => (Except.ok.inj h).symm, fun h => h ▸ rfl⟩
  | x :: xs, ys => by
    rw [resolveList, List.forall₂_cons_left_iff]
    simp only [except_bind_ok, except_pure_ok, resolveRefs_iff x, resolveList_iff xs]
    constructor
    · rintro ⟨y, hy, ys, hys, rfl⟩
      exact ⟨y, ys, hy, hys, rfl⟩
    · rintro ⟨y, ys, hy, hys, rfl⟩
      exact ⟨y, hy, ys, hys, rfl⟩

theorem resolveItems_iff : ∀ kvs {kvs' : List (String × Value)},
    resolveItems repr named index kvs = .ok kvs' ↔ kvs.map Prod.fst = kvs'.map Prod.fst ∧
      List.Forall₂ (Filled repr (Found named)) (kvs.map Prod.snd) (kvs'.map Prod.snd)
  | [], kvs' => by
    rw [resolveItems]
    constructor
    · intro h
      obtain rfl := Except.ok.inj h
      exact ⟨rfl, .nil⟩
    · rintro ⟨h, -⟩
      rw [List.map_eq_nil_iff.1 h.symm]
  | (k, v) :: kvs, kvs' => by
    rw [resolveItems]
    simp only [except_bind_ok, except_pure_ok, resolveRefs_iff v, resolveItems_iff kvs]
    constructor
    · rintro ⟨v', hv, kvs'', ⟨hk, hvs⟩, rfl⟩
      exact ⟨congrArg (k :: ·) hk, .cons hv hvs⟩
    · rintro ⟨hk, hvs⟩
      cases kvs' with
      | nil => simp at hk
      | cons p kvs'' =>
        obtain ⟨k', v'⟩ := p
        simp only [List.map_cons, List.cons.injEq] at hk
        obtain ⟨rfl, hk⟩ := hk
        cases hvs with
        | cons hv hvs => exact ⟨v', hv, kvs'', ⟨hk, hvs⟩, rfl⟩

end

end Fill

end AdvMcp.Tools
