import AdvMcp.Read.Secrecy

/-!
# The text of a record and its data

`get` returns a record twice: as text, from `RecordFormatter`, and as data.

* `Shown.fieldLines` — the lines of one field, and `text_blocks`: the text of a record is a header and
  these lines, field by field;
* `Shown` — what the formatter gets to see, and `fetch_shown`: the text of `get` is the text of that;
* `Shown.Agrees` — the text and the data say the same of the relations;
* `Opened` — a many2one that depth expansion replaces by an object.

`renders_iff` says that text and data agree if and only if no many2one that is shown is opened.
-/

namespace AdvMcp.Read

open AdvMcp.Lib AdvMcp.Py AdvMcp.Access

/-! ### The lines of a field -/

/-- A field that the formatter does not leave out because of its name. -/
def isShownName (name : String) : Bool :=
  !(name ∈ omitFields || startsWith "_" name) && name ∉ ["id", "name", "display_name"]

def x2manyTypes : List String := ["one2many", "many2many"]

/-- The first line of a field. -/
def fieldLine (name text : String) : String := "  " ++ name ++ ": " ++ text

/-- The lines of a title, when something stands below it. -/
def titled (title : String) (lines : List String) : List String :=
  if lines.isEmpty then [] else title :: lines

/-- The lines that open the text of a record. -/
def headerLines (py : Builtins) (model : String) (record : Dict) : List String :=
  let recordId := record.getOr "id" (.str "Unknown")
  [rule 50, "Record: " ++ model ++ "/" ++ py.str recordId,
    "Name: " ++ py.str (orElse (orElse (record.get "display_name") (record.get "name"))
      (.str ("Record " ++ py.str recordId))), rule 50]

/-- What `format_record` gets: the record, the metadata to render it with, and what is known of the related
records. -/
structure Shown where
  record : Dict
  renderMeta : Schema
  related : List (String × List (Value × Value))
  enabled : List String

section Lines

variable (py : Builtins) (model : String) (shown : Shown)

def Shown.isRelation (p : String × Value) : Bool :=
  decide (fieldType (metaOf shown.renderMeta p.1) ∈ ["many2one", "one2many", "many2many"])

/-- The lines that `format_record` writes for a field. -/
def Shown.fieldLines (p : String × Value) : List String :=
  if shown.isRelation p then
    formatRelationField py p.1 p.2 (metaOf shown.renderMeta p.1) 1 ((shown.related.lookup p.1).getD [])
      (shown.record.get "id") (some shown.enabled)
  else ["  " ++ p.1 ++ ": " ++ formatFieldValue py model p.1 p.2 (metaOf shown.renderMeta p.1)]

def Shown.text : String :=
  formatRecord py model shown.record shown.renderMeta 0 shown.related (some shown.enabled)

/-- The fields that the text is about. -/
def Shown.fields : Dict := shown.record.filter fun p => isShownName p.1

end Lines

section Blocks

variable {py : Builtins} {model : String} {shown : Shown}

lemma indent_zero (s : String) : indentText 0 ++ s = s := by
  show "" ++ s = s
  rw [String.empty_append]

lemma indent_one : indentText 1 = "  " := by decide

section Relation

variable {name : String} {v : Value} {info : Dict} {summary : List (Value × Value)} {parentId : Value}
  {enabled : Option (List String)}

lemma many2one_pair (ht : fieldType info = "many2one") (i n : Value) :
    formatRelationField py name (.list [i, n]) info 1 summary parentId enabled =
      [fieldLine name (py.str n ++ (" (" ++ (py.str (info.getOr "relation" (.str "unknown")) ++
        ("," ++ (py.str i ++ ")")))))] := by
  unfold formatRelationField fieldLine
  rw [indent_one]
  simp only [if_pos ht, String.append_assoc]

lemma many2one_other (ht : fieldType info = "many2one") (hv : ∀ i n, v ≠ .list [i, n]) :
    formatRelationField py name v info 1 summary parentId enabled = [fieldLine name "Not set"] := by
  have hlit : ": Not set" = ": " ++ "Not set" := by decide
  unfold formatRelationField fieldLine
  rw [indent_one, hlit]
  simp only [if_pos ht, ← String.append_assoc]

lemma not_many2one (ht : fieldType info ∈ x2manyTypes) : fieldType info ≠ "many2one" := by
  intro he
  rw [he] at ht
  exact absurd ht (by decide)

lemma x2many_cons (ht : fieldType info ∈ x2manyTypes) (x : Value) (xs : List Value) :
    (formatRelationField py name (.list (x :: xs)) info 1 summary parentId enabled).head? =
      some (fieldLine name (toString (x :: xs).length ++ " record(s)")) := by
  have hx : fieldType info ∈ ["one2many", "many2many"] := ht
  unfold formatRelationField fieldLine
  rw [indent_one]
  simp only [if_neg (not_many2one ht), if_pos hx]
  rw [List.head?_cons, ← String.append_assoc]

lemma x2many_other (ht : fieldType info ∈ x2manyTypes) (hv : ∀ x xs, v ≠ .list (x :: xs)) :
    formatRelationField py name v info 1 summary parentId enabled = [fieldLine name "No records"] := by
  have hx : fieldType info ∈ ["one2many", "many2many"] := ht
  have hlit : ": No records" = ": " ++ "No records" := by decide
  unfold formatRelationField fieldLine
  rw [indent_one, hlit]
  simp only [if_neg (not_many2one ht), if_pos hx, ← String.append_assoc]

/-- A relation takes at least one line, which opens with its name. -/
lemma formatRelationField_head (h : fieldType info ∈ ["many2one", "one2many", "many2many"]) :
    ∃ text rest, formatRelationField py name v info 1 summary parentId enabled = fieldLine name text :: rest := by
  rcases List.mem_cons.1 h with hm | hx
  · by_cases hv : ∃ i n, v = .list [i, n]
    · obtain ⟨i, n, rfl⟩ := hv
      exact ⟨_, _, many2one_pair hm i n⟩
    · refine ⟨_, _, many2one_other hm fun i n he => hv ⟨i, n, he⟩⟩
  · by_cases hv : ∃ x xs, v = .list (x :: xs)
    · obtain ⟨x, xs, rfl⟩ := hv
      exact ⟨_, List.head?_eq_some_iff.1 (x2many_cons hx x xs)⟩
    · exact ⟨_, _, x2many_other hx fun x xs he => hv ⟨x, xs, he⟩⟩

end Relation

lemma fieldLines_head (p : String × Value) :
    ∃ text rest, shown.fieldLines py model p = fieldLine p.1 text :: rest := by
  unfold Shown.fieldLines
  split_ifs with h
  · exact formatRelationField_head (of_decide_eq_true h)
  · exact ⟨_, [], rfl⟩

lemma fieldLines_ne (p : String × Value) : shown.fieldLines py model p ≠ [] := by
  have hhead : ∃ text rest, shown.fieldLines py model p = fieldLine p.1 text :: rest := fieldLines_head p
  obtain ⟨text, rest, h⟩ := hhead
  rw [h]
  exact List.cons_ne_nil _ _

/-- The lines below a title are those of its fields. -/
lemma titled_fields (title : String) (fields : Dict) :
    titled title (fields.flatMap (shown.fieldLines py model)) =
      if fields.isEmpty then [] else title :: fields.flatMap (shown.fieldLines py model) := by
  cases fields with
  | nil => rfl
  | cons p fields =>
    have hne : (p :: fields).flatMap (shown.fieldLines py model) ≠ [] := by
      rw [List.flatMap_cons]
      exact List.append_ne_nil_of_left_ne_nil (fieldLines_ne p) _
    unfold titled
    rw [if_neg (by simpa using hne), if_neg (by simp)]

lemma flatMap_fieldLines_simple {fields : Dict} (h : ∀ p ∈ fields, shown.isRelation p = false) :
    fields.flatMap (shown.fieldLines py model) = fields.map fun p =>
      "  " ++ p.1 ++ ": " ++ formatFieldValue py model p.1 p.2 (metaOf shown.renderMeta p.1) := by
  induction fields with
  | nil => rfl
  | cons p fields ih =>
    have hp : shown.isRelation p = false := h p List.mem_cons_self
    rw [List.flatMap_cons, List.map_cons, ih fun q hq => h q (List.mem_cons_of_mem _ hq)]
    unfold Shown.fieldLines
    rw [hp]
    rfl

lemma flatMap_fieldLines_relations {fields : Dict} (h : ∀ p ∈ fields, shown.isRelation p = true) :
    fields.flatMap (shown.fieldLines py model) = fields.flatMap fun p =>
      formatRelationField py p.1 p.2 (metaOf shown.renderMeta p.1) 1 ((shown.related.lookup p.1).getD [])
        (shown.record.get "id") (some shown.enabled) := by
  induction fields with
  | nil => rfl
  | cons p fields ih =>
    have hp : shown.isRelation p = true := h p List.mem_cons_self
    rw [List.flatMap_cons, List.flatMap_cons, ih fun q hq => h q (List.mem_cons_of_mem _ hq)]
    unfold Shown.fieldLines
    rw [if_pos hp]

/-- **The text, field by field**: the header, then the simple fields and the relations below their
titles. -/
theorem text_blocks :
    shown.text py model = join "\n" (headerLines py model shown.record ++
      titled "Fields:" ((shown.fields.filter fun p => !shown.isRelation p).flatMap (shown.fieldLines py model)) ++
      titled "Relationships:" ((shown.fields.filter shown.isRelation).flatMap (shown.fieldLines py model))) := by
  rw [titled_fields, titled_fields, flatMap_fieldLines_simple fun p hp => by simpa using (List.mem_filter.1 hp).2,
    flatMap_fieldLines_relations fun p hp => (List.mem_filter.1 hp).2]
  unfold Shown.text formatRecord
  simp only [indent_zero]
  rfl

end Blocks

/-! ### What `get` shows -/

/-- The text and the data agree on the relations, and every field is in the text once. -/
structure Shown.Agrees (py : Builtins) (model : String) (schema : Schema) (shown : Shown) : Prop where
  /-- A many2one is "Not set" when the record has no value for it. -/
  notSet : ∀ p ∈ shown.fields, fieldType (metaOf schema p.1) = "many2one" →
    (shown.fieldLines py model p = [fieldLine p.1 "Not set"] ↔ p.2.truthy = false)
  /-- A one2many or many2many has "No records" when the record has an empty value for it. -/
  noRecords : ∀ p ∈ shown.fields, fieldType (metaOf schema p.1) ∈ x2manyTypes →
    (shown.fieldLines py model p = [fieldLine p.1 "No records"] ↔ p.2.truthy = false)
  /-- The text is made of the lines of the fields, each at one place and under its name. -/
  once : ∃ simple relations : Dict, (simple ++ relations).Perm shown.fields ∧
    ((simple ++ relations).map (·.1)).Nodup ∧
    (∀ p ∈ shown.fields, ∃ text rest, shown.fieldLines py model p = fieldLine p.1 text :: rest) ∧
    shown.text py model = join "\n" (headerLines py model shown.record ++
      titled "Fields:" (simple.flatMap (shown.fieldLines py model)) ++
      titled "Relationships:" (relations.flatMap (shown.fieldLines py model)))

section Get

variable (py : Builtins) (env : Env) (model : String)

/-- What `fetch` renders. -/
def fetchShown (recordId fields depth : Value) : Except PyExc (Selection × Shown) := do
  resolveModel env model
  checkOp py env model "read"
  let schema := env.fieldsGet model schemaFieldAttributes
  let selection ← resolveFields py env fields schema
  let (data, renderMeta) ← fetchRecord py env model recordId selection schema
  let data ← expandDepth py env data schema depth
  let related ← resolveRelatedSummaries py env data schema
    (cfgInt py env "adv_mcp.max_related_items" defaultMaxRelatedItems)
  let enabled ← enabledRelationModels py env data schema
  return (selection, ⟨data, renderMeta, related, enabled⟩)

lemma fetch_shown (recordId fields depth : Value) :
    fetch py env model recordId fields depth =
      fetchShown py env model recordId fields depth >>= fun v =>
        pure (result (v.2.text py model)
          (fetchStructured v.1 (env.fieldsGet model schemaFieldAttributes) v.2.record)) := by
  unfold fetch fetchShown fetchText
  simp only [bind_assoc, pure_bind]
  rfl

/-- What `read` gives for relations: `False` or an id with a name, and lists of ids. -/
structure Typed : Prop where
  many2one : ∀ i name, fieldType (metaOf (env.fieldsGet model schemaFieldAttributes) name) = "many2one" →
    env.value ⟨model, i, name⟩ = .bool false ∨ ∃ k label, env.value ⟨model, i, name⟩ = .list [.int k, label]
  x2many : ∀ i name, fieldType (metaOf (env.fieldsGet model schemaFieldAttributes) name) ∈ x2manyTypes →
    ∃ ids : List ℤ, env.value ⟨model, i, name⟩ = .list (ids.map .int)

/-- Depth expansion gets what it asks for of the related record: its name at depth 1, and all of it below. -/
def RelatedRead (depth : ℤ) (rel : String) (relId : ℤ) : Prop :=
  checkOp py env rel "read" = .ok () ∧
    if depth = 1 then env.checkAttr ⟨rel, relId, "display_name"⟩ = none
    else env.checkRead rel [relId] (env.readable rel) = none ∧ env.present rel relId = true

/-- `get` shows the many2one `name` of the record `i`, and expands it. -/
structure Opened (i depth : ℤ) (selection : Selection) (name : String) : Prop where
  positive : 0 < depth
  read : ∃ names, env.fieldNames model selection.toRead = .ok names ∧ name ∈ names
  kept : selection.isExplicit = true ∨ isSensitiveFieldName py.lower name = false
  shown : isShownName name = true
  many2one : fieldType (metaOf (env.fieldsGet model schemaFieldAttributes) name) = "many2one"
  followed : ∃ rel relId, followed (metaOf (env.fieldsGet model schemaFieldAttributes) name)
    (env.value ⟨model, i, name⟩) = some (rel, relId) ∧ RelatedRead py env depth rel relId

end Get

/-! ### Depth expansion -/

section Expansion

variable {py : Builtins} {env : Env} {schema : Schema} {depth : ℤ}

lemma inlineRelated_read {rel : String} {relId : ℤ} {val : Value} (h : RelatedRead py env depth rel relId) :
    ∃ p kvs, inlineRelated py env rel relId val depth = .ok (.dict (p :: kvs)) := by
  obtain ⟨hop, h⟩ := h
  unfold inlineRelated
  rw [hop, ok_bind]
  split_ifs at h ⊢ with hd
  · unfold Env.attr
    rw [h]
    exact ⟨_, _, rfl⟩
  · have hread : env.read rel [relId] none = .ok [env.row rel (env.readable rel) relId] := by
      show (orRaise (env.checkRead rel [relId] (env.readable rel)) >>= fun _ =>
        pure (([relId].filter (env.present rel)).map (env.row rel (env.readable rel)))) = _
      rw [h.1, filter_present h.2]
      rfl
    rw [hread]
    exact ⟨_, _, rfl⟩

lemma inlineRelated_unread {rel : String} {relId : ℤ} {val v : Value} (h : ¬ RelatedRead py env depth rel relId)
    (hv : inlineRelated py env rel relId val depth = .ok v) : v = val := by
  unfold inlineRelated at hv
  obtain ⟨_, hop, hv⟩ := except_bind_ok.1 hv
  have hno : ¬ if depth = 1 then env.checkAttr ⟨rel, relId, "display_name"⟩ = none
      else env.checkRead rel [relId] (env.readable rel) = none ∧ env.present rel relId = true :=
    fun hr => h ⟨hop, hr⟩
  split_ifs at hv hno with hd
  · obtain ⟨a, ha, -⟩ := except_bind_ok.1 hv
    unfold Env.attr at ha
    obtain ⟨_, hc, -⟩ := except_bind_ok.1 ha
    unfold orRaise at hc
    split at hc
    · exact absurd (by assumption) hno
    · cases hc
  · obtain ⟨rows, hr, hv⟩ := except_bind_ok.1 hv
    unfold Env.read at hr
    obtain ⟨names, hn, hr⟩ := except_bind_ok.1 hr
    obtain rfl : env.readable rel = names := Except.ok.inj hn
    obtain ⟨_, hc, hr⟩ := except_bind_ok.1 hr
    obtain rfl := except_pure_ok.1 hr
    by_cases hp : env.present rel relId = true
    · unfold orRaise at hc
      split at hc
      · exact absurd ⟨by assumption, hp⟩ hno
      · cases hc
    · rw [filter_absent hp] at hv
      exact (except_pure_ok.1 hv).symm

lemma expandRelation_other {p : String × Value} (h : fieldType (metaOf schema p.1) ≠ "many2one") :
    expandRelation py env schema depth p = .ok p := by
  unfold expandRelation
  exact if_pos h

lemma expandRelation_unset {name : String} (b : Bool) :
    expandRelation py env schema depth (name, .bool b) = .ok (name, .bool b) := by
  unfold expandRelation
  exact ite_self _

/-- Depth expansion, at a pair. -/
lemma expandRelation_pair {name : String} {k : ℤ} {label : Value}
    (ht : fieldType (metaOf schema name) = "many2one") :
    expandRelation py env schema depth (name, .list [.int k, label]) =
      match followed (metaOf schema name) (.list [.int k, label]) with
      | none => .ok (name, .list [.int k, label])
      | some (rel, relId) =>
        match inlineRelated py env rel relId (.list [.int k, label]) depth with
        | .ok v => .ok (name, v)
        | .error e => if e.isUserError then .ok (name, .list [.int k, label]) else .error e := by
  unfold expandRelation
  exact if_neg (not_not.2 ht)

lemma expandRelation_key {p q : String × Value} (h : expandRelation py env schema depth p = .ok q) :
    q.1 = p.1 := by
  unfold expandRelation at h
  simp only at h
  split_ifs at h with ht
  · rw [← Except.ok.inj h]
  · split at h
    · cases h
    · cases h
    · split at h
      · rw [← Except.ok.inj h]
      · split at h
        · rw [← Except.ok.inj h]
        · split_ifs at h
          rw [← Except.ok.inj h]

/-- A many2one that is followed to a record that can be read turns into an object. -/
lemma expandRelation_opened {name : String} {k : ℤ} {label : Value} {q : String × Value}
    (ht : fieldType (metaOf schema name) = "many2one")
    (hf : ∃ rel relId, followed (metaOf schema name) (.list [.int k, label]) = some (rel, relId) ∧
      RelatedRead py env depth rel relId)
    (h : expandRelation py env schema depth (name, .list [.int k, label]) = .ok q) :
    ∃ p kvs, q = (name, .dict (p :: kvs)) := by
  obtain ⟨rel, relId, hf, hr⟩ := hf
  have hin : ∃ p kvs, inlineRelated py env rel relId (.list [.int k, label]) depth = .ok (.dict (p :: kvs)) :=
    inlineRelated_read hr
  obtain ⟨p, kvs, hin⟩ := hin
  rw [expandRelation_pair ht, hf] at h
  simp only [hin] at h
  exact ⟨p, kvs, (Except.ok.inj h).symm⟩

/-- Any other many2one stays. -/
lemma expandRelation_kept {name : String} {k : ℤ} {label : Value} {q : String × Value}
    (ht : fieldType (metaOf schema name) = "many2one")
    (hf : ¬ ∃ rel relId, followed (metaOf schema name) (.list [.int k, label]) = some (rel, relId) ∧
      RelatedRead py env depth rel relId)
    (h : expandRelation py env schema depth (name, .list [.int k, label]) = .ok q) :
    q = (name, .list [.int k, label]) := by
  rw [expandRelation_pair ht] at h
  cases hfol : followed (metaOf schema name) (.list [.int k, label]) with
  | none =>
    rw [hfol] at h
    exact (Except.ok.inj h).symm
  | some rr =>
    obtain ⟨rel, relId⟩ := rr
    rw [hfol] at h
    simp only at h
    have hun : ¬ RelatedRead py env depth rel relId := fun hr => hf ⟨rel, relId, hfol, hr⟩
    cases hin : inlineRelated py env rel relId (.list [.int k, label]) depth with
    | ok v =>
      rw [hin] at h
      rw [← Except.ok.inj h, inlineRelated_unread hun hin]
    | error e =>
      rw [hin] at h
      simp only at h
      split_ifs at h
      exact (Except.ok.inj h).symm

end Expansion

/-! ### The record -/

section Fetched

variable {py : Builtins} {env : Env} {model : String}

lemma keys_set {d : Dict} {key : String} {v : Value} (h : d.has key = true) :
    (d.set key v).map (·.1) = d.map (·.1) := by
  unfold Dict.set
  rw [if_pos h, List.map_map]
  refine List.map_congr_left fun p _ => ?_
  show (if p.1 == key then (p.1, v) else p).1 = p.1
  split_ifs <;> rfl

lemma has_of_truthy {d : Dict} {key : String} (h : (d.get key).truthy = true) : d.has key = true := by
  rw [Dict.has_eq]
  unfold Dict.get at h
  cases hl : d.lookup key with
  | some v => rfl
  | none =>
    rw [hl] at h
    cases h

lemma mem_set_iff {d : Dict} {key : String} {v : Value} {p : String × Value} (hne : p.1 ≠ key) :
    p ∈ d.set key v ↔ p ∈ d := by
  constructor
  · intro h
    unfold Dict.set at h
    split_ifs at h
    · obtain ⟨q, hq, rfl⟩ := List.mem_map.1 h
      split_ifs at hne ⊢ with hk
      · exact absurd (beq_iff_eq.1 hk) hne
      · exact hq
    · rcases List.mem_append.1 h with h | h
      · exact h
      · rw [List.mem_singleton.1 h] at hne
        exact absurd rfl hne
  · exact fun h => mem_set_of_ne h hne

lemma metaOf_asChar {schema : Schema} {name n : String} (hne : n ≠ name) :
    metaOf (asChar name schema) n = metaOf schema n := by
  unfold metaOf asChar
  congr 1
  induction schema with
  | nil => rfl
  | cons p schema ih =>
    rw [List.map_cons]
    by_cases hn : n = p.1
    · have hp : ¬ p.1 = name := fun he => hne (hn.trans he)
      rw [if_neg hp, List.lookup_cons, List.lookup_cons, hn]
      simp
    · have hk : (if p.1 = name then (p.1, p.2.set "type" (.str "char")) else p).1 = p.1 := by
        split_ifs <;> rfl
      rw [List.lookup_cons, List.lookup_cons, hk, beq_false_of_ne hn]
      exact ih

/-- The swap leaves the names of the fields, and everything about fields that are not binary. -/
lemma swap_frame {i : ℤ} {names : List String} {shown shown' : Dict × Schema}
    (h : names.foldlM (swapBinaryUri py model i) shown = .ok shown') :
    shown'.1.map (·.1) = shown.1.map (·.1) ∧
      ∀ n ∉ names, metaOf shown'.2 n = metaOf shown.2 n ∧ ∀ v, (n, v) ∈ shown'.1 ↔ (n, v) ∈ shown.1 := by
  induction names generalizing shown with
  | nil =>
    obtain rfl := except_pure_ok.1 h
    exact ⟨rfl, fun n _ => ⟨rfl, fun v => Iff.rfl⟩⟩
  | cons name names ih =>
    rw [List.foldlM_cons] at h
    obtain ⟨mid, hm, h⟩ := except_bind_ok.1 h
    obtain ⟨hkeys, hrest⟩ := ih h
    unfold swapBinaryUri at hm
    split_ifs at hm with ht
    · obtain ⟨uri, -, hm⟩ := except_bind_ok.1 hm
      obtain rfl := except_pure_ok.1 hm
      refine ⟨hkeys.trans (keys_set (has_of_truthy ht)), fun n hn => ?_⟩
      have hne : n ≠ name ∧ n ∉ names := by simpa using hn
      obtain ⟨hmeta, hmem⟩ := hrest n hne.2
      exact ⟨hmeta.trans (metaOf_asChar hne.1), fun v => (hmem v).trans (mem_set_iff hne.1)⟩
    · obtain rfl := Except.ok.inj hm
      exact ⟨hkeys, fun n hn => hrest n fun hin => hn (List.mem_cons_of_mem _ hin)⟩

lemma nodup_eraseDups (names : List String) : names.eraseDups.Nodup := by
  induction hl : names.length using Nat.strong_induction_on generalizing names with
  | _ k ih =>
    cases names with
    | nil => exact List.nodup_nil
    | cons name names =>
      rw [List.eraseDups_cons, List.nodup_cons]
      constructor
      · rw [List.mem_eraseDups]
        simp
      · refine ih _ ?_ _ rfl
        have hle := List.length_filter_le (fun b => !b == name) names
        rw [List.length_cons] at hl
        omega

lemma row_nodup (names : List String) (i : ℤ) : ((env.row model names i).map (·.1)).Nodup := by
  have hid : (names.eraseDups.filter (· ≠ "id")).map (fun n => n) = names.eraseDups.filter (· ≠ "id") :=
    List.map_id _
  unfold Env.row
  rw [List.map_cons, List.map_map]
  refine List.nodup_cons.2 ⟨?_, ?_⟩
  · intro hmem
    obtain ⟨n, hn, he⟩ := List.mem_map.1 hmem
    exact absurd he (by simpa using (List.mem_filter.1 hn).2)
  · show ((names.eraseDups.filter (· ≠ "id")).map fun n => n).Nodup
    rw [hid]
    exact (nodup_eraseDups _).filter _

lemma keptFields_nodup {selection : Selection} {data : Dict} (h : (data.map (·.1)).Nodup) :
    ((keptFields py selection data).map (·.1)).Nodup := by
  unfold keptFields dropSensitive
  split_ifs
  · exact h
  · exact h.sublist (List.filter_sublist.map _)

lemma not_binary {schema : Schema} {n : String}
    (h : fieldType (metaOf schema n) ∈ ["many2one", "one2many", "many2many"]) : n ∉ binaryNames schema := by
  intro hb
  have hb' := of_decide_eq_true (List.mem_filter.1 hb).2
  simp only [List.mem_cons, List.not_mem_nil, or_false] at h
  rcases h with h | h | h <;> rw [h] at hb' <;> exact absurd hb' (by decide)

/-- The record in front of depth expansion: its fields have different names, and its relations are what was
read. -/
lemma fetchRecord_relations {recordId : Value} {selection : Selection} {data : Dict} {renderMeta : Schema}
    (h : fetchRecord py env model recordId selection (env.fieldsGet model schemaFieldAttributes) =
      .ok (data, renderMeta)) :
    ∃ i names, py.int recordId = .ok i ∧ env.fieldNames model selection.toRead = .ok names ∧
      (data.map (·.1)).Nodup ∧
      ∀ n, fieldType (metaOf (env.fieldsGet model schemaFieldAttributes) n) ∈
          ["many2one", "one2many", "many2many"] → n ≠ "id" →
        metaOf renderMeta n = metaOf (env.fieldsGet model schemaFieldAttributes) n ∧
        ∀ v, (n, v) ∈ data ↔ v = env.value ⟨model, i, n⟩ ∧ n ∈ names ∧
          (selection.isExplicit = true ∨ isSensitiveFieldName py.lower n = false) := by
  obtain ⟨i, names, hi, hn, h⟩ := fetchRecord_ok h
  obtain ⟨hkeys, hrest⟩ := swap_frame h
  refine ⟨i, names, hi, hn, ?_, fun n ht hid => ?_⟩
  · rw [hkeys]
    exact keptFields_nodup (row_nodup names i)
  · obtain ⟨hmeta, hmem⟩ := hrest n (not_binary ht)
    refine ⟨hmeta, fun v => (hmem v).trans ?_⟩
    rw [mem_keptFields, mem_row]
    constructor
    · rintro ⟨hrow | ⟨hname, -, hval⟩, hk⟩
      · exact absurd (Prod.mk.inj hrow).1 hid
      · exact ⟨hval, hname, hk⟩
    · rintro ⟨hval, hname, hk⟩
      exact ⟨Or.inr ⟨hname, hid, hval⟩, hk⟩

end Fetched

/-! ### Text and data -/

section Agreement

variable {py : Builtins} {env : Env} {model : String} {recordId fields depth : Value}

lemma fetchShown_ok {selection : Selection} {shown : Shown}
    (h : fetchShown py env model recordId fields depth = .ok (selection, shown)) :
    ∃ data, resolveFields py env fields (env.fieldsGet model schemaFieldAttributes) = .ok selection ∧
      fetchRecord py env model recordId selection (env.fieldsGet model schemaFieldAttributes) =
        .ok (data, shown.renderMeta) ∧
      expandDepth py env data (env.fieldsGet model schemaFieldAttributes) depth = .ok shown.record := by
  unfold fetchShown at h
  simp only [except_bind_ok, except_pure_ok] at h
  obtain ⟨_, _, _, _, selection', hs, ⟨data, renderMeta⟩, hd, data', hd', _, _, _, _, he⟩ := h
  obtain ⟨rfl, rfl⟩ := Prod.mk.inj he
  exact ⟨data, hs, hd, hd'⟩

/-- What depth expansion does, field by field: nothing, or one step each. -/
lemma expandDepth_fields {data data' : Dict} {schema : Schema} (h : expandDepth py env data schema depth = .ok data') :
    data' = data ∧ (∀ d, depth.truthy = true → py.int depth = .ok d → d ≤ 0) ∨
      ∃ d, depth.truthy = true ∧ py.int depth = .ok d ∧ 0 < d ∧
        data.mapM (expandRelation py env schema d) = .ok data' := by
  by_cases ht : depth.truthy = true
  · have hexp := h
    unfold expandDepth at h
    rw [if_pos ht] at h
    obtain ⟨d, hd, h⟩ := except_bind_ok.1 h
    by_cases h0 : d ≤ 0
    · left
      unfold expandRelations at h
      rw [if_pos h0] at h
      refine ⟨(Except.ok.inj h).symm, fun d' _ hd' => ?_⟩
      obtain rfl : d = d' := Except.ok.inj (hd.symm.trans hd')
      exact h0
    · right
      rw [expandDepth_mapM ht hd (by omega)] at hexp
      exact ⟨d, ht, hd, by omega, hexp⟩
  · left
    unfold expandDepth at h
    rw [if_neg ht] at h
    exact ⟨(Except.ok.inj h).symm, fun d ht' _ => absurd ht' ht⟩

lemma expandDepth_keys {data data' : Dict} {schema : Schema} (h : expandDepth py env data schema depth = .ok data') :
    data'.map (·.1) = data.map (·.1) := by
  rcases expandDepth_fields h with ⟨rfl, -⟩ | ⟨d, -, -, -, hmap⟩
  · rfl
  · exact mapM_map (fun _ _ hp => expandRelation_key hp) hmap

lemma fieldLine_inj {name t t' : String} (h : fieldLine name t = fieldLine name t') : t = t' := by
  unfold fieldLine at h
  have hl := congrArg String.toList h
  rw [String.toList_append, String.toList_append (t := t')] at hl
  exact String.toList_injective (List.append_cancel_left hl)

/-- A many2one shows "Not set", unless its value is a pair. -/
lemma notSet_iff {shown : Shown} {name : String} {v : Value}
    (ht : fieldType (metaOf shown.renderMeta name) = "many2one") :
    shown.fieldLines py model (name, v) = [fieldLine name "Not set"] ↔ ∀ i n, v ≠ .list [i, n] := by
  have hrel : shown.isRelation (name, v) = true := by simp [Shown.isRelation, ht]
  unfold Shown.fieldLines
  rw [if_pos hrel]
  constructor
  · rintro h i n rfl
    rw [many2one_pair ht] at h
    have htext := fieldLine_inj (List.head_eq_of_cons_eq h)
    have hlast := congrArg (fun s : String => s.toList.getLast?) htext
    simp only [String.toList_append, List.getLast?_append] at hlast
    exact absurd hlast (by simp)
  · exact fun h => many2one_other ht h

lemma noRecords_iff {shown : Shown} {name : String} {v : Value}
    (ht : fieldType (metaOf shown.renderMeta name) ∈ x2manyTypes) :
    shown.fieldLines py model (name, v) = [fieldLine name "No records"] ↔ ∀ x xs, v ≠ .list (x :: xs) := by
  have hrel : shown.isRelation (name, v) = true := by
    unfold Shown.isRelation
    exact decide_eq_true (List.mem_cons_of_mem _ ht)
  unfold Shown.fieldLines
  rw [if_pos hrel]
  constructor
  · rintro h x xs rfl
    have hhead := congrArg List.head? h
    rw [x2many_cons ht, List.head?_cons] at hhead
    have htext := fieldLine_inj (Option.some.inj hhead)
    have hlast := congrArg (fun s : String => s.toList.getLast?) htext
    simp only [String.toList_append, List.getLast?_append] at hlast
    exact absurd hlast (by simp)
  · exact fun h => x2many_other ht h

lemma shown_ne_id {name : String} (h : isShownName name = true) : name ≠ "id" := by
  rintro rfl
  exact absurd h (by decide)

section Fields

variable {selection : Selection} {shown : Shown}

/-- **The many2ones of the record**: unset, a pair, or an object where depth expansion opens one. -/
lemma many2one_cases (ht : Typed env model)
    (h : fetchShown py env model recordId fields depth = .ok (selection, shown)) {name : String} {v : Value}
    (hmem : (name, v) ∈ shown.fields)
    (hm : fieldType (metaOf (env.fieldsGet model schemaFieldAttributes) name) = "many2one") :
    v = .bool false ∨ (∃ i n, v = .list [i, n]) ∨ ∃ i d, py.int recordId = .ok i ∧ depth.truthy = true ∧
      py.int depth = .ok d ∧ Opened py env model i d selection name := by
  obtain ⟨hrec, hs⟩ := List.mem_filter.1 hmem
  obtain ⟨data, hsel, hfetch, hexp⟩ := fetchShown_ok h
  obtain ⟨i, names, hi, hn, -, hdata⟩ := fetchRecord_relations hfetch
  have hdata' := (hdata name (by rw [hm]; decide) (shown_ne_id hs)).2
  rcases expandDepth_fields hexp with ⟨heq, -⟩ | ⟨d, htr, hd, h0, hmap⟩
  · rw [heq] at hrec
    obtain ⟨rfl, -, -⟩ := (hdata' v).1 hrec
    rcases ht.many2one i name hm with hv | ⟨k, label, hv⟩
    · exact Or.inl hv
    · exact Or.inr (Or.inl ⟨_, _, hv⟩)
  · obtain ⟨⟨name', w⟩, hw, hstep⟩ := mapM_mem hmap hrec
    obtain rfl : name = name' := expandRelation_key hstep
    obtain ⟨rfl, hnames, hkept⟩ := (hdata' w).1 hw
    rcases ht.many2one i name hm with hv | ⟨k, label, hv⟩
    · rw [hv, expandRelation_unset] at hstep
      exact Or.inl (Prod.mk.inj (Except.ok.inj hstep)).2.symm
    · by_cases hf : ∃ rel relId, followed (metaOf (env.fieldsGet model schemaFieldAttributes) name)
          (.list [.int k, label]) = some (rel, relId) ∧ RelatedRead py env d rel relId
      · exact Or.inr (Or.inr ⟨i, d, hi, htr, hd, h0, ⟨names, hn, hnames⟩, hkept, hs, hm, hv ▸ hf⟩)
      · rw [hv] at hstep
        exact Or.inr (Or.inl ⟨_, _, (Prod.mk.inj (expandRelation_kept hm hf hstep)).2⟩)

/-- A many2one that is opened is an object of the record. -/
lemma opened_dict (ht : Typed env model)
    (h : fetchShown py env model recordId fields depth = .ok (selection, shown)) {i d : ℤ}
    (hi : py.int recordId = .ok i) (htr : depth.truthy = true) (hd : py.int depth = .ok d) {name : String}
    (ho : Opened py env model i d selection name) : ∃ p kvs, (name, .dict (p :: kvs)) ∈ shown.fields := by
  obtain ⟨data, hsel, hfetch, hexp⟩ := fetchShown_ok h
  obtain ⟨i', names, hi', hn, -, hdata⟩ := fetchRecord_relations hfetch
  obtain rfl : i = i' := Except.ok.inj (hi.symm.trans hi')
  obtain ⟨h0, ⟨names', hn', hname⟩, hkept, hs, hm, rel, relId, hfol, hread⟩ := ho
  obtain rfl : names = names' := Except.ok.inj (hn.symm.trans hn')
  have hmem := ((hdata name (by rw [hm]; decide) (shown_ne_id hs)).2 _).2 ⟨rfl, hname, hkept⟩
  rw [expandDepth_mapM htr hd h0] at hexp
  obtain ⟨q, hq, hstep⟩ := mapM_mem_left hexp hmem
  rcases ht.many2one i name hm with hv | ⟨k, label, hv⟩
  · rw [hv] at hfol
    cases hfol
  · rw [hv] at hstep hfol
    obtain ⟨p, kvs, rfl⟩ := expandRelation_opened hm ⟨rel, relId, hfol, hread⟩ hstep
    exact ⟨p, kvs, List.mem_filter.2 ⟨hq, hs⟩⟩

/-- **The lists of related records stay.** -/
lemma x2many_list (ht : Typed env model)
    (h : fetchShown py env model recordId fields depth = .ok (selection, shown)) {name : String} {v : Value}
    (hmem : (name, v) ∈ shown.fields)
    (hx : fieldType (metaOf (env.fieldsGet model schemaFieldAttributes) name) ∈ x2manyTypes) :
    ∃ ids : List ℤ, v = .list (ids.map .int) := by
  obtain ⟨hrec, hs⟩ := List.mem_filter.1 hmem
  obtain ⟨data, hsel, hfetch, hexp⟩ := fetchShown_ok h
  obtain ⟨i, names, hi, hn, -, hdata⟩ := fetchRecord_relations hfetch
  have hdata' := (hdata name (List.mem_cons_of_mem _ hx) (shown_ne_id hs)).2
  have hm : fieldType (metaOf (env.fieldsGet model schemaFieldAttributes) name) ≠ "many2one" := by
    intro he
    rw [he] at hx
    exact absurd hx (by decide)
  have hval : v = env.value ⟨model, i, name⟩ := by
    rcases expandDepth_fields hexp with ⟨heq, -⟩ | ⟨d, -, -, -, hmap⟩
    · rw [heq] at hrec
      exact ((hdata' v).1 hrec).1
    · obtain ⟨⟨name', w⟩, hw, hstep⟩ := mapM_mem hmap hrec
      obtain rfl : name = name' := expandRelation_key hstep
      rw [expandRelation_other hm] at hstep
      obtain rfl : w = v := (Prod.mk.inj (Except.ok.inj hstep)).2
      exact ((hdata' w).1 hw).1
  rw [hval]
  exact ht.x2many i name hx

/-- The metadata of relations is the same in the text. -/
lemma relation_meta (h : fetchShown py env model recordId fields depth = .ok (selection, shown)) {name : String}
    (hs : isShownName name = true)
    (hr : fieldType (metaOf (env.fieldsGet model schemaFieldAttributes) name) ∈
      ["many2one", "one2many", "many2many"]) :
    metaOf shown.renderMeta name = metaOf (env.fieldsGet model schemaFieldAttributes) name := by
  obtain ⟨data, hsel, hfetch, hexp⟩ := fetchShown_ok h
  obtain ⟨i, names, hi, hn, -, hdata⟩ := fetchRecord_relations hfetch
  exact (hdata name hr (shown_ne_id hs)).1

lemma fields_nodup (h : fetchShown py env model recordId fields depth = .ok (selection, shown)) :
    (shown.fields.map (·.1)).Nodup := by
  obtain ⟨data, hsel, hfetch, hexp⟩ := fetchShown_ok h
  obtain ⟨i, names, hi, hn, hnd, -⟩ := fetchRecord_relations hfetch
  have hrec : (shown.record.map (·.1)).Nodup := by
    rw [expandDepth_keys hexp]
    exact hnd
  exact hrec.sublist (List.filter_sublist.map _)

/-- **Every field once**, whatever the record. -/
lemma fields_once (h : fetchShown py env model recordId fields depth = .ok (selection, shown)) :
    ∃ simple relations : Dict, (simple ++ relations).Perm shown.fields ∧
      ((simple ++ relations).map (·.1)).Nodup ∧
      (∀ p ∈ shown.fields, ∃ text rest, shown.fieldLines py model p = fieldLine p.1 text :: rest) ∧
      shown.text py model = join "\n" (headerLines py model shown.record ++
        titled "Fields:" (simple.flatMap (shown.fieldLines py model)) ++
        titled "Relationships:" (relations.flatMap (shown.fieldLines py model))) := by
  have hperm : ((shown.fields.filter fun p => !shown.isRelation p) ++
      shown.fields.filter shown.isRelation).Perm shown.fields :=
    List.perm_append_comm.trans (List.filter_append_perm _ _)
  refine ⟨_, _, hperm, ?_, fun p _ => fieldLines_head p, text_blocks⟩
  exact (hperm.map _).nodup_iff.2 (fields_nodup h)

/-- **Text and data.**  They agree on the relations if and only if no many2one that is shown is opened. -/
lemma shown_agrees_iff (ht : Typed env model)
    (h : fetchShown py env model recordId fields depth = .ok (selection, shown)) :
    shown.Agrees py model (env.fieldsGet model schemaFieldAttributes) ↔
      ∀ i d, py.int recordId = .ok i → depth.truthy = true → py.int depth = .ok d →
        ∀ name, ¬ Opened py env model i d selection name := by
  constructor
  · intro ha i d hi htr hd name ho
    obtain ⟨p, kvs, hmem⟩ := opened_dict ht h hi htr hd ho
    have hmeta := relation_meta h ho.shown (by rw [ho.many2one]; decide)
    have hline : shown.fieldLines py model (name, .dict (p :: kvs)) = [fieldLine name "Not set"] := by
      rw [notSet_iff (by rw [hmeta]; exact ho.many2one)]
      simp
    have hfalse := (ha.notSet _ hmem ho.many2one).1 hline
    simp [Value.truthy] at hfalse
  · intro hno
    refine ⟨?_, ?_, fields_once h⟩
    · rintro ⟨name, v⟩ hmem hm
      have hmeta := relation_meta h (List.mem_filter.1 hmem).2 (by rw [hm]; decide)
      rw [notSet_iff (by rw [hmeta]; exact hm)]
      rcases many2one_cases ht h hmem hm with rfl | ⟨i, n, rfl⟩ | ⟨i, d, hi, htr, hd, ho⟩
      · simp [Value.truthy]
      · simp [Value.truthy]
      · exact absurd ho (hno i d hi htr hd name)
    · rintro ⟨name, v⟩ hmem hx
      have hmeta := relation_meta h (List.mem_filter.1 hmem).2 (List.mem_cons_of_mem _ hx)
      rw [noRecords_iff (by rw [hmeta]; exact hx)]
      obtain ⟨ids, rfl⟩ := x2many_list ht h hmem hx
      cases ids with
      | nil => simp [Value.truthy]
      | cons k ids => simp [Value.truthy]

end Fields

end Agreement

/-- **The text of `get`.**  What it returns is the text of a record beside that record, and the two agree on
the relations if and only if no many2one that is shown is opened. -/
theorem renders_iff (py : Builtins) (env : Env) (model : String) (recordId fields depth reply : Value)
    (ht : Typed env model) (h : fetch py env model recordId fields depth = .ok reply) :
    ∃ selection shown, fetchShown py env model recordId fields depth = .ok (selection, shown) ∧
      reply = result (shown.text py model)
        (fetchStructured selection (env.fieldsGet model schemaFieldAttributes) shown.record) ∧
      (shown.Agrees py model (env.fieldsGet model schemaFieldAttributes) ↔
        ∀ i d, py.int recordId = .ok i → depth.truthy = true → py.int depth = .ok d →
          ∀ name, ¬ Opened py env model i d selection name) := by
  rw [fetch_shown] at h
  obtain ⟨⟨selection, shown⟩, hs, h⟩ := except_bind_ok.1 h
  exact ⟨selection, shown, hs, (except_pure_ok.1 h).symm, shown_agrees_iff ht hs⟩

/-! ### An order and its partner -/

/-- The order of `partnerEnv`, whose partner is called Azure. -/
def azureEnv : Env := partnerEnv.withValue fun c =>
  if c.model = "sale.order" then .list [.int 1, .str "Azure"] else .str "Azure"

lemma azureEnv_typed : Typed azureEnv "sale.order" where
  many2one _ _ _ := Or.inr ⟨1, .str "Azure", rfl⟩
  x2many i name h := by
    by_cases hn : name = "partner_id"
    · subst hn
      exact absurd h (by decide)
    · have hmeta : metaOf (azureEnv.fieldsGet "sale.order" schemaFieldAttributes) name = [] := by
        show (List.lookup name [("partner_id", _)]).getD [] = []
        rw [List.lookup_cons, beq_false_of_ne hn]
        rfl
      rw [hmeta] at h
      exact absurd h (by decide)

/-- Without depth nothing is opened. -/
theorem renders_iff_order : ∃ selection shown,
    fetchShown plainBuiltins azureEnv "sale.order" (.int 5) .none (.int 0) = .ok (selection, shown) ∧
      shown.Agrees plainBuiltins "sale.order" (azureEnv.fieldsGet "sale.order" schemaFieldAttributes) := by
  obtain ⟨selection, shown, hs, -, hiff⟩ :=
    renders_iff plainBuiltins azureEnv "sale.order" (.int 5) .none (.int 0) _ azureEnv_typed rfl
  refine ⟨selection, shown, hs, hiff.2 ?_⟩
  intro i d _ htr
  cases htr

set_option maxRecDepth 10000 in
/-- At depth 1 the order has its partner in the data, and no partner in the text. -/
theorem order_unset :
    fetch plainBuiltins azureEnv "sale.order" (.int 5) .none (.int 1) = .ok (result
      "==================================================
Record: sale.order/5
Name: Record 5
==================================================
Relationships:
  partner_id: Not set"
      (.dict [("record", .dict [("id", .int 5),
          ("partner_id", .dict [("id", .int 1), ("display_name", .str "Azure")])]),
        ("metadata", .dict [("fields_returned", .int 2), ("field_selection", .str "smart_defaults"),
          ("total_available", .int 1)])])) ∧
    Typed azureEnv "sale.order" ∧
    ∃ selection shown,
      fetchShown plainBuiltins azureEnv "sale.order" (.int 5) .none (.int 1) = .ok (selection, shown) ∧
        ¬ shown.Agrees plainBuiltins "sale.order" (azureEnv.fieldsGet "sale.order" schemaFieldAttributes) := by
  refine ⟨rfl, azureEnv_typed, _, _, rfl, fun ha => ?_⟩
  have hfield := ha.notSet ("partner_id", .dict [("id", .int 1), ("display_name", .str "Azure")])
    (List.mem_cons_self ..) rfl
  exact absurd (hfield.1 rfl) (by decide)

end AdvMcp.Read
