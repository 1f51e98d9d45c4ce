import AdvMcp.Tools.Pipeline

/-!
# Which results can be addressed

The templates by which a later operation of a pipeline names the result of an earlier one.

* `Loop` — the named results as the loop of `pipeline` keeps them (`runOps_loop`);
* `Addressed` — after any results, the template of an id and a field is resolved to that field of the operation
  with the id, on its own and within a text;
* `addressed_iff` — the ids, the fields and the texts for which this is so.
-/

namespace AdvMcp.Tools

open AdvMcp.Lib AdvMcp.Py

/-- `"{{" + id + "." + field + "}}"` -/
def templateOf (id field : String) : List Char :=
  '{' :: '{' :: (id.toList ++ '.' :: (field.toList ++ ['}', '}']))

/-- The named results, after the operations that gave `earlier`. -/
inductive Loop : Dict → List (Value × Value) → Prop
  | start : Loop [] []
  | step {named named' : Dict} {earlier : List (Value × Value)} {id result : Value} :
    Loop named earlier → nameResult id result named = .ok named' → Loop named' (earlier ++ [(id, result)])

/-- The id and the field that a template can spell. -/
structure Spellable (id field : String) : Prop where
  id_clean : ∀ c ∈ id.toList, c ≠ '.' ∧ c ≠ '}'
  field_ne : field ≠ ""
  field_clean : ∀ c ∈ field.toList, c ≠ '}'

/-- In a later operation, whatever the results are: the template alone is resolved to the field of the operation
with the id, and between `pre` and `post` it is replaced by its text.  `between` are the ids of the operations
between the two. -/
def Addressed (repr : Value → String) (id field : String) (between : List Value) (pre post : String) : Prop :=
  ∀ (named : Dict) (index : ℕ) (before after : List (Value × Value)) (result v : Value),
    Loop named (before ++ (.str id, result) :: after) → after.map Prod.fst = between →
    exposedField field result = some v →
    resolveRefs repr named index (.str (String.ofList (templateOf id field))) = .ok v ∧
    resolveRefs repr named index (.str (String.ofList (pre.toList ++ (templateOf id field ++ post.toList)))) =
      .ok (.str (pre ++ v.pyStr repr ++ post))

/-! ### Templates -/

section Templates

variable {id field : String}

lemma template_iff : Template ⟨id, field⟩ (templateOf id field) ↔ id ≠ "" ∧ Spellable id field :=
  ⟨fun h => ⟨h.name_ne, h.name_clean, h.field_ne, h.field_clean⟩,
    fun ⟨hne, h⟩ => ⟨hne, h.id_clean, h.field_ne, h.field_clean, rfl⟩⟩

/-- No template begins in a text without opening braces. -/
lemma clear_of_no_brace {l r : List Char} (h : ∀ c ∈ l, c ≠ '{') : Clear Template l r := by
  intro u hu hs b t v ht he
  obtain ⟨c, u, rfl⟩ := List.exists_cons_of_ne_nil hu
  rw [ht.spelled] at he
  have hc : c = '{' := (List.cons.inj he).1
  exact h c (hs.subset List.mem_cons_self) hc

end Templates

/-! ### The loop -/

section Named

variable {named : Dict} {earlier : List (Value × Value)}

lemma Loop.names (h : Loop named earlier) : Names named earlier := by
  induction h with
  | start => exact fun _ => rfl
  | step _ hn ih => exact (nameResult_ok ih hn).2

/-- An operation of a pipeline meets the named results of the operations before it. -/
theorem runOps_loop {σ : Type} {tools : String → Dict → EStateM PyExc σ Value} {repr : Value → String}
    {first rest results out : List Value} {op : Value} {index : ℕ} {db db' : σ} (h : Loop named earlier)
    (hr : runOps tools repr (first ++ op :: rest) index named results db = .ok out db') :
    ∃ named' more db₁ result db₂, Loop named' (earlier ++ more) ∧ more.map Prod.fst = first.map opId ∧
      runBatchOp tools repr op named' (index + first.length) db₁ = .ok result db₂ := by
  induction first generalizing index named earlier results db with
  | nil =>
    obtain ⟨result, db₂, hop, -⟩ := bind_ok.1 hr
    exact ⟨named, [], db, result, db₂, by simpa using h, rfl, hop⟩
  | cons o first ih =>
    obtain ⟨result, db₁, -, hr⟩ := bind_ok.1 hr
    obtain ⟨named', db₂, hp, hr⟩ := bind_ok.1 hr
    obtain ⟨hn, rfl⟩ := peek_ok.1 hp
    obtain ⟨named'', more, db₃, result', db₄, hl, hmore, hop⟩ := ih (h.step hn) hr
    refine ⟨named'', (opId o, result) :: more, db₃, result', db₄, ?_, ?_, ?_⟩
    · simpa using hl
    · simp [hmore]
    · have hindex : index + (o :: first).length = index + 1 + first.length := by
        rw [List.length_cons]
        omega
      rw [hindex]
      exact hop

/-- After an operation with a name that is not given again, the latest result of the name is its own. -/
lemma latest_of_last {before after : List (Value × Value)} {id : String} {result : Value} (hid : id ≠ "")
    (hafter : ∀ p ∈ after, p.1 ≠ .str id) :
    latest (before ++ (.str id, result) :: after) id = result := by
  induction after using List.reverseRecOn with
  | nil =>
    rw [latest_append]
    exact if_pos (by simp [Value.truthy, Value.str?, hid])
  | append_singleton after p ih =>
    rw [← List.cons_append, ← List.append_assoc]
    obtain ⟨x, w⟩ := p
    rw [latest_append, if_neg, ih fun p hp => hafter p (List.mem_append_left _ hp)]
    intro h
    have hx := hafter (x, w) (by simp)
    cases x <;> simp [Value.str?] at h hx
    exact hx h.2

/-- If the name is given again, it is another result. -/
lemma latest_again {before after : List (Value × Value)} {id : String} {w : Value} (hid : id ≠ "")
    (hw : ∀ p ∈ after, p.2 = w) (hagain : ∃ p ∈ after, p.1 = .str id) : latest (before ++ after) id = w := by
  induction after using List.reverseRecOn with
  | nil =>
    obtain ⟨p, hp, -⟩ := hagain
    exact absurd hp List.not_mem_nil
  | append_singleton after p ih =>
    obtain ⟨x, u⟩ := p
    rw [← List.append_assoc, latest_append]
    split_ifs with h
    · exact hw (x, u) (by simp)
    · refine ih (fun p hp => hw p (List.mem_append_left _ hp)) ?_
      obtain ⟨p, hp, hx⟩ := hagain
      rcases List.mem_append.1 hp with hp | hp
      · exact ⟨p, hp, hx⟩
      · rw [List.mem_singleton.1 hp] at hx
        exact absurd (by simp [show x = .str id from hx, Value.truthy, Value.str?, hid]) h

/-- The latest result of a name is a result of that name, if there is one. -/
lemma latest_mem (earlier : List (Value × Value)) (name : String) :
    latest earlier name = .none ∨ (.str name, latest earlier name) ∈ earlier := by
  unfold latest
  cases hf : earlier.reverse.find? fun r => r.1.truthy && r.1.str? == some name with
  | none => exact Or.inl rfl
  | some p =>
    obtain ⟨x, w⟩ := p
    have hmem := List.mem_reverse.1 (List.mem_of_find?_eq_some hf)
    have hx := List.find?_some hf
    cases x <;> simp [Value.str?] at hx
    rw [hx.2] at hmem
    exact Or.inr hmem

/-- The loop runs through any results, if the ids can be keys. -/
lemma loop_of_keyable : ∀ earlier : List (Value × Value), (∀ p ∈ earlier, Keyable p.1) → ∃ named, Loop named earlier := by
  intro earlier
  induction earlier using List.reverseRecOn with
  | nil => exact fun _ => ⟨[], .start⟩
  | append_singleton earlier p ih =>
    intro h
    obtain ⟨named, hl⟩ := ih fun q hq => h q (List.mem_append_left _ hq)
    obtain ⟨named', hn⟩ := nameResult_of_keyable p.2 named (h p (by simp))
    exact ⟨named', hl.step hn⟩

end Named

/-! ### The only result -/

/-- A result that exposes one field. -/
def onlyField (field : String) (v : Value) : Value :=
  .dict [("structuredContent", .dict [("record", .dict [(field, v)])])]

lemma exposedField_onlyField {f field : String} {v w : Value} :
    exposedField f (onlyField field v) = some w ↔ f = field ∧ w = v := by
  show List.lookup f [(field, v)] = some w ↔ _
  rw [List.lookup_cons, List.lookup_nil]
  by_cases h : f = field
  · simp [h, eq_comm]
  · have hb : (f == field) = false := beq_false_of_ne h
    simp [h, hb]

section Only

variable {id field : String} {between : List Value} {named : Dict} {v : Value}

/-- The operation `id` with its one field, and then operations that expose nothing. -/
def onlyResult (id field : String) (between : List Value) (v : Value) : List (Value × Value) :=
  (.str id, onlyField field v) :: between.map fun x => (x, .dict [])

lemma only_names : (between.map fun x => (x, Value.dict [])).map Prod.fst = between := by
  simp [Function.comp_def]

/-- Then a reference is that field. -/
lemma only_found (h : Loop named (onlyResult id field between v)) {r : Ref} {w : Value} (hf : Found named r w) :
    r.name = id ∧ r.field = field ∧ w = v := by
  unfold Found at hf
  rw [h.names r.name] at hf
  rcases latest_mem (onlyResult id field between v) r.name with hnone | hmem
  · rw [hnone] at hf
    cases hf
  · rcases List.mem_cons.1 hmem with he | hmem
    · obtain ⟨hid, hres⟩ := Prod.mk.inj he
      rw [hres, exposedField_onlyField] at hf
      exact ⟨Value.str.inj hid, hf⟩
    · obtain ⟨x, -, hx⟩ := List.mem_map.1 hmem
      rw [← (Prod.mk.inj hx).2] at hf
      cases hf

lemma exists_loop (hkeys : ∀ x ∈ between, Keyable x) :
    ∃ named, Loop named (onlyResult id field between v) := by
  refine loop_of_keyable _ fun p hp => ?_
  rcases List.mem_cons.1 hp with rfl | hp
  · exact fun _ => ⟨by simp, by simp⟩
  · obtain ⟨x, hx, rfl⟩ := List.mem_map.1 hp
    exact hkeys x hx

end Only

/-! ### Texts -/

section Texts

variable {repr : Value → String} {look : Ref → Value → Prop} {ps : List (Piece Char Ref)} {ts : List String}

/-- Where every reference has the same text. -/
lemma join_fillWith {w : String} (h : List.Forall₂ (FilledPiece repr look) ps ts)
    (hw : ∀ r v, look r v → v.pyStr repr = w) : (String.join ts).toList = fillWith w.toList ps := by
  induction h with
  | nil => simp [fillWith]
  | cons hp _ ih =>
    rw [String.join_cons, String.toList_append, ih]
    cases hp with
    | text c => simp [fillWith]
    | hole hl => rw [hw _ _ hl, fillWith]

lemma filled_texts (l : List Char) :
    List.Forall₂ (FilledPiece repr look) (l.map .text) (l.map String.singleton) := by
  induction l with
  | nil => exact .nil
  | cons c l ih => exact .cons (.text c) ih

lemma join_singletons (s : String) : String.join (s.toList.map String.singleton) = s := by
  apply String.toList_injective
  rw [String.toList_join]
  induction s.toList with
  | nil => rfl
  | cons c l ih => simp [ih]

end Texts

/-! ### Templates that are resolved -/

section Addressing

variable {repr : Value → String} {id field pre post : String} {between : List Value} {named : Dict} {index : ℕ}

/-- The text with its template is cut there, and nowhere else. -/
lemma cut_template (hid : id ≠ "") : Cut Template (pre.toList ++ (templateOf id field ++ post.toList))
      (pre.toList.map .text ++ .hole ⟨id, field⟩ :: post.toList.map .text) ↔
    Spellable id field ∧ Clear Template pre.toList (templateOf id field ++ post.toList) ∧
      Clear Template post.toList [] := by
  have hpost : Cut Template post.toList (post.toList.map .text) ↔ Clear Template post.toList [] := by
    have h : Cut Template (post.toList ++ []) (post.toList.map .text ++ []) ↔ _ := cut_clear
    rw [List.append_nil, List.append_nil] at h
    rw [h]
    exact ⟨fun h => h.1, fun h => ⟨h, .nil⟩⟩
  rw [cut_clear]
  constructor
  · rintro ⟨hpre, hc⟩
    generalize hm : templateOf id field ++ post.toList = m at hc
    cases hc with
    | @hole _ t l _ ht hc =>
      have hl := eq_of_cut_texts hc
      have hspell : Spellable id field := ⟨ht.name_clean, ht.field_ne, ht.field_clean⟩
      subst hl
      exact ⟨hspell, hm ▸ hpre, hpost.1 hc⟩
  · rintro ⟨hspell, hpre, hclear⟩
    exact ⟨hpre, .hole (template_iff.2 ⟨hid, hspell⟩) (hpost.2 hclear)⟩

/-- The template alone. -/
lemma resolve_template (hid : id ≠ "") (hspell : Spellable id field) {v : Value}
    (hv : Found named ⟨id, field⟩ v) :
    resolveRefs repr named index (.str (String.ofList (templateOf id field))) = .ok v := by
  refine (resolveRefs_iff _).2 (.whole ?_ hv)
  rw [String.toList_ofList]
  exact template_iff.2 ⟨hid, hspell⟩

/-- The template within a text. -/
lemma resolve_embedded (hlong : pre ≠ "" ∨ post ≠ "") {v : Value} (hv : Found named ⟨id, field⟩ v)
    (hc : Cut Template (pre.toList ++ (templateOf id field ++ post.toList))
      (pre.toList.map .text ++ .hole ⟨id, field⟩ :: post.toList.map .text)) :
    resolveRefs repr named index (.str (String.ofList (pre.toList ++ (templateOf id field ++ post.toList)))) =
      .ok (.str (pre ++ v.pyStr repr ++ post)) := by
  have hfilled : List.Forall₂ (FilledPiece repr (Found named))
      (pre.toList.map .text ++ .hole ⟨id, field⟩ :: post.toList.map .text)
      (pre.toList.map String.singleton ++ v.pyStr repr :: post.toList.map String.singleton) :=
    List.rel_append (filled_texts _) (.cons (.hole hv) (filled_texts _))
  have hjoin : String.join (pre.toList.map String.singleton ++ v.pyStr repr ::
      post.toList.map String.singleton) = pre ++ v.pyStr repr ++ post := by
    rw [String.join_append, String.join_cons, join_singletons, join_singletons, String.append_assoc]
  rw [← hjoin]
  refine (resolveRefs_iff _).2 (.embedded (fun r ht => ?_) (by rwa [String.toList_ofList]) hfilled)
  -- a text that is one template is cut into one hole
  rw [String.toList_ofList] at ht
  have hone : Cut Template (pre.toList ++ (templateOf id field ++ post.toList)) [.hole r] := by
    have h := Cut.hole ht .nil
    rwa [List.append_nil] at h
  have hps := ((cut_iff refFinder).1 hc).trans ((cut_iff refFinder).1 hone).symm
  have hlen := congrArg List.length hps
  simp only [List.length_append, List.length_map, List.length_cons, List.length_nil] at hlen
  rcases hlong with h | h
  · exact h (String.toList_injective (List.length_eq_zero_iff.1 (by omega)))
  · exact h (String.toList_injective (List.length_eq_zero_iff.1 (by omega)))

/-- A template that is resolved to a number spells the id and the field. -/
lemma spellable_of_resolved (h : Loop named (onlyResult id field between (.int 0)))
    (hr : resolveRefs repr named index (.str (String.ofList (templateOf id field))) = .ok (.int 0)) :
    Spellable id field ∧ Found named ⟨id, field⟩ (.int 0) := by
  have hfilled := (resolveRefs_iff _).1 hr
  cases hfilled with
  | @whole _ r _ ht hf =>
    rw [String.toList_ofList] at ht
    obtain ⟨hname, hfield, -⟩ := only_found h hf
    obtain ⟨n, f⟩ := r
    obtain rfl : n = id := hname
    obtain rfl : f = field := hfield
    exact ⟨(template_iff.1 ht).2, hf⟩

/-- What is filled in within a text shows the cut of the text. -/
lemma cut_of_resolved {w : String} (h : Loop named (onlyResult id field between (.str w)))
    (hlong : pre ≠ "" ∨ post ≠ "")
    (hr : resolveRefs repr named index (.str (String.ofList (pre.toList ++ (templateOf id field ++ post.toList)))) =
      .ok (.str (pre ++ w ++ post))) :
    fillWith w.toList (pieces findRef 0 (pre.toList ++ (templateOf id field ++ post.toList))) =
      pre.toList ++ (w.toList ++ post.toList) := by
  have hfilled := (resolveRefs_iff _).1 hr
  generalize ho : (Value.str (pre ++ w ++ post)) = out at hfilled
  cases hfilled with
  | whole ht hf =>
    obtain ⟨-, -, rfl⟩ := only_found h hf
    have hlen := congrArg String.length (Value.str.inj ho)
    rw [String.length_append, String.length_append] at hlen
    rcases hlong with h | h
    · exact absurd (String.length_eq_zero_iff.1 (by omega)) h
    · exact absurd (String.length_eq_zero_iff.1 (by omega)) h
  | @embedded _ ps ts hn hc hts =>
    rw [String.toList_ofList] at hc
    obtain rfl := (cut_iff refFinder).1 hc
    have hjoin := join_fillWith (w := w) hts fun r v hv => by
      obtain ⟨-, -, rfl⟩ := only_found h hv
      rfl
    have hout := congrArg String.toList (Value.str.inj ho)
    rw [String.toList_append, String.toList_append, List.append_assoc] at hout
    rw [hout]
    exact hjoin.symm
  | scalar hs _ _ => exact absurd rfl (hs _)

/-- A name that is given again names the later result. -/
lemma not_again (hid : id ≠ "") {v : Value} (h : Loop named (onlyResult id field between v))
    (hf : Found named ⟨id, field⟩ v) : .str id ∉ between := by
  intro hmem
  unfold Found at hf
  have hlast : latest (onlyResult id field between v) id = .dict [] := by
    rw [onlyResult, ← List.singleton_append]
    refine latest_again hid (fun p hp => ?_) ⟨(.str id, .dict []), List.mem_map_of_mem hmem, rfl⟩
    obtain ⟨x, -, rfl⟩ := List.mem_map.1 hp
    rfl
  rw [h.names id, hlast] at hf
  cases hf

/-- **Addressing**: an operation can be addressed exactly if its id has neither a full stop nor a closing brace
and the field is not empty and has no closing brace, if no later operation has the same id, and if in the text no
other reference begins. -/
theorem addressed_iff (repr : Value → String) (hid : id ≠ "") (hlong : pre ≠ "" ∨ post ≠ "")
    (hkeys : ∀ x ∈ between, Keyable x) : Addressed repr id field between pre post ↔
      Spellable id field ∧ .str id ∉ between ∧ Clear Template pre.toList (templateOf id field ++ post.toList) ∧
        Clear Template post.toList [] := by
  constructor
  · intro h
    have hrun : ∀ v, ∃ named, Loop named (onlyResult id field between v) ∧
        resolveRefs repr named 0 (.str (String.ofList (templateOf id field))) = .ok v ∧
        resolveRefs repr named 0 (.str (String.ofList (pre.toList ++ (templateOf id field ++ post.toList)))) =
          .ok (.str (pre ++ v.pyStr repr ++ post)) := by
      intro v
      obtain ⟨named, hl⟩ : ∃ named, Loop named (onlyResult id field between v) := exists_loop hkeys
      exact ⟨named, hl, h named 0 [] _ (onlyField field v) v hl only_names (exposedField_onlyField.2 ⟨rfl, rfl⟩)⟩
    obtain ⟨named, hl, hone, -⟩ := hrun (.int 0)
    obtain ⟨hspell, hfound⟩ := spellable_of_resolved hl hone
    have hpieces : ∀ w : List Char,
        fillWith w (pieces findRef 0 (pre.toList ++ (templateOf id field ++ post.toList))) =
          pre.toList ++ (w ++ post.toList) := by
      intro w
      obtain ⟨named, hl, -, htext⟩ := hrun (.str (String.ofList w))
      have hfill := cut_of_resolved hl hlong htext
      rwa [String.toList_ofList] at hfill
    obtain ⟨b, hb⟩ := eq_of_fillWith (show 'a' ≠ 'b' by decide) hpieces
    have hcut := (cut_iff refFinder).2 hb.symm
    obtain ⟨-, hhole⟩ := cut_clear.1 hcut
    have hhead := ((cut_iff refFinder).1 hhole).trans
      (pieces_hole refFinder (template_iff.2 ⟨hid, hspell⟩) post.toList)
    obtain rfl := Piece.hole.inj (List.cons.inj hhead).1
    exact ⟨hspell, not_again hid hl hfound, ((cut_template hid).1 hcut).2⟩
  · rintro ⟨hspell, hbetween, hpre, hpost⟩ named index before after result v hl hafter hv
    have hfound : Found named ⟨id, field⟩ v := by
      unfold Found
      rw [hl.names id, latest_of_last hid]
      · exact hv
      · intro p hp hx
        rw [← hafter, ← hx] at hbetween
        exact hbetween (List.mem_map_of_mem hp)
    exact ⟨resolve_template hid hspell hfound,
      resolve_embedded hlong hfound ((cut_template hid).2 ⟨hspell, hpre, hpost⟩)⟩

end Addressing

/-! ### A partner and its order -/

/-- A tool that answers with a record. -/
def recordTool (_ : String) (_ : Dict) : EStateM PyExc Unit Value :=
  pure (result "Created" (.dict [("success", .bool true), ("record", .dict [("id", .int 7)])]))

/-- A partner under the given id, and an order that refers to it by the given text. -/
def orderBatch (id text : String) : Value :=
  .list [.dict [("id", .str id), ("tool", .str "add"), ("args", .dict [])],
    .dict [("tool", .str "add"), ("args", .dict [("note", .str text)])]]

/-- The partner within a text. -/
theorem addressed_iff_partner : Addressed (fun _ => "") "partner" "id" [] "/web#id=" "" := by
  have hpre : Clear Template "/web#id=".toList (templateOf "partner" "id" ++ "".toList) :=
    clear_of_no_brace (by decide)
  have hpost : Clear Template "".toList [] := clear_of_no_brace (by decide)
  exact (addressed_iff (fun _ => "") (by decide) (Or.inl (by decide)) (fun _ h => absurd h List.not_mem_nil)).2
    ⟨⟨by decide, by decide, by decide⟩, List.not_mem_nil, hpre, hpost⟩

/-- A full stop in the id, and a brace before the template. -/
theorem unaddressed :
    (∃ e, pipeline recordTool (fun _ => "") (orderBatch "res.partner" "\x7b\x7bres.partner.id\x7d\x7d") () =
      .error e () ∧ e.text = "Op 1: unknown ref 'res'.") ∧
    ∃ e, pipeline recordTool (fun _ => "") (orderBatch "partner" "\x7b\x7b\x7bpartner.id\x7d\x7d\x7d") () =
      .error e () ∧ e.text = "Op 1: unknown ref '\x7bpartner'." := by
  exact ⟨⟨_, rfl, rfl⟩, ⟨_, rfl, rfl⟩⟩

end AdvMcp.Tools
