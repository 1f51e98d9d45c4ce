import AdvMcp.Lib.Firsts
import AdvMcp.Server.ToolList

/-!
# The index of the builtin tools

`_get_adv_tools` of `models/tool_mixin.py`: the tools are the methods that carry a stamp, and the classes of the
mixin are scanned in their resolution order.

* `scanAttr`, `getAdvTools` — the loops, with the two accumulators `index` and `visited_methods`;
* `governed` — the stamps that count: for every attribute the stamp of the most derived class that stamps it;
* `index_exact` — the index has, under each name, the first of these stamps, and what a call runs is the most
  derived attribute of that name, which carries the stamp or none;
* `extension_exact` — what a class in front of all others makes of the index.
-/

namespace AdvMcp.Server

open AdvMcp.Lib AdvMcp.Py

/-- What `adv_tool` stamps on a method. -/
structure Stamp where
  name : String
  title : Option String
  description : String
  info : ToolMeta

/-- An attribute of a class: the stamp, if it has one, and what a call of it does. -/
structure Attribute (σ : Type) where
  advTool : Option Stamp
  method : Dict → EStateM PyExc σ Value

/-- A class: `vars(klass)` is a dictionary. -/
structure Klass (σ : Type) where
  vars : List (String × Attribute σ)
  nodup : (vars.map (·.1)).Nodup

/-- An entry of the index. -/
structure IndexEntry where
  methodName : String
  title : Option String
  description : String
  info : ToolMeta

def indexEntry (attrName : String) (stamp : Stamp) : IndexEntry :=
  ⟨attrName, stamp.title, stamp.description, stamp.info⟩

/-- The two accumulators of the scan. -/
structure Scan where
  index : List (String × IndexEntry)
  visitedMethods : List String

section Index

variable {σ : Type}

/-- The body of the inner loop. -/
def scanAttr (s : Scan) (p : String × Attribute σ) : Scan :=
  if p.1 ∈ s.visitedMethods then s
  else match p.2.advTool with
    | none => s
    | some stamp =>
      if (s.index.lookup stamp.name).isSome then { s with visitedMethods := p.1 :: s.visitedMethods }
      else ⟨s.index ++ [(stamp.name, indexEntry p.1 stamp)], p.1 :: s.visitedMethods⟩

def scanClass (s : Scan) (klass : Klass σ) : Scan := klass.vars.foldl scanAttr s

/-- `_get_adv_tools` -/
def getAdvTools (mro : List (Klass σ)) : List (String × IndexEntry) := (mro.foldl scanClass ⟨[], []⟩).index

/-- `getattr(host, name)` -/
def getattr (mro : List (Klass σ)) (name : String) : Option (Attribute σ) :=
  mro.findSome? fun klass => klass.vars.lookup name

/-- A call of `getattr(host, name)`. -/
def boundMethod (mro : List (Klass σ)) (name : String) (incoming : Dict) : EStateM PyExc σ Value :=
  match getattr mro name with
  | some attr => attr.method incoming
  | none => throw (.of .exception ("'adv.tool.mixin' object has no attribute '" ++ name ++ "'"))

/-- The builtin tools of the handler: the metadata of the index, and the methods that are bound. -/
def builtins (mro : List (Klass σ)) : List (String × Builtin σ) :=
  (getAdvTools mro).map fun p => (p.1, ⟨p.2.info, boundMethod mro p.2.methodName⟩)

/-! ### The stamps that count -/

/-- The stamped ones of some attributes. -/
def stampedOf (vars : List (String × Attribute σ)) : List (String × Stamp) :=
  vars.filterMap fun p => p.2.advTool.map fun stamp => (p.1, stamp)

def Klass.stamped (klass : Klass σ) : List (String × Stamp) := stampedOf klass.vars

/-- The stamp of the most derived class that stamps the attribute. -/
def governing (mro : List (Klass σ)) (attrName : String) : Option Stamp :=
  mro.findSome? fun klass => (klass.vars.lookup attrName).bind (·.advTool)

/-- The stamps that govern their attributes, in the order of the scan. -/
def governed (mro : List (Klass σ)) : List (String × Stamp) := firsts (·.1) [] (mro.flatMap Klass.stamped)

def toEntry (d : String × Stamp) : String × IndexEntry := (d.2.name, indexEntry d.1 d.2)

variable {mro : List (Klass σ)} {klass : Klass σ} {vars : List (String × Attribute σ)} {s : Scan}
  {name attrName : String} {stamp : Stamp} {d : String × Stamp}

lemma stampedOf_cons (p : String × Attribute σ) : stampedOf (p :: vars) = stampedOf [p] ++ stampedOf vars := by
  unfold stampedOf
  rw [← List.filterMap_append, List.singleton_append]

lemma stampedOf_singleton (p : String × Attribute σ) :
    stampedOf [p] = match p.2.advTool with | some stamp => [(p.1, stamp)] | none => [] := by
  unfold stampedOf
  cases h : p.2.advTool with
  | none => rw [List.filterMap_cons_none (by simp [h]), List.filterMap_nil]
  | some stamp => simp [h]

/-- The scan with what it has met: the index has the first stamp of each name, among the first stamps of each
method. -/
structure Scanned (s : Scan) (met : List (String × Stamp)) : Prop where
  index_eq : s.index = (firsts (·.2.name) [] (firsts (·.1) [] met)).map toEntry
  visited_iff : ∀ n, n ∈ s.visitedMethods ↔ n ∈ met.map (·.1)

lemma lookup_isSome {l : List (String × IndexEntry)} : (l.lookup name).isSome ↔ name ∈ l.map (·.1) := by
  rw [← not_iff_not, Bool.not_eq_true, Option.isSome_eq_false_iff, Option.isNone_iff_eq_none,
    List.lookup_eq_none_iff]
  constructor
  · intro h hm
    obtain ⟨p, hp, rfl⟩ := List.mem_map.1 hm
    simpa using h p hp
  · intro h p hp
    simp only [bne_iff_ne, ne_eq]
    rintro rfl
    exact h (List.mem_map_of_mem hp)

/-- **One turn** of the inner loop. -/
lemma Scanned.scanAttr {met : List (String × Stamp)} (h : Scanned s met) (p : String × Attribute σ) :
    Scanned (scanAttr s p) (met ++ stampedOf [p]) := by
  unfold Server.scanAttr
  have hst := stampedOf_singleton p
  cases ha : p.2.advTool with
  | none =>
    rw [ha] at hst
    simp only [hst, List.append_nil, ite_self]
    exact h
  | some stamp =>
    rw [ha] at hst
    simp only [hst]
    have hvis : ∀ n, n ∈ p.1 :: s.visitedMethods ↔ n ∈ (met ++ [(p.1, stamp)]).map (·.1) := by
      intro n
      simp only [List.mem_cons, h.visited_iff, List.map_append, List.mem_append, List.map_cons, List.map_nil,
        List.not_mem_nil, or_false]
      exact or_comm
    by_cases hv : p.1 ∈ s.visitedMethods
    · have hsame : firsts (·.1) [] (met ++ [(p.1, stamp)]) = firsts (·.1) [] met :=
        firsts_concat_of_mem ((h.visited_iff p.1).1 hv)
      rw [if_pos hv]
      refine ⟨by rw [hsame, h.index_eq], fun n => ?_⟩
      rw [← hvis n, List.mem_cons]
      constructor
      · exact Or.inr
      · rintro (rfl | hn)
        · exact hv
        · exact hn
    · have hfirst : firsts (·.1) [] (met ++ [(p.1, stamp)]) = firsts (·.1) [] met ++ [(p.1, stamp)] :=
        firsts_concat_of_notMem (mt (h.visited_iff p.1).2 hv)
      rw [if_neg hv]
      have hkeys : stamp.name ∈ (firsts (·.2.name) [] (firsts (·.1) [] met)).map (fun d => d.2.name) ↔
          stamp.name ∈ (firsts (·.1) [] met).map (fun d => d.2.name) := mem_keys_firsts
      have hseen : (s.index.lookup stamp.name).isSome ↔
          stamp.name ∈ (firsts (·.1) [] met).map (fun d => d.2.name) := by
        rw [lookup_isSome, h.index_eq, List.map_map]
        exact hkeys
      by_cases hn : (s.index.lookup stamp.name).isSome = true
      · have hskip : firsts (·.2.name) [] (firsts (·.1) [] met ++ [(p.1, stamp)]) =
            firsts (·.2.name) [] (firsts (·.1) [] met) := firsts_concat_of_mem (hseen.1 hn)
        rw [if_pos hn]
        exact ⟨by rw [hfirst, hskip, h.index_eq], hvis⟩
      · have hadd : firsts (·.2.name) [] (firsts (·.1) [] met ++ [(p.1, stamp)]) =
            firsts (·.2.name) [] (firsts (·.1) [] met) ++ [(p.1, stamp)] := firsts_concat_of_notMem (mt hseen.2 hn)
        rw [if_neg hn]
        refine ⟨?_, hvis⟩
        rw [hfirst, hadd, List.map_append, ← h.index_eq]
        rfl

lemma Scanned.scanClass {met : List (String × Stamp)} (h : Scanned s met) :
    Scanned (scanClass s klass) (met ++ klass.stamped) := by
  unfold Server.scanClass Klass.stamped
  generalize klass.vars = vars
  induction vars generalizing s met with
  | nil => simpa [stampedOf] using h
  | cons p vars ih =>
    rw [List.foldl_cons, stampedOf_cons, ← List.append_assoc]
    exact ih (h.scanAttr p)

lemma Scanned.scanMro {met : List (String × Stamp)} (h : Scanned s met) :
    Scanned (mro.foldl Server.scanClass s) (met ++ mro.flatMap Klass.stamped) := by
  induction mro generalizing s met with
  | nil => simpa using h
  | cons klass mro ih =>
    rw [List.foldl_cons, List.flatMap_cons, ← List.append_assoc]
    exact ih h.scanClass

/-- The index, with the two conditions of the loop taken one after the other. -/
lemma getAdvTools_eq (mro : List (Klass σ)) :
    getAdvTools mro = (firsts (·.2.name) [] (governed mro)).map toEntry := by
  have h0 : Scanned ⟨[], []⟩ [] := ⟨rfl, fun n => by simp⟩
  have hall : Scanned (mro.foldl scanClass ⟨[], []⟩) ([] ++ mro.flatMap Klass.stamped) := h0.scanMro
  exact hall.index_eq

/-! ### The stamps of the index, and what is called -/

lemma find?_stampedOf (hn : (vars.map (·.1)).Nodup) :
    (stampedOf vars).find? (fun d => decide (d.1 = attrName)) =
      ((vars.lookup attrName).bind (·.advTool)).map fun stamp => (attrName, stamp) := by
  induction vars with
  | nil => rfl
  | cons p vars ih =>
    obtain ⟨n, attr⟩ := p
    rw [List.map_cons, List.nodup_cons] at hn
    rw [stampedOf_cons, stampedOf_singleton, List.find?_append, ih hn.2]
    by_cases he : n = attrName
    · subst he
      have hlater : vars.lookup n = none := by
        rw [List.lookup_eq_none_iff]
        intro q hq
        rw [bne_iff_ne]
        exact fun he => hn.1 (List.mem_map.2 ⟨q, hq, he.symm⟩)
      rw [List.lookup_cons_self, hlater, Option.bind_some]
      cases attr.advTool <;> simp
    · have hne : (attrName == n) = false := beq_eq_false_iff_ne.2 (Ne.symm he)
      rw [List.lookup_cons, hne]
      cases attr.advTool <;> simp [he]

lemma governing_cons : governing (klass :: mro) attrName =
    ((klass.vars.lookup attrName).bind (·.advTool)).or (governing mro attrName) := by
  unfold governing
  rw [List.findSome?_cons]
  cases (klass.vars.lookup attrName).bind (·.advTool) <;> rfl

lemma getattr_cons : getattr (klass :: mro) attrName = (klass.vars.lookup attrName).or (getattr mro attrName) := by
  unfold getattr
  rw [List.findSome?_cons]
  cases klass.vars.lookup attrName <;> rfl

/-- The first stamp of an attribute is that of the most derived class that stamps it. -/
lemma find?_flatMap_stamped : (mro.flatMap Klass.stamped).find? (fun d => decide (d.1 = attrName)) =
    (governing mro attrName).map fun stamp => (attrName, stamp) := by
  induction mro with
  | nil => rfl
  | cons klass mro ih =>
    have hfirst : klass.stamped.find? (fun d => decide (d.1 = attrName)) = _ := find?_stampedOf klass.nodup
    rw [List.flatMap_cons, List.find?_append, ih, hfirst, governing_cons]
    cases (klass.vars.lookup attrName).bind (·.advTool) <;> rfl

lemma mem_governed : (attrName, stamp) ∈ governed mro ↔ governing mro attrName = some stamp := by
  unfold governed
  rw [mem_firsts, find?_flatMap_stamped]
  constructor
  · intro h
    obtain ⟨stamp', hs, he⟩ := Option.map_eq_some_iff.1 h
    rw [hs, (Prod.mk.inj he).2]
  · intro h
    rw [h]
    rfl

lemma lookup_toEntry (l : List (String × Stamp)) : (l.map toEntry).lookup name =
    (l.find? fun d => decide (d.2.name = name)).map fun d => indexEntry d.1 d.2 := by
  induction l with
  | nil => rfl
  | cons d l ih =>
    rw [List.map_cons]
    by_cases he : d.2.name = name
    · subst he
      rw [List.find?_cons_of_pos (by simp)]
      exact List.lookup_cons_self
    · have hne : (name == d.2.name) = false := beq_eq_false_iff_ne.2 (Ne.symm he)
      rw [List.find?_cons_of_neg (by simp [he]), ← ih, toEntry, List.lookup_cons, hne]

lemma lookup_getAdvTools : (getAdvTools mro).lookup name =
    ((governed mro).find? fun d => decide (d.2.name = name)).map fun d => indexEntry d.1 d.2 := by
  rw [getAdvTools_eq, lookup_toEntry]
  have hfind : (firsts (·.2.name) [] (governed mro)).find? (fun d => decide (d.2.name = name)) =
      (governed mro).find? fun d => decide (d.2.name = name) := find?_firsts name List.not_mem_nil
  rw [hfind]

/-- What `getattr` binds for a governed attribute has its stamp, or none. -/
lemma getattr_governing (h : governing mro attrName = some stamp) :
    ∃ attr, getattr mro attrName = some attr ∧ (attr.advTool = some stamp ∨ attr.advTool = none) := by
  induction mro with
  | nil => cases h
  | cons klass mro ih =>
    rw [governing_cons] at h
    rw [getattr_cons]
    cases hl : klass.vars.lookup attrName with
    | none =>
      rw [hl] at h
      exact ih h
    | some attr =>
      rw [hl, Option.bind_some] at h
      refine ⟨attr, rfl, ?_⟩
      cases ha : attr.advTool with
      | none => exact Or.inr rfl
      | some stamp' =>
        rw [ha] at h
        exact Or.inl h

/-- **The index.**  Its names are distinct.  Under a name it has the first of the stamps for that name that govern
their attribute, those of the most derived class that stamps it; the attribute that a call binds exists, and it
carries the very stamp or none. -/
theorem index_exact (mro : List (Klass σ)) :
    ((getAdvTools mro).map (·.1)).Nodup ∧
    (∀ attrName stamp, (attrName, stamp) ∈ governed mro ↔ governing mro attrName = some stamp) ∧
    ∀ name, ((getAdvTools mro).lookup name = none ↔ ∀ d ∈ governed mro, d.2.name ≠ name) ∧
      ∀ e, (getAdvTools mro).lookup name = some e ↔
        ∃ before attrName stamp after, governed mro = before ++ (attrName, stamp) :: after ∧
          (∀ d ∈ before, d.2.name ≠ name) ∧ stamp.name = name ∧ e = indexEntry attrName stamp ∧
          ∃ attr, getattr mro attrName = some attr ∧ (attr.advTool = some stamp ∨ attr.advTool = none) := by
  refine ⟨?_, fun _ _ => mem_governed, fun name => ⟨?_, fun e => ?_⟩⟩
  · rw [getAdvTools_eq, List.map_map]
    exact firsts_nodup
  · rw [lookup_getAdvTools, Option.map_eq_none_iff, List.find?_eq_none]
    simp
  · rw [lookup_getAdvTools, Option.map_eq_some_iff]
    constructor
    · rintro ⟨⟨attrName, stamp⟩, hf, rfl⟩
      obtain ⟨hname, before, after, he, hbefore⟩ := List.find?_eq_some_iff_append.1 hf
      have hgov : governing mro attrName = some stamp := mem_governed.1 (List.mem_of_find?_eq_some hf)
      exact ⟨before, attrName, stamp, after, he, by simpa using hbefore, by simpa using hname, rfl, getattr_governing hgov⟩
    · rintro ⟨before, attrName, stamp, after, he, hbefore, hname, rfl, -⟩
      refine ⟨(attrName, stamp), ?_, rfl⟩
      exact List.find?_eq_some_iff_append.2 ⟨by simpa using hname, before, after, he, by simpa using hbefore⟩

/-! ### A class in front of the others -/

lemma nodup_stampedOf (hn : (vars.map (·.1)).Nodup) : ((stampedOf vars).map (·.1)).Nodup := by
  have hsub : (stampedOf vars).map (·.1) = (vars.filter fun p => p.2.advTool.isSome).map (·.1) := by
    clear hn
    induction vars with
    | nil => rfl
    | cons p vars ih =>
      rw [stampedOf_cons, stampedOf_singleton, List.map_append, ih]
      cases h : p.2.advTool with
      | none => rw [List.filter_cons_of_neg (by simp [h])]; rfl
      | some stamp => rw [List.filter_cons_of_pos (by simp [h])]; rfl
  rw [hsub]
  exact hn.sublist (List.filter_sublist.map _)

/-- The stamps of the class, and those of the others for attributes that it does not stamp. -/
lemma governed_cons : governed (klass :: mro) =
    klass.stamped ++ (governed mro).filter fun d => d.1 ∉ klass.stamped.map (·.1) := by
  unfold governed
  have hown : firsts (·.1) [] klass.stamped = klass.stamped := firsts_of_nodup (nodup_stampedOf klass.nodup)
  rw [List.flatMap_cons, firsts_append, hown, List.append_nil, firsts_eq_filter]

lemma lookup_builtins : (builtins mro).lookup name =
    ((getAdvTools mro).lookup name).map fun e => ⟨e.info, boundMethod mro e.methodName⟩ := by
  unfold builtins
  induction getAdvTools mro with
  | nil => rfl
  | cons p l ih =>
    rw [List.map_cons, List.lookup_cons, List.lookup_cons, ih]
    cases name == p.1 <;> rfl

lemma lookup_of_mem_stamped (h : d ∈ klass.stamped) :
    ∃ attr, klass.vars.lookup d.1 = some attr ∧ attr.advTool = some d.2 := by
  obtain ⟨attrName, stamp⟩ := d
  have hap : Apart (fun a b : String × Stamp => a.1 = b.1) klass.stamped := .of_nodup (nodup_stampedOf klass.nodup)
  have hf : klass.stamped.find? (fun d => decide (d.1 = attrName)) = some (attrName, stamp) :=
    hap.find?_eq_some h (by simp) fun b _ hb => of_decide_eq_true hb
  have heq : klass.stamped.find? (fun d => decide (d.1 = attrName)) = _ := find?_stampedOf klass.nodup
  rw [hf] at heq
  obtain ⟨stamp', hs, he⟩ := Option.map_eq_some_iff.1 heq.symm
  obtain ⟨attr, hl, ha⟩ := Option.bind_eq_some_iff.1 hs
  exact ⟨attr, hl, by rw [ha, (Prod.mk.inj he).2]⟩

/-- The name of a tool is that of a stamp of the class. -/
lemma lookup_stamped (h : klass.stamped.find? (fun d => decide (d.2.name = name)) = some d) :
    ∃ attr, klass.vars.lookup d.1 = some attr ∧ attr.advTool = some d.2 ∧
      (builtins (klass :: mro)).lookup name = some ⟨d.2.info, attr.method⟩ := by
  obtain ⟨attr, hl, ha⟩ := lookup_of_mem_stamped (List.mem_of_find?_eq_some h)
  have hbound : boundMethod (klass :: mro) d.1 = attr.method := by
    funext incoming
    unfold boundMethod
    rw [getattr_cons, hl]
    rfl
  refine ⟨attr, hl, ha, ?_⟩
  rw [lookup_builtins, lookup_getAdvTools, governed_cons, List.find?_append, h]
  show some (⟨d.2.info, boundMethod (klass :: mro) d.1⟩ : Builtin σ) = _
  rw [hbound]

/-- The class has no stamp for the name, nor any for the attribute that the others have under it. -/
lemma lookup_unstamped (hname : ∀ d ∈ klass.stamped, d.2.name ≠ name)
    (hown : ∀ e, (getAdvTools mro).lookup name = some e → e.methodName ∉ klass.stamped.map (·.1)) :
    (getAdvTools (klass :: mro)).lookup name = (getAdvTools mro).lookup name := by
  have hnone : klass.stamped.find? (fun d => decide (d.2.name = name)) = none := by
    rw [List.find?_eq_none]
    simpa using hname
  rw [lookup_getAdvTools, governed_cons, List.find?_append, hnone, Option.none_or]
  rw [lookup_getAdvTools] at hown ⊢
  congr 1
  cases hf : (governed mro).find? (fun d => decide (d.2.name = name)) with
  | none =>
    rw [List.find?_eq_none] at hf ⊢
    exact fun d hd => hf d (List.mem_of_mem_filter hd)
  | some d =>
    rw [hf] at hown
    exact find?_filter_of_find? hf (by rw [decide_eq_true_eq]; exact hown _ rfl)

/-- The handler looks up one name in the index. -/
lemma invokeTool_congr {w : Site σ} {l l' : List (String × Builtin σ)} {args : Dict} (q : Session) (db : σ)
    (hargs : args.get "name" = .str name) (h : l.lookup name = l'.lookup name) :
    invokeTool { w with index := l } q args db = invokeTool { w with index := l' } q args db := by
  have hres : resolveTool { w with index := l } name = resolveTool { w with index := l' } name := by
    unfold resolveTool
    simp only [h]
    rfl
  unfold invokeTool
  rw [hargs]
  simp only
  rw [hres]
  rfl

/-- **A class in front of the others**, as when a module inherits the mixin.  The first of its stamps for a name
takes the name over, with its metadata and its method.  Under a name for which it has no stamp, and whose attribute
it does not stamp either, the metadata stays; the method is then its own if it has one of that name, and if it has
none, no call of the tool comes out differently. -/
theorem extension_exact (w : Site σ) (klass : Klass σ) (mro : List (Klass σ)) (name : String) :
    (∀ d, klass.stamped.find? (fun d => decide (d.2.name = name)) = some d →
      ∃ attr, klass.vars.lookup d.1 = some attr ∧ attr.advTool = some d.2 ∧
        (builtins (klass :: mro)).lookup name = some ⟨d.2.info, attr.method⟩) ∧
    ((∀ d ∈ klass.stamped, d.2.name ≠ name) →
      (∀ e, (getAdvTools mro).lookup name = some e → e.methodName ∉ klass.stamped.map (·.1)) →
      (getAdvTools (klass :: mro)).lookup name = (getAdvTools mro).lookup name ∧
      (∀ e attr, (getAdvTools mro).lookup name = some e → klass.vars.lookup e.methodName = some attr →
        attr.advTool = none ∧ (builtins (klass :: mro)).lookup name = some ⟨e.info, attr.method⟩) ∧
      ((∀ e, (getAdvTools mro).lookup name = some e → klass.vars.lookup e.methodName = none) →
        ∀ q args db, args.get "name" = .str name →
          invokeTool { w with index := builtins (klass :: mro) } q args db =
            invokeTool { w with index := builtins mro } q args db)) := by
  refine ⟨fun d hd => lookup_stamped hd, fun hname hown => ?_⟩
  have hsame := lookup_unstamped hname hown
  refine ⟨hsame, fun e attr he ha => ⟨?_, ?_⟩, fun hnone q args db hargs => ?_⟩
  · cases hs : attr.advTool with
    | none => rfl
    | some stamp =>
      refine absurd ?_ (hown e he)
      have heq : klass.stamped.find? (fun d => decide (d.1 = e.methodName)) = _ := find?_stampedOf klass.nodup
      rw [ha, Option.bind_some, hs] at heq
      exact List.mem_map_of_mem (List.mem_of_find?_eq_some heq)
  · have hbound : boundMethod (klass :: mro) e.methodName = attr.method := by
      funext incoming
      unfold boundMethod
      rw [getattr_cons, ha]
      rfl
    rw [lookup_builtins, hsame, he, Option.map_some, hbound]
  · refine invokeTool_congr q db hargs ?_
    rw [lookup_builtins, lookup_builtins, hsame]
    cases he : (getAdvTools mro).lookup name with
    | none => rfl
    | some e =>
      have hbound : boundMethod (klass :: mro) e.methodName = boundMethod mro e.methodName := by
        funext incoming
        unfold boundMethod
        rw [getattr_cons, hnone e he, Option.none_or]
      rw [Option.map_some, Option.map_some, hbound]

end Index

def dropMeta : ToolMeta := ⟨some "unlink", [], [("readOnlyHint", .bool false)]⟩

/-- The class that has the tool, and one that overrides its method without the decorator. -/
def baseClass : Klass Unit := ⟨[("drop_tool", ⟨some ⟨"drop", none, "Deletes records", dropMeta⟩, fun _ => pure (.dict [])⟩)],
  by decide⟩

def overridingClass : Klass Unit := ⟨[("drop_tool", ⟨none, fun _ => pure (.str "kept")⟩)], by decide⟩

theorem extension_exact_override :
    (builtins [overridingClass, baseClass]).lookup "drop" = some ⟨dropMeta, fun _ => pure (.str "kept")⟩ :=
  (((extension_exact deskSite overridingClass [baseClass] "drop").2 (by decide) (by decide)).2.1
    (indexEntry "drop_tool" ⟨"drop", none, "Deletes records", dropMeta⟩) _ rfl rfl).2

end AdvMcp.Server
