import AdvMcp.Lib.Prefix
import AdvMcp.Read.Secrecy

/-!
# The filter of `search`

`_build_filter` appends the equalities of `spec` to the clauses of `domain`.  In prefix notation this is
their conjunction only behind a domain that lacks no operand: an operator that does takes an equality
for one (`buildFilter_iff`).

What the ORM makes of a term (a field, an operator and a value) is a parameter, `Terms`; it rejects a
domain that lacks operands or has a term that it does not accept.
-/

namespace AdvMcp.Read

open AdvMcp.Py AdvMcp.Lib.Prefix

/-- An item of an Odoo domain: an operator, or a term. -/
def domainToken : Value → Token Value
  | .str "&" => .and
  | .str "|" => .or
  | .str "!" => .not
  | v => .leaf v

def domainTokens (d : List Value) : List (Token Value) := d.map domainToken

/-- The terms that the ORM accepts, and the records that satisfy them.  No comparison operator contains an
ampersand. -/
structure Terms (ρ : Type) where
  accepts : Value → Prop
  holds : Value → ρ → Prop
  operators : ∀ field op val, accepts (.list [field, .str op, val]) → '&' ∉ op.toList

variable {ρ : Type} {py : Builtins} {T : Terms ρ}

/-- The ORM accepts the domain, and it selects the records in `P`. -/
def Terms.Selects (T : Terms ρ) (d : List Value) (P : ρ → Prop) : Prop :=
  (∀ v, .leaf v ∈ domainTokens d → T.accepts v) ∧
    ∃ es, spellAll es = domainTokens d ∧ ∀ r, P r ↔ ∀ e ∈ es, e.Holds T.holds r

/-- A domain selects one set of records. -/
lemma Terms.Selects.unique {d : List Value} {P Q : ρ → Prop} (hP : T.Selects d P)
    (hQ : T.Selects d Q) : P = Q := by
  obtain ⟨-, es, hes, hP⟩ := hP
  obtain ⟨-, fs, hfs, hQ⟩ := hQ
  have h : es = fs := spellAll_injective (hes.trans hfs.symm)
  subst h
  funext r
  exact propext ((hP r).trans (hQ r).symm)

/-- The filter `f` is the conjunction of the domain `d` and of the equalities of `s`, and is rejected if
the domain lacks operands. -/
structure Conjoined (ρ : Type) (d : List Value) (s : Value) (f : List Value) : Prop where
  selects : ∀ (T : Terms ρ) (P : ρ → Prop), T.Selects d P → (∀ c ∈ specClauses s, T.accepts c) →
    T.Selects f fun r => P r ∧ ∀ c ∈ specClauses s, T.holds c r
  rejects : ¬ WellFormed (domainTokens d) → ¬ WellFormed (domainTokens f)

/-! ### Unescaping -/

/-- Unescaping an item changes no operator and makes no operator. -/
lemma arity_unescapeCondition (py : Builtins) (v : Value) :
    (domainToken (unescapeCondition py v)).arity = (domainToken v).arity := by
  unfold unescapeCondition
  split <;> rfl

lemma missing_unescapeDomain (py : Builtins) (d : List Value) :
    missing (domainTokens (unescapeDomain py d)) = missing (domainTokens d) := by
  refine missing_congr ?_
  unfold domainTokens unescapeDomain
  rw [List.map_map, List.map_map, List.map_map]
  exact List.map_congr_left fun v _ => arity_unescapeCondition py v

/-- A domain that the ORM accepts has nothing to unescape. -/
lemma unescapeDomain_of_selects (hun : ∀ s : String, '&' ∉ s.toList → py.unescape s = s) {d : List Value}
    {P : ρ → Prop} (h : T.Selects d P) : unescapeDomain py d = d := by
  unfold unescapeDomain
  conv_rhs => rw [← List.map_id d]
  refine List.map_congr_left fun v hv => ?_
  unfold unescapeCondition
  split
  · rename_i field op val
    have hleaf : Token.leaf (.list [field, .str op, val]) ∈ domainTokens d := List.mem_map.2 ⟨_, hv, rfl⟩
    rw [hun op (T.operators field op val (h.1 _ hleaf))]
    rfl
  · rfl

/-! ### The equalities -/

lemma domainTokens_specClauses (s : Value) :
    domainTokens (specClauses s) = (specClauses s).map .leaf := by
  unfold domainTokens
  refine List.map_congr_left fun c hc => ?_
  cases s with
  | dict kvs =>
    obtain ⟨p, -, rfl⟩ := List.mem_map.1 hc
    rfl
  | _ => cases hc

lemma domainTokens_append (d c : List Value) : domainTokens (d ++ c) = domainTokens d ++ domainTokens c :=
  List.map_append

/-- Each equality fills an operand that the domain lacks. -/
lemma missing_filter (py : Builtins) (d : List Value) (s : Value) :
    missing (domainTokens (unescapeDomain py d ++ specClauses s)) =
      missing (domainTokens d) - (specClauses s).length := by
  rw [domainTokens_append, domainTokens_specClauses, missing_append_leaves, missing_unescapeDomain]

/-- Behind a domain that the ORM accepts, the equalities are its conjuncts. -/
lemma selects_append {d : List Value} {P : ρ → Prop} (h : T.Selects d P) {s : Value}
    (hs : ∀ c ∈ specClauses s, T.accepts c) :
    T.Selects (d ++ specClauses s) fun r => P r ∧ ∀ c ∈ specClauses s, T.holds c r := by
  obtain ⟨hacc, es, hes, hP⟩ := h
  have htok : domainTokens (d ++ specClauses s) = domainTokens d ++ (specClauses s).map .leaf := by
    rw [domainTokens_append, domainTokens_specClauses]
  refine ⟨fun v hv => ?_, es ++ (specClauses s).map .leaf, ?_, fun r => ?_⟩
  · rw [htok] at hv
    rcases List.mem_append.1 hv with hv | hv
    · exact hacc v hv
    · obtain ⟨c, hc, he⟩ := List.mem_map.1 hv
      rw [← Token.leaf.inj he]
      exact hs c hc
  · rw [spellAll_append, spellAll_leaves, hes, htok]
  · show (P r ∧ _) ↔ _
    rw [hP]
    constructor
    · rintro ⟨hd, hc⟩ e he
      rcases List.mem_append.1 he with he | he
      · exact hd e he
      · obtain ⟨c, hm, rfl⟩ := List.mem_map.1 he
        exact hc c hm
    · intro h
      refine ⟨fun e he => h e (List.mem_append_left _ he), fun c hc => ?_⟩
      exact h (.leaf c) (List.mem_append_right _ (List.mem_map_of_mem hc))

/-! ### The filter -/

/-- The filter is the conjunction of the equalities and of any domain that lacks as many operands and selects what
the unescaped clauses select, exactly when that domain lacks no operand or more than there are equalities. -/
lemma conjoined_iff {clauses d f : List Value} {s : Value} (hf : f = unescapeDomain py clauses ++ specClauses s)
    (hd : missing (domainTokens d) = missing (domainTokens clauses))
    (hsel : ∀ (T : Terms ρ) (P : ρ → Prop), T.Selects d P → T.Selects (unescapeDomain py clauses) P) :
    Conjoined ρ d s f ↔ WellFormed (domainTokens clauses) ∨
      (specClauses s).length < missing (domainTokens clauses) := by
  have hmissing := missing_filter py clauses s
  rw [← hf] at hmissing
  rw [wellFormed_iff]
  constructor
  · intro h
    by_cases hw : missing (domainTokens clauses) = 0
    · exact Or.inl hw
    · have hrej := h.rejects fun hwf => hw (hd ▸ wellFormed_iff.1 hwf)
      rw [wellFormed_iff, hmissing] at hrej
      omega
  · intro h
    refine ⟨fun T P hP hacc => ?_, fun hw => ?_⟩
    · rw [hf]
      exact selects_append (hsel T P hP) hacc
    · rw [wellFormed_iff] at hw ⊢
      rw [hmissing]
      omega

/-- **The filter of `search`**, for every domain argument and every `spec`: an argument that is no list is
refused whatever `spec` is; otherwise the filter is the conjunction of both, the operators of the domain unescaped,
or is rejected with the domain, exactly when the domain lacks no operand or more operands than `spec` has entries;
and the same of the domain as it was given, where there is nothing to unescape. -/
theorem buildFilter_iff (hun : ∀ s : String, '&' ∉ s.toList → py.unescape s = s) (d s : Value) :
    (∀ e, domainClauses py d = .error e → buildFilter py d s = .error e) ∧
    ∀ clauses, domainClauses py d = .ok clauses → ∃ f, buildFilter py d s = .ok f ∧
      (Conjoined ρ clauses s f ↔ WellFormed (domainTokens clauses) ∨
        (specClauses s).length < missing (domainTokens clauses)) ∧
      (Conjoined ρ (unescapeDomain py clauses) s f ↔ WellFormed (domainTokens clauses) ∨
        (specClauses s).length < missing (domainTokens clauses)) := by
  constructor
  · intro e he
    unfold buildFilter
    rw [he]
    rfl
  · intro clauses hc
    refine ⟨unescapeDomain py clauses ++ specClauses s, by unfold buildFilter; rw [hc]; rfl, ?_, ?_⟩
    · refine conjoined_iff rfl rfl fun T P hsel => ?_
      rw [unescapeDomain_of_selects hun hsel]
      exact hsel
    · exact conjoined_iff rfl (missing_unescapeDomain py clauses) fun T P hsel => hsel

/-- Open orders or orders of one partner, and in company 1. -/
theorem buildFilter_iff_orders : ∃ f,
    buildFilter plainBuiltins (.list [.str "|", .list [.str "state", .str "=", .str "draft"],
      .list [.str "partner_id", .str "=", .int 7]]) (.dict [("company_id", .int 1)]) = .ok f ∧
    Conjoined Unit [.str "|", .list [.str "state", .str "=", .str "draft"],
      .list [.str "partner_id", .str "=", .int 7]] (.dict [("company_id", .int 1)]) f := by
  have hun : ∀ s : String, '&' ∉ s.toList → plainBuiltins.unescape s = s := fun _ _ => rfl
  obtain ⟨f, hf, hiff, -⟩ := (buildFilter_iff (ρ := Unit) hun
    (.list [.str "|", .list [.str "state", .str "=", .str "draft"],
      .list [.str "partner_id", .str "=", .int 7]]) (.dict [("company_id", .int 1)])).2 _ rfl
  exact ⟨f, hf, hiff.2 (Or.inl (by decide))⟩

/-- The domain that lacks its second alternative is rejected; with an equality it is accepted, and
selects the records of either. -/
theorem spec_absorbed :
    ¬ WellFormed (domainTokens [.str "|", .list [.str "state", .str "=", .str "draft"]]) ∧
    ∃ f, buildFilter plainBuiltins (.list [.str "|", .list [.str "state", .str "=", .str "draft"]])
        (.dict [("company_id", .int 1)]) = .ok f ∧
      WellFormed (domainTokens f) ∧
      ∀ (ρ : Type) (T : Terms ρ), T.accepts (.list [.str "state", .str "=", .str "draft"]) →
        T.accepts (.list [.str "company_id", .str "=", .int 1]) →
        T.Selects f fun r => T.holds (.list [.str "state", .str "=", .str "draft"]) r ∨
          T.holds (.list [.str "company_id", .str "=", .int 1]) r := by
  refine ⟨by decide, _, rfl, by decide, fun ρ T h₁ h₂ => ⟨fun v hv => ?_,
    [.or (.leaf (.list [.str "state", .str "=", .str "draft"]))
      (.leaf (.list [.str "company_id", .str "=", .int 1]))], rfl, fun r => ?_⟩⟩
  · have hmem : Token.leaf v ∈ [.or, .leaf (.list [.str "state", .str "=", .str "draft"]),
        .leaf (.list [.str "company_id", .str "=", .int 1])] := hv
    simp only [List.mem_cons, List.not_mem_nil, or_false, Token.leaf.injEq, reduceCtorEq,
      false_or] at hmem
    rcases hmem with rfl | rfl
    · exact h₁
    · exact h₂
  · simp [Formula.Holds]

end AdvMcp.Read
