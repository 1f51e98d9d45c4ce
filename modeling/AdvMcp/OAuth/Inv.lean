import AdvMcp.OAuth.Change

/-!
# The invariant of the OAuth machine

* `CodeOk`, `TokenOk` — what holds of every stored row: its id and its hash have been given out, the
  family of a used code or of a token has been drawn, and the row is on the record.
* `LogOk` — what holds of the record: ids are never given out twice, a code is exchanged once, and a
  rotation copies family and scope.
* `Inv` — both, with what relates the rows of a table to each other: keys are unique, a family has
  one unrevoked token, and its rows belong to one client.

`reachable_inv` is the main result; every step keeps the parts by `step_change`.
-/

namespace AdvMcp.OAuth

open AdvMcp.Lib

variable {σ : Site} {s s' : State}

/-! ### The record -/

/-- The code that an entry of the record issued. -/
def Issue.code? : Issue → Option CodeRow
  | .authorized _ _ c => some c
  | _ => none

/-- The token that an entry of the record issued. -/
def Issue.token? : Issue → Option TokenRow
  | .exchanged _ t => some t
  | .refreshed _ t => some t
  | _ => none

def issuedCodes (log : List Issue) : List CodeRow := log.filterMap Issue.code?

def issuedTokens (log : List Issue) : List TokenRow := log.filterMap Issue.token?

/-- `b` is `a`, revoked or not. -/
def Copy (a b : TokenRow) : Prop := b = { a with revoked := b.revoked }

lemma Copy.refl (a : TokenRow) : Copy a a := rfl

lemma Copy.id {a b : TokenRow} (h : Copy a b) : b.id = a.id := by rw [h]

lemma Copy.family {a b : TokenRow} (h : Copy a b) : b.refreshFamilyId = a.refreshFamilyId := by rw [h]

lemma Copy.scope {a b : TokenRow} (h : Copy a b) : b.scope = a.scope := by rw [h]

lemma issuedCodes_append (log log' : List Issue) :
    issuedCodes (log ++ log') = issuedCodes log ++ issuedCodes log' := List.filterMap_append

lemma issuedTokens_append (log log' : List Issue) :
    issuedTokens (log ++ log') = issuedTokens log ++ issuedTokens log' := List.filterMap_append

lemma token_eq_some {i : Issue} {t : TokenRow} :
    i.token? = some t ↔ (∃ c, i = .exchanged c t) ∨ ∃ old, i = .refreshed old t := by
  constructor
  · intro h
    cases i with
    | authorized req client c => cases h
    | exchanged c t' =>
      obtain rfl : t' = t := Option.some.inj h
      exact Or.inl ⟨c, rfl⟩
    | refreshed old t' =>
      obtain rfl : t' = t := Option.some.inj h
      exact Or.inr ⟨old, rfl⟩
  · rintro (⟨c, rfl⟩ | ⟨old, rfl⟩)
    · rfl
    · rfl

lemma mem_issuedTokens {log : List Issue} {t : TokenRow} :
    t ∈ issuedTokens log ↔ (∃ c, .exchanged c t ∈ log) ∨ ∃ old, .refreshed old t ∈ log := by
  unfold issuedTokens
  rw [List.mem_filterMap]
  constructor
  · rintro ⟨i, hi, ht⟩
    rcases token_eq_some.1 ht with ⟨c, rfl⟩ | ⟨old, rfl⟩
    · exact Or.inl ⟨c, hi⟩
    · exact Or.inr ⟨old, hi⟩
  · rintro (⟨c, hc⟩ | ⟨old, ho⟩)
    · exact ⟨_, hc, rfl⟩
    · exact ⟨_, ho, rfl⟩

lemma Descends.mono {log log' : List Issue} (hs : ∀ i ∈ log, i ∈ log') {k : ℕ} {t : TokenRow}
    (h : Descends log k t) : Descends log' k t := by
  induction h with
  | exchanged hm hid => exact .exchanged (hs _ hm) hid
  | refreshed _ hm hid ih => exact .refreshed ih (hs _ hm) hid

/-- A token of the record descends from a code if its predecessor does. -/
lemma descends_issued {log : List Issue} {i : Issue} {t : TokenRow} (hi : i.token? = some t) (hm : i ∈ log)
    (hold : ∀ old, i = .refreshed old t → ∃ t₀ k, Descends log k t₀ ∧ Copy t₀ old) :
    ∃ k, Descends log k t := by
  rcases token_eq_some.1 hi with ⟨c, rfl⟩ | ⟨old, rfl⟩
  · exact ⟨c.id, .exchanged hm rfl⟩
  · obtain ⟨t₀, k, hk, hcp⟩ := hold old rfl
    exact ⟨k, .refreshed hk hm hcp.id⟩

/-! ### The parts of the invariant -/

structure CodeOk (σ : Site) (s : State) (c : CodeRow) : Prop where
  id_pos : 0 < c.id
  id_lt : c.id < s.store.nextId
  hash : ∃ x ∈ s.minted, c.codeHash = σ.sha256Hex x
  /-- A used code has a family. -/
  family : c.used = true → c.refreshFamilyId ≠ "" ∧ c.refreshFamilyId ∈ s.minted
  /-- An unused code is as it was issued. -/
  unused : c.used = false → c ∈ issuedCodes s.log

structure TokenOk (σ : Site) (s : State) (t : TokenRow) : Prop where
  id_lt : t.id < s.store.nextId
  hash : ∀ h, t.refreshTokenHash = some h → ∃ x ∈ s.minted, h = σ.sha256Hex x
  family : t.refreshFamilyId ≠ "" ∧ t.refreshFamilyId ∈ s.minted
  /-- The token is as it was issued, or revoked since. -/
  issued : ∃ t₀ ∈ issuedTokens s.log, Copy t₀ t

structure LogOk (s : State) : Prop where
  codeId : Apart (fun a b => a.id = b.id) (issuedCodes s.log)
  codeId_lt : ∀ c ∈ issuedCodes s.log, c.id < s.store.nextId
  tokenId : Apart (fun a b => a.id = b.id) (issuedTokens s.log)
  tokenId_lt : ∀ t ∈ issuedTokens s.log, t.id < s.store.nextId
  /-- A code is exchanged as it was issued, and its row is then used, with the token's family. -/
  exchanged : ∀ c t, .exchanged c t ∈ s.log → c ∈ issuedCodes s.log ∧ t.scope = c.scope ∧
    ∀ c' ∈ s.store.codes, c'.id = c.id → c'.used = true ∧ c'.refreshFamilyId = t.refreshFamilyId
  once : ∀ c t c' t', .exchanged c t ∈ s.log → .exchanged c' t' ∈ s.log → c.id = c'.id → t = t'
  /-- A token is rotated as it was issued, and its successor has its family and its scope. -/
  refreshed : ∀ old new, .refreshed old new ∈ s.log → (∃ t₀ ∈ issuedTokens s.log, Copy t₀ old) ∧
    new.refreshFamilyId = old.refreshFamilyId ∧ new.scope = old.scope
  /-- Every token descends from a code. -/
  descends : ∀ t ∈ issuedTokens s.log, ∃ k, Descends s.log k t

structure Inv (σ : Site) (s : State) : Prop where
  nextId_pos : 0 < s.store.nextId
  codes : ∀ c ∈ s.store.codes, CodeOk σ s c
  tokens : ∀ t ∈ s.store.tokens, TokenOk σ s t
  log : LogOk s
  codeIds : (s.store.codes.map (·.id)).Nodup
  codeHash : Apart (fun a b => a.codeHash = b.codeHash) s.store.codes
  tokenIds : (s.store.tokens.map (·.id)).Nodup
  refreshHash : Apart (fun a b => a.refreshTokenHash.isSome ∧ a.refreshTokenHash = b.refreshTokenHash)
    s.store.tokens
  /-- A family has at most one unrevoked token. -/
  oneLive : Apart (fun a b => a.refreshFamilyId = b.refreshFamilyId ∧ a.revoked = false ∧
    b.revoked = false) s.store.tokens
  /-- The rows of a family belong to one client. -/
  tokenClient : ∀ a ∈ s.store.tokens, ∀ b ∈ s.store.tokens,
    a.refreshFamilyId = b.refreshFamilyId → a.client = b.client
  codeClient : ∀ c ∈ s.store.codes, c.used = true → ∀ t ∈ s.store.tokens,
    t.refreshFamilyId = c.refreshFamilyId → t.client = c.client

lemma Inv.codeId (h : Inv σ s) : Apart (fun a b => a.id = b.id) s.store.codes :=
  Apart.of_nodup h.codeIds

lemma Inv.tokenId (h : Inv σ s) : Apart (fun a b => a.id = b.id) s.store.tokens :=
  Apart.of_nodup h.tokenIds

/-! ### Growing -/

lemma CodeOk.mono {c : CodeRow} (h : CodeOk σ s c) (hg : Grows s s')
    (hl : ∀ c ∈ issuedCodes s.log, c ∈ issuedCodes s'.log) : CodeOk σ s' c := by
  obtain ⟨x, hx, hs⟩ := h.hash
  exact ⟨h.id_pos, h.id_lt.trans_le hg.nextId, ⟨x, hg.minted x hx, hs⟩,
    fun hu => ⟨(h.family hu).1, hg.minted _ (h.family hu).2⟩, fun hu => hl c (h.unused hu)⟩

lemma TokenOk.mono {t : TokenRow} (h : TokenOk σ s t) (hg : Grows s s')
    (hl : ∀ t ∈ issuedTokens s.log, t ∈ issuedTokens s'.log) : TokenOk σ s' t := by
  refine ⟨h.id_lt.trans_le hg.nextId, fun k hk => ?_, ⟨h.family.1, hg.minted _ h.family.2⟩, ?_⟩
  · obtain ⟨x, hx, hs⟩ := h.hash k hk
    exact ⟨x, hg.minted x hx, hs⟩
  · obtain ⟨t₀, h0, hc⟩ := h.issued
    exact ⟨t₀, hl t₀ h0, hc⟩

/-- The record as it was, over codes of which the used ones are as they were. -/
lemma LogOk.same (h : LogOk s) (hg : Grows s s') (hl : s'.log = s.log)
    (hu : ∀ c ∈ s'.store.codes, ∃ c₀ ∈ s.store.codes, c₀.id = c.id ∧ (c₀.used = true → c = c₀)) :
    LogOk s' := by
  refine ⟨by rw [hl]; exact h.codeId, fun c hc => ?_, by rw [hl]; exact h.tokenId, fun t ht => ?_,
    fun c t he => ?_, by rw [hl]; exact h.once, by rw [hl]; exact h.refreshed,
    by rw [hl]; exact h.descends⟩
  · rw [hl] at hc
    exact (h.codeId_lt c hc).trans_le hg.nextId
  · rw [hl] at ht
    exact (h.tokenId_lt t ht).trans_le hg.nextId
  · rw [hl] at he ⊢
    obtain ⟨h1, h2, h3⟩ := h.exchanged c t he
    refine ⟨h1, h2, fun c' hc' hid => ?_⟩
    obtain ⟨c₀, h0, hid0, hus⟩ := hu c' hc'
    have hc₀ := h3 c₀ h0 (hid0.trans hid)
    rw [hus hc₀.1]
    exact hc₀

/-! ### Deleting and revoking -/

lemma Inv.deleted (h : Inv σ s) (hg : Grows s s') (hsc : s'.store.codes.Sublist s.store.codes)
    (hst : s'.store.tokens.Sublist s.store.tokens) (hl : s'.log = s.log) : Inv σ s' := by
  have hc : ∀ c ∈ s'.store.codes, c ∈ s.store.codes := hsc.subset
  have ht : ∀ t ∈ s'.store.tokens, t ∈ s.store.tokens := hst.subset
  refine ⟨h.nextId_pos.trans_le hg.nextId, fun c hc' => ?_, fun t ht' => ?_, ?_,
    (hsc.map _).nodup h.codeIds, h.codeHash.mono hc, (hst.map _).nodup h.tokenIds,
    h.refreshHash.mono ht, h.oneLive.mono ht, fun a ha b hb => h.tokenClient a (ht a ha) b (ht b hb),
    fun c hc' hu t ht' => h.codeClient c (hc c hc') hu t (ht t ht')⟩
  · exact (h.codes c (hc c hc')).mono hg fun c h => by rw [hl]; exact h
  · exact (h.tokens t (ht t ht')).mono hg fun t h => by rw [hl]; exact h
  · exact h.log.same hg hl fun c hc' => ⟨c, hc c hc', rfl, fun _ => rfl⟩

/-- The row `t`, revoked if `p` picks it. -/
def mark (p : TokenRow → Bool) (t : TokenRow) : TokenRow := if p t then { t with revoked := true } else t

lemma revoke_tokens (st : Store) (p : TokenRow → Bool) :
    (revoke st p).tokens = st.tokens.map (mark p) := rfl

section Mark

variable {p : TokenRow → Bool} {t : TokenRow}

lemma mark_of_pos (h : p t = true) : mark p t = { t with revoked := true } := if_pos h

lemma mark_of_neg (h : ¬ p t = true) : mark p t = t := if_neg h

lemma copy_mark (p : TokenRow → Bool) (t : TokenRow) : Copy t (mark p t) := by
  by_cases h : p t = true
  · rw [mark_of_pos h]; rfl
  · rw [mark_of_neg h]; rfl

@[simp] lemma mark_id : (mark p t).id = t.id := (copy_mark p t).id

@[simp] lemma mark_family : (mark p t).refreshFamilyId = t.refreshFamilyId := (copy_mark p t).family

@[simp] lemma mark_client : (mark p t).client = t.client := by rw [copy_mark p t]

@[simp] lemma mark_hash : (mark p t).refreshTokenHash = t.refreshTokenHash := by rw [copy_mark p t]

lemma mark_revoked : (mark p t).revoked = (t.revoked || p t) := by
  by_cases h : p t = true
  · rw [mark_of_pos h]; simp [h]
  · rw [mark_of_neg h]; simp [h]

end Mark

lemma TokenOk.mark {t : TokenRow} (h : TokenOk σ s t) (p : TokenRow → Bool) :
    TokenOk σ s (mark p t) := by
  obtain ⟨t₀, h0, hc⟩ := h.issued
  refine ⟨?_, ?_, ?_, t₀, h0, ?_⟩
  · rw [mark_id]; exact h.id_lt
  · rw [mark_hash]; exact h.hash
  · rw [mark_family]; exact h.family
  · unfold Copy at hc ⊢
    rw [copy_mark p t, hc]

lemma Inv.revoked (h : Inv σ s) (hg : Grows s s') (p : TokenRow → Bool)
    (hc : s'.store.codes = s.store.codes) (ht : s'.store.tokens = s.store.tokens.map (mark p))
    (hl : s'.log = s.log) : Inv σ s' := by
  have hmem : ∀ t ∈ s'.store.tokens, ∃ t₀ ∈ s.store.tokens, mark p t₀ = t := by
    intro t h'
    rw [ht] at h'
    exact List.mem_map.1 h'
  refine ⟨h.nextId_pos.trans_le hg.nextId, fun c hc' => ?_, fun t ht' => ?_, ?_, by rw [hc]; exact h.codeIds,
    by rw [hc]; exact h.codeHash, ?_, ?_, ?_, fun a ha b hb hab => ?_, fun c hc' hu t ht' hf => ?_⟩
  · rw [hc] at hc'
    exact (h.codes c hc').mono hg fun c h => by rw [hl]; exact h
  · obtain ⟨t₀, h0, rfl⟩ := hmem t ht'
    exact ((h.tokens t₀ h0).mark p).mono hg fun t h => by rw [hl]; exact h
  · exact h.log.same hg hl fun c hc' => ⟨c, by rw [hc] at hc'; exact hc', rfl, fun _ => rfl⟩
  · rw [ht, List.map_map, List.map_congr_left (g := fun t => t.id) fun t _ => mark_id]
    exact h.tokenIds
  · rw [ht]
    exact h.refreshHash.map fun a _ b _ hab => by simpa using hab
  · rw [ht]
    refine h.oneLive.map fun a _ b _ hab => ?_
    simp only [mark_family, mark_revoked, Bool.or_eq_false_iff] at hab
    exact ⟨hab.1, hab.2.1.1, hab.2.2.1⟩
  · obtain ⟨a₀, ha0, rfl⟩ := hmem a ha
    obtain ⟨b₀, hb0, rfl⟩ := hmem b hb
    rw [mark_family, mark_family] at hab
    rw [mark_client, mark_client]
    exact h.tokenClient a₀ ha0 b₀ hb0 hab
  · obtain ⟨t₀, h0, rfl⟩ := hmem t ht'
    rw [mark_family] at hf
    rw [mark_client]
    rw [hc] at hc'
    exact h.codeClient c hc' hu t₀ h0 hf

/-! ### Codes -/

/-- The record after a code has been issued. -/
lemma LogOk.authorized (h : LogOk s) (hg : Grows s s') {req : AuthorizeRequest} {client : ClientRow}
    {c : CodeRow} (hid : c.id = s.store.nextId) (hn : s'.store.nextId = s.store.nextId + 1)
    (hc : s'.store.codes = s.store.codes ++ [c]) (hl : s'.log = s.log ++ [.authorized req client c]) :
    LogOk s' := by
  have hlc : issuedCodes s'.log = issuedCodes s.log ++ [c] := by
    rw [hl, issuedCodes_append]; rfl
  have hlt : issuedTokens s'.log = issuedTokens s.log := by
    rw [hl, issuedTokens_append]; exact List.append_nil _
  have hne : ∀ c' ∈ issuedCodes s.log, c'.id ≠ c.id := fun c' hc' => by
    have := h.codeId_lt c' hc'
    omega
  refine ⟨?_, fun c' hc' => ?_, ?_, fun t ht => ?_, fun c' t he => ?_, fun c₁ t₁ c₂ t₂ h₁ h₂ => ?_,
    fun old new he => ?_, fun t ht => ?_⟩
  · rw [hlc]
    exact h.codeId.append (fun a ha he => hne a ha he) fun a ha he => hne a ha he.symm
  · rw [hlc] at hc'
    rcases List.mem_append.1 hc' with hc' | hc'
    · exact (h.codeId_lt c' hc').trans_le hg.nextId
    · rw [List.mem_singleton.1 hc']; omega
  · rw [hlt]; exact h.tokenId
  · rw [hlt] at ht
    exact (h.tokenId_lt t ht).trans_le hg.nextId
  · have he' : .exchanged c' t ∈ s.log := by simpa [hl] using he
    obtain ⟨h1, h2, h3⟩ := h.exchanged c' t he'
    refine ⟨by rw [hlc]; exact List.mem_append_left _ h1, h2, fun c'' hc'' hid' => ?_⟩
    rw [hc] at hc''
    rcases List.mem_append.1 hc'' with hc'' | hc''
    · exact h3 c'' hc'' hid'
    · -- the new code has been exchanged for nothing yet
      rw [List.mem_singleton.1 hc''] at hid'
      exact absurd hid'.symm (hne c' h1)
  · exact h.once c₁ t₁ c₂ t₂ (by simpa [hl] using h₁) (by simpa [hl] using h₂)
  · rw [hlt]
    exact h.refreshed old new (by simpa [hl] using he)
  · rw [hlt] at ht
    obtain ⟨k, hk⟩ := h.descends t ht
    exact ⟨k, hk.mono fun i hi => by rw [hl]; exact List.mem_append_left _ hi⟩

lemma Inv.authorized (hσ : Function.Injective σ.sha256Hex) (h : Inv σ s) (hg : Grows s s')
    {req : AuthorizeRequest} {client : ClientRow} {c : CodeRow} (hid : c.id = s.store.nextId)
    (hn : s'.store.nextId = s.store.nextId + 1)
    (hh : c.codeHash = σ.sha256Hex req.code) (hx : req.code ∉ s.minted) (hx' : req.code ∈ s'.minted)
    (hu : c.used = false) (hc : s'.store.codes = s.store.codes ++ [c])
    (ht : s'.store.tokens = s.store.tokens) (hl : s'.log = s.log ++ [.authorized req client c]) :
    Inv σ s' := by
  have hlc : issuedCodes s'.log = issuedCodes s.log ++ [c] := by
    rw [hl, issuedCodes_append]; rfl
  have hlt : issuedTokens s'.log = issuedTokens s.log := by
    rw [hl, issuedTokens_append]; exact List.append_nil _
  have hmem : ∀ c' ∈ s'.store.codes, c' ∈ s.store.codes ∨ c' = c := by
    intro c' hc'
    rw [hc] at hc'
    simpa using hc'
  have hcid : ∀ c' ∈ s.store.codes, c'.id ≠ c.id := fun c' hc' => by
    have := (h.codes c' hc').id_lt
    omega
  have hchash : ∀ c' ∈ s.store.codes, c'.codeHash ≠ c.codeHash := by
    intro c' hc' he
    obtain ⟨x, hxm, hxs⟩ := (h.codes c' hc').hash
    have : x = req.code := hσ (by rw [← hxs, he, hh])
    exact hx (this ▸ hxm)
  refine ⟨h.nextId_pos.trans_le hg.nextId, fun c' hc' => ?_, fun t ht' => ?_, h.log.authorized hg hid hn hc hl,
    by rw [hc]; exact nodup_key_append h.codeIds hcid, ?_, by rw [ht]; exact h.tokenIds,
    by rw [ht]; exact h.refreshHash, by rw [ht]; exact h.oneLive, by rw [ht]; exact h.tokenClient,
    fun c' hc' hu' t ht' => ?_⟩
  · rcases hmem c' hc' with hc' | rfl
    · exact (h.codes c' hc').mono hg fun c h => by rw [hlc]; exact List.mem_append_left _ h
    · refine ⟨by have := h.nextId_pos; omega, by omega, ⟨_, hx', hh⟩, fun h => absurd h (by simp [hu]), fun _ => ?_⟩
      rw [hlc]; simp
  · rw [ht] at ht'
    exact (h.tokens t ht').mono hg fun t h => by rw [hlt]; exact h
  · rw [hc]
    exact h.codeHash.append (fun a ha he => hchash a ha he) fun a ha he => hchash a ha he.symm
  · rw [ht] at ht'
    rcases hmem c' hc' with hc' | rfl
    · exact h.codeClient c' hc' hu' t ht'
    · rw [hu] at hu'
      cases hu'

lemma spendCode_ids (codes : List CodeRow) (c : CodeRow) (familyId : String) :
    (spendCode codes c familyId).map (·.id) = codes.map (·.id) := by
  unfold spendCode
  exact map_updateWhere _ (by intro r; rfl)

/-- Spending a code, before its first token is saved. -/
lemma Inv.spent (h : Inv σ s) (hg : Grows s s') {c : CodeRow} {uuid : String}
    (hcm : c ∈ s.store.codes) (hu : c.used = false) (h0 : uuid ≠ "")
    (hx : uuid ∉ s.minted) (hx' : uuid ∈ s'.minted)
    (hc : s'.store.codes = spendCode s.store.codes c uuid)
    (ht : s'.store.tokens = s.store.tokens) (hl : s'.log = s.log) : Inv σ s' := by
  have hmem : ∀ c' ∈ s'.store.codes, ∃ c₀ ∈ s.store.codes, c₀.id = c'.id ∧
      c₀.codeHash = c'.codeHash ∧ c₀.client = c'.client ∧
      (c' = c₀ ∨ c₀ = c ∧ c'.used = true ∧ c'.refreshFamilyId = uuid) := by
    intro c' h'
    rw [hc] at h'
    obtain ⟨c₀, h0, rfl⟩ := mem_updateWhere.1 h'
    refine ⟨c₀, h0, ?_⟩
    split_ifs with hid
    · exact ⟨rfl, rfl, rfl, Or.inr ⟨h.codeId c₀ h0 c hcm (by simpa using hid), rfl, rfl⟩⟩
    · exact ⟨rfl, rfl, rfl, Or.inl rfl⟩
  have hlc : ∀ c ∈ issuedCodes s.log, c ∈ issuedCodes s'.log := fun c h => by rw [hl]; exact h
  refine ⟨h.nextId_pos.trans_le hg.nextId, fun c' hc' => ?_, fun t ht' => ?_, ?_, ?_, ?_,
    by rw [ht]; exact h.tokenIds, by rw [ht]; exact h.refreshHash, by rw [ht]; exact h.oneLive,
    by rw [ht]; exact h.tokenClient, fun c' hc' hu' t ht' hf => ?_⟩
  · obtain ⟨c₀, h0', hid, hhash, hcl, he | ⟨-, hu', hf⟩⟩ := hmem c' hc'
    · rw [he]; exact (h.codes c₀ h0').mono hg hlc
    · have hm := (h.codes c₀ h0').mono hg hlc
      refine ⟨hid ▸ hm.id_pos, hid ▸ hm.id_lt, hhash ▸ hm.hash, fun _ => ?_, fun hn => ?_⟩
      · rw [hf]; exact ⟨h0, hx'⟩
      · rw [hu'] at hn; cases hn
  · rw [ht] at ht'
    exact (h.tokens t ht').mono hg fun t h => by rw [hl]; exact h
  · refine h.log.same hg hl fun c' hc' => ?_
    obtain ⟨c₀, h0', hid, -, -, he | ⟨rfl, -, -⟩⟩ := hmem c' hc'
    · exact ⟨c₀, h0', hid, fun _ => he⟩
    · exact ⟨c₀, h0', hid, fun hu' => by rw [hu] at hu'; cases hu'⟩
  · rw [hc, spendCode_ids]
    exact h.codeIds
  · rw [hc]
    refine h.codeHash.map fun a _ b _ hab => ?_
    split_ifs at hab <;> exact hab
  · rw [ht] at ht'
    obtain ⟨c₀, h0', -, -, hcl, he | ⟨-, -, hf'⟩⟩ := hmem c' hc'
    · rw [he] at hu' hf ⊢
      exact h.codeClient c₀ h0' hu' t ht' hf
    · exact absurd ((hf.trans hf') ▸ (h.tokens t ht').family.2) hx

/-! ### Tokens -/

/-- The record after a token has been issued. -/
lemma LogOk.issued (h : LogOk s) (hg : Grows s s') {i : Issue} (t : TokenRow)
    (hi : i.token? = some t)
    (hid : t.id = s.store.nextId) (hn : s'.store.nextId = s.store.nextId + 1)
    (hc : s'.store.codes = s.store.codes) (hl : s'.log = s.log ++ [i])
    (hex : ∀ c t', i = .exchanged c t' → c ∈ issuedCodes s.log ∧ t.scope = c.scope ∧
      (∀ c' ∈ s.store.codes, c'.id = c.id → c'.used = true ∧ c'.refreshFamilyId = t.refreshFamilyId) ∧
      ∀ c₀ t₀, .exchanged c₀ t₀ ∈ s.log → c₀.id ≠ c.id)
    (hre : ∀ old t', i = .refreshed old t' → (∃ t₀ ∈ issuedTokens s.log, Copy t₀ old) ∧
      t.refreshFamilyId = old.refreshFamilyId ∧ t.scope = old.scope) : LogOk s' := by
  have hlt : issuedTokens s'.log = issuedTokens s.log ++ [t] := by
    rw [hl, issuedTokens_append, issuedTokens, issuedTokens]
    simp [hi]
  have hlc : issuedCodes s'.log = issuedCodes s.log := by
    rw [hl, issuedCodes_append]
    rcases token_eq_some.1 hi with ⟨c, rfl⟩ | ⟨old, rfl⟩
    · exact List.append_nil _
    · exact List.append_nil _
  have hmem : ∀ j ∈ s'.log, j ∈ s.log ∨ j = i := by
    intro j hj
    rw [hl] at hj
    simpa using hj
  have hne : ∀ t' ∈ issuedTokens s.log, t'.id ≠ t.id := fun t' ht' => by
    have := h.tokenId_lt t' ht'
    omega
  refine ⟨by rw [hlc]; exact h.codeId, fun c hc => ?_, ?_, fun t' ht' => ?_, fun c t' he => ?_,
    fun c t₁ c' t₂ h₁ h₂ hcc => ?_, fun old new he => ?_, fun t' ht' => ?_⟩
  · rw [hlc] at hc
    exact (h.codeId_lt c hc).trans_le hg.nextId
  · rw [hlt]
    exact h.tokenId.append (fun a ha he => hne a ha he) fun a ha he => hne a ha he.symm
  · rw [hlt] at ht'
    rcases List.mem_append.1 ht' with ht' | ht'
    · exact (h.tokenId_lt t' ht').trans_le hg.nextId
    · rw [List.mem_singleton.1 ht']; omega
  · rw [hlc, hc]
    rcases hmem _ he with he | he
    · exact h.exchanged c t' he
    · obtain ⟨h1, h2, h3, -⟩ := hex c t' he.symm
      obtain rfl : t' = t := by
        rw [← he] at hi
        exact Option.some.inj hi
      exact ⟨h1, h2, h3⟩
  · rcases hmem _ h₁ with h₁ | h₁ <;> rcases hmem _ h₂ with h₂ | h₂
    · exact h.once c t₁ c' t₂ h₁ h₂ hcc
    · exact absurd hcc ((hex c' t₂ h₂.symm).2.2.2 c t₁ h₁)
    · exact absurd hcc.symm ((hex c t₁ h₁.symm).2.2.2 c' t₂ h₂)
    · have := h₁.trans h₂.symm
      simp only [Issue.exchanged.injEq] at this
      exact this.2
  · rcases hmem _ he with he | he
    · obtain ⟨⟨t₀, h0, hcp⟩, h2⟩ := h.refreshed old new he
      exact ⟨⟨t₀, by rw [hlt]; exact List.mem_append_left _ h0, hcp⟩, h2⟩
    · obtain ⟨⟨t₀, h0, hcp⟩, h2⟩ := hre old new he.symm
      obtain rfl : new = t := by
        rw [← he] at hi
        exact Option.some.inj hi
      exact ⟨⟨t₀, by rw [hlt]; exact List.mem_append_left _ h0, hcp⟩, h2⟩
  · have hmono : ∀ j ∈ s.log, j ∈ s'.log := fun j hj => by rw [hl]; exact List.mem_append_left _ hj
    have him : i ∈ s'.log := by rw [hl]; simp
    rw [hlt] at ht'
    rcases List.mem_append.1 ht' with ht' | ht'
    · obtain ⟨k, hk⟩ := h.descends t' ht'
      exact ⟨k, hk.mono hmono⟩
    · obtain rfl : t' = t := List.mem_singleton.1 ht'
      refine descends_issued hi him fun old he => ?_
      obtain ⟨⟨t₀, h0, hcp⟩, -⟩ := hre old t' he
      obtain ⟨k, hk⟩ := h.descends t₀ h0
      exact ⟨t₀, k, hk.mono hmono, hcp⟩

/-- No token has the hash of a string that has not been drawn. -/
lemma Inv.hash_fresh (hσ : Function.Injective σ.sha256Hex) (h : Inv σ s) {x : String}
    (hx : x ∉ s.minted) : ∀ a ∈ s.store.tokens, a.refreshTokenHash ≠ some (σ.sha256Hex x) := by
  intro a ha he
  obtain ⟨y, hy, hs⟩ := (h.tokens a ha).hash _ he
  exact hx (hσ hs ▸ hy)

/-- Saving a token of a family without an unrevoked one. -/
lemma Inv.saved (h : Inv σ s) (hg : Grows s s') (t : TokenRow)
    (hid : t.id = s.store.nextId) (hn : s'.store.nextId = s.store.nextId + 1)
    (hr : ∀ k, t.refreshTokenHash = some k → (∃ x ∈ s'.minted, k = σ.sha256Hex x) ∧
      ∀ a ∈ s.store.tokens, a.refreshTokenHash ≠ some k)
    (hf : t.refreshFamilyId ≠ "" ∧ t.refreshFamilyId ∈ s'.minted)
    (hlive : ∀ a ∈ s.store.tokens, a.refreshFamilyId = t.refreshFamilyId → a.revoked = true)
    (hcl : ∀ a ∈ s.store.tokens, a.refreshFamilyId = t.refreshFamilyId → a.client = t.client)
    (hcc : ∀ c ∈ s.store.codes, c.used = true → c.refreshFamilyId = t.refreshFamilyId →
      t.client = c.client)
    (hc : s'.store.codes = s.store.codes) (ht : s'.store.tokens = s.store.tokens ++ [t])
    (hl : LogOk s') (hlc : issuedCodes s'.log = issuedCodes s.log)
    (hlt : issuedTokens s'.log = issuedTokens s.log ++ [t]) : Inv σ s' := by
  have hmem : ∀ t' ∈ s'.store.tokens, t' ∈ s.store.tokens ∨ t' = t := by
    intro t' h'
    rw [ht] at h'
    simpa using h'
  have hne : ∀ a ∈ s.store.tokens, a.id ≠ t.id := fun a ha => by
    have := (h.tokens a ha).id_lt
    omega
  have hhash : ∀ a ∈ s.store.tokens, a.refreshTokenHash.isSome = true →
      a.refreshTokenHash ≠ t.refreshTokenHash := by
    intro a ha hs he
    obtain ⟨k, hk⟩ := Option.isSome_iff_exists.1 hs
    exact (hr k (he ▸ hk)).2 a ha hk
  refine ⟨h.nextId_pos.trans_le hg.nextId, fun c hc' => ?_, fun t' ht' => ?_, hl,
    by rw [hc]; exact h.codeIds, by rw [hc]; exact h.codeHash, ?_, ?_, ?_,
    fun a ha b hb hab => ?_, fun c hc' hu t' ht' hf' => ?_⟩
  · rw [hc] at hc'
    exact (h.codes c hc').mono hg fun c h => by rw [hlc]; exact h
  · rcases hmem t' ht' with ht' | rfl
    · exact (h.tokens t' ht').mono hg fun t h => by rw [hlt]; exact List.mem_append_left _ h
    · exact ⟨by omega, fun k hk => (hr k hk).1, hf, t', by rw [hlt]; simp, Copy.refl t'⟩
  · rw [ht]
    exact nodup_key_append h.tokenIds hne
  · rw [ht]
    refine h.refreshHash.append (fun a ha he => hhash a ha he.1 he.2) fun a ha he => ?_
    exact hhash a ha (by rw [← he.2]; exact he.1) he.2.symm
  · rw [ht]
    refine h.oneLive.append (fun a ha he => ?_) fun a ha he => ?_
    · rw [hlive a ha he.1] at he
      exact absurd he.2.1 (by simp)
    · rw [hlive a ha he.1.symm] at he
      exact absurd he.2.2 (by simp)
  · rcases hmem a ha with ha | rfl <;> rcases hmem b hb with hb | rfl
    · exact h.tokenClient a ha b hb hab
    · exact hcl a ha hab
    · exact (hcl b hb hab.symm).symm
    · rfl
  · rw [hc] at hc'
    rcases hmem t' ht' with ht' | rfl
    · exact h.codeClient c hc' hu t' ht' hf'
    · exact hcc c hc' hu hf'.symm

/-! ### Every step -/

lemma Inv.exchanged (hσ : Function.Injective σ.sha256Hex) (h : Inv σ s) (hg : Grows s s')
    {client : ClientRow} {req : TokenRequest} {audience : String} {c : CodeRow}
    (hcm : c ∈ s.store.codes) (hu : c.used = false) (hcl : c.client = client.id)
    (hx : ∀ x ∈ [req.accessToken, req.refreshToken, req.uuid], x ≠ "" ∧ x ∉ s.minted ∧ x ∈ s'.minted)
    (hn : s'.store.nextId = s.store.nextId + 1)
    (hc : s'.store.codes = spendCode s.store.codes c req.uuid)
    (ht : s'.store.tokens =
      s.store.tokens ++ [firstToken σ s.store s.now client c req audience])
    (hl : s'.log = s.log ++ [.exchanged c (firstToken σ s.store s.now client c req audience)]) :
    Inv σ s' := by
  obtain ⟨hu0, hum, hum'⟩ := hx req.uuid (by simp)
  obtain ⟨-, hrm, hrm'⟩ := hx req.refreshToken (by simp)
  -- the code is spent first, then the token is saved
  let s₁ : State := { s with
    store := { s.store with codes := spendCode s.store.codes c req.uuid }, minted := s'.minted }
  have hg₁ : Grows s s₁ := ⟨hg.minted, le_rfl⟩
  have hg₂ : Grows s₁ s' := ⟨fun _ h => h, hg.nextId⟩
  have h₁ : Inv σ s₁ := h.spent hg₁ hcm hu hu0 hum hum' rfl rfl rfl
  have hfam : ∀ a ∈ s.store.tokens, a.refreshFamilyId ≠ req.uuid := fun a ha he =>
    hum (he ▸ (h.tokens a ha).family.2)
  have hused : ∀ c' ∈ s₁.store.codes, c'.id = c.id → c'.used = true ∧ c'.refreshFamilyId = req.uuid := by
    intro c' hc' hid
    obtain ⟨c₀, h0, rfl⟩ := mem_updateWhere.1 hc'
    by_cases hp : c₀.id = c.id
    · simp [hp]
    · simp [hp] at hid
  have honce : ∀ c₀ t₀, .exchanged c₀ t₀ ∈ s.log → c₀.id ≠ c.id := by
    intro c₀ t₀ he hid
    have := ((h.log.exchanged c₀ t₀ he).2.2 c hcm hid.symm).1
    rw [hu] at this
    cases this
  have hlog : LogOk s' := by
    refine h₁.log.issued hg₂ (firstToken σ s.store s.now client c req audience) rfl rfl hn hc hl
      (fun c' t' he => ?_) fun old t' he => by cases he
    obtain ⟨rfl, -⟩ := Issue.exchanged.inj he
    exact ⟨(h.codes _ hcm).unused hu, rfl, hused, honce⟩
  refine h₁.saved hg₂ _ rfl hn (fun k hk => ?_) ⟨hu0, hum'⟩ (fun a ha he => absurd he (hfam a ha))
    (fun a ha he => absurd he (hfam a ha)) (fun c' hc' hu' hf => ?_) hc ht hlog ?_ ?_
  · obtain ⟨x, hx', rfl⟩ := Option.map_eq_some_iff.1 hk
    obtain rfl : x = req.refreshToken := by
      simp only [generateToken] at hx'
      split_ifs at hx'
      · exact (Option.some.inj (Option.filter_eq_some_iff.1 hx').1).symm
      · cases hx'
    exact ⟨⟨_, hrm', rfl⟩, h.hash_fresh hσ hrm⟩
  · obtain ⟨c₀, h0, rfl⟩ := mem_updateWhere.1 hc'
    by_cases hp : c₀.id = c.id
    · rw [if_pos (by simpa using hp), h.codeId c₀ h0 c hcm hp]
      exact hcl.symm
    · rw [if_neg (by simpa using hp)] at hf hu'
      have hfam' : c₀.refreshFamilyId = req.uuid := hf
      exact absurd (hfam' ▸ ((h.codes c₀ h0).family hu').2) hum
  · rw [hl, issuedCodes_append]; exact List.append_nil _
  · rw [hl, issuedTokens_append]; rfl

lemma rotate_eq {tokens : List TokenRow} {old new : TokenRow} (h : new.id ≠ old.id) :
    rotate tokens old new = tokens.map (mark (·.id = old.id)) ++ [new] := by
  unfold rotate updateWhere
  rw [List.map_append, List.map_singleton, if_neg (by simpa using h)]
  rfl

lemma Inv.refreshed (hσ : Function.Injective σ.sha256Hex) (h : Inv σ s) (hg : Grows s s')
    {client : ClientRow} {req : TokenRequest} {old : TokenRow}
    (hom : old ∈ s.store.tokens) (hr : old.revoked = false) (hcl : old.client = client.id)
    (hx : ∀ x ∈ [req.accessToken, req.refreshToken], x ≠ "" ∧ x ∉ s.minted ∧ x ∈ s'.minted)
    (hn : s'.store.nextId = s.store.nextId + 1) (hc : s'.store.codes = s.store.codes)
    (ht : s'.store.tokens = rotate s.store.tokens old (successor σ s.store s.now client old req))
    (hl : s'.log = s.log ++ [.refreshed old (successor σ s.store s.now client old req)]) :
    Inv σ s' := by
  obtain ⟨-, hrm, hrm'⟩ := hx req.refreshToken (by simp)
  have hold := h.tokens old hom
  -- the old token is revoked first, then its successor is saved
  let s₁ : State := { s with
    store := { s.store with tokens := s.store.tokens.map (mark (·.id = old.id)) }
    minted := s'.minted }
  have hg₁ : Grows s s₁ := ⟨hg.minted, le_rfl⟩
  have hg₂ : Grows s₁ s' := ⟨fun _ h => h, hg.nextId⟩
  have h₁ : Inv σ s₁ := h.revoked hg₁ (·.id = old.id) rfl rfl rfl
  have hne : (successor σ s.store s.now client old req).id ≠ old.id :=
    (Nat.ne_of_gt hold.id_lt)
  rw [rotate_eq hne] at ht
  have hlog : LogOk s' := by
    refine h₁.log.issued hg₂ (successor σ s.store s.now client old req) rfl rfl hn hc hl
      (fun c t' he => by cases he) fun old' t' he => ?_
    obtain ⟨rfl, -⟩ := Issue.refreshed.inj he
    exact ⟨hold.issued, rfl, rfl⟩
  refine h₁.saved hg₂ (successor σ s.store s.now client old req) rfl hn (fun k hk => ?_)
    ⟨hold.family.1, hg.minted _ hold.family.2⟩
    (fun a ha he => ?_) (fun a ha he => ?_) (fun c hc' hu hf => ?_) hc ht hlog ?_ ?_
  · obtain ⟨x, hx', rfl⟩ := Option.map_eq_some_iff.1 hk
    obtain ⟨rfl, -⟩ : req.refreshToken = x ∧ _ := by simpa using hx'
    refine ⟨⟨_, hrm', rfl⟩, fun a ha => ?_⟩
    obtain ⟨a₀, h0, rfl⟩ := List.mem_map.1 ha
    rw [mark_hash]
    exact h.hash_fresh hσ hrm a₀ h0
  · obtain ⟨a₀, h0, rfl⟩ := List.mem_map.1 ha
    rw [mark_family] at he
    rw [mark_revoked]
    by_cases hra : a₀.revoked = true
    · rw [hra]; rfl
    · have : a₀ = old := h.oneLive a₀ h0 old hom ⟨he, by simpa using hra, hr⟩
      simp [this]
  · obtain ⟨a₀, h0, rfl⟩ := List.mem_map.1 ha
    rw [mark_family] at he
    rw [mark_client]
    exact (h.tokenClient a₀ h0 old hom he).trans hcl
  · exact (hcl.symm.trans (h.codeClient c hc' hu old hom hf.symm))
  · rw [hl, issuedCodes_append]; exact List.append_nil _
  · rw [hl, issuedTokens_append]; rfl

lemma inv_step (hσ : Function.Injective σ.sha256Hex) (h : Inv σ s) {a : Action} (hf : Fresh s a) :
    Inv σ (step σ s a) := by
  have hg := step_grows (σ := σ) s a
  cases step_change (σ := σ) hf with
  | quiet hc ht hl => exact h.deleted hg (by rw [hc]) (by rw [ht]) hl
  | authorized req client c _ hid hn hh hx hx' hu _ hc ht hl =>
    exact h.authorized hσ hg hid hn hh hx hx' hu hc ht hl
  | revoked p hc ht hl => exact h.revoked hg p hc ht hl
  | exchanged client req audience c hcm hu hcl hx hn hc ht hl =>
    exact h.exchanged hσ hg hcm hu hcl hx hn hc ht hl
  | refreshed client req old hom hr hcl hx hn hc ht hl =>
    exact h.refreshed hσ hg hom hr hcl hx hn hc ht hl
  | deleted hc ht hl => exact h.deleted hg hc ht hl

lemma inv_init (h : IsInit s) : Inv σ s := by
  obtain ⟨hc, ht, -, hl, hn, -, -⟩ := h
  have hlog : LogOk s := by
    refine ⟨?_, ?_, ?_, ?_, ?_, ?_, ?_, ?_⟩ <;> simp [hl, issuedCodes, issuedTokens, Apart]
  refine ⟨hn, ?_, ?_, hlog, ?_, ?_, ?_, ?_, ?_, ?_, ?_⟩ <;> simp [hc, ht, Apart]

/-! ### Every reachable state -/

/-- **The invariant holds in every reachable state.** -/
theorem reachable_inv (hσ : Function.Injective σ.sha256Hex) (h : (machine σ).Reachable s) :
    Inv σ s := by
  refine Sys.Reachable.inv (fun s hs => inv_init (show IsInit s from hs)) ?_ h
  rintro s a s' _ hi ⟨hf, rfl⟩
  exact inv_step hσ hi hf

end AdvMcp.OAuth
