import AdvMcp.OAuth.Family
import AdvMcp.OAuth.Usable

/-!
# The lineage of a token

What a token row keeps of the code it descends from, and how long it is kept.

* `Lineage` — an access token's hash is of one drawn string and of no other row; a token's audience
  and user are those of the code's first token;
* `Owned` — every code and every token belongs to a stored client, also after a collection;
* `row_kept` — while it is unexpired and unrevoked, the row of a token stays as it is.
-/

namespace AdvMcp.OAuth

open AdvMcp.Lib

variable {σ : Site} {s s' : State}

/-! ### The invariant -/

structure Lineage (σ : Site) (s : State) : Prop where
  hash : ∀ t ∈ s.store.tokens, ∃ x ∈ s.minted, t.accessTokenHash = σ.sha256Hex x
  accessHash : Apart (fun a b => a.accessTokenHash = b.accessTokenHash) s.store.tokens
  /-- A rotation copies audience and user. -/
  refreshed : ∀ old new, .refreshed old new ∈ s.log →
    new.audience = old.audience ∧ new.userId = old.userId
  exchanged : ∀ c t, .exchanged c t ∈ s.log → t.userId = c.userId

@[simp] lemma mark_accessHash {p : TokenRow → Bool} {t : TokenRow} :
    (mark p t).accessTokenHash = t.accessTokenHash := by rw [copy_mark p t]

/-- Some of the rows, revoked or not, under the same record. -/
lemma Lineage.kept (h : Lineage σ s) (hg : Grows s s') (p : TokenRow → Bool)
    (ht : ∀ t ∈ s'.store.tokens, ∃ t₀ ∈ s.store.tokens, mark p t₀ = t) (hl : s'.log = s.log) :
    Lineage σ s' := by
  refine ⟨fun t hm => ?_, fun a ha b hb hab => ?_, by rw [hl]; exact h.refreshed,
    by rw [hl]; exact h.exchanged⟩
  · obtain ⟨t₀, h0, rfl⟩ := ht t hm
    obtain ⟨x, hx, he⟩ := h.hash t₀ h0
    exact ⟨x, hg.minted x hx, by rw [mark_accessHash, he]⟩
  · obtain ⟨a₀, ha0, rfl⟩ := ht a ha
    obtain ⟨b₀, hb0, rfl⟩ := ht b hb
    rw [mark_accessHash, mark_accessHash] at hab
    rw [h.accessHash a₀ ha0 b₀ hb0 hab]

/-- A new row under the hash of a new string. -/
lemma Lineage.saved (hσ : Function.Injective σ.sha256Hex) (h : Lineage σ s) (hg : Grows s s')
    {p : TokenRow → Bool} {t : TokenRow} {x : String} (hx : x ∉ s.minted) (hx' : x ∈ s'.minted)
    (hh : t.accessTokenHash = σ.sha256Hex x)
    (ht : s'.store.tokens = s.store.tokens.map (mark p) ++ [t])
    (hre : ∀ old new, .refreshed old new ∈ s'.log →
      new.audience = old.audience ∧ new.userId = old.userId)
    (hex : ∀ c t, .exchanged c t ∈ s'.log → t.userId = c.userId) : Lineage σ s' := by
  have hne : ∀ a ∈ s.store.tokens.map (mark p), a.accessTokenHash ≠ t.accessTokenHash := by
    intro a ha he
    obtain ⟨a₀, ha0, rfl⟩ := List.mem_map.1 ha
    obtain ⟨y, hy, hys⟩ := h.hash a₀ ha0
    rw [mark_accessHash, hys, hh] at he
    exact hx (hσ he ▸ hy)
  refine ⟨fun a ha => ?_, ?_, hre, hex⟩
  · rw [ht] at ha
    rcases List.mem_append.1 ha with ha | ha
    · obtain ⟨a₀, ha0, rfl⟩ := List.mem_map.1 ha
      obtain ⟨y, hy, hys⟩ := h.hash a₀ ha0
      exact ⟨y, hg.minted y hy, by rw [mark_accessHash, hys]⟩
    · rw [List.mem_singleton.1 ha]
      exact ⟨x, hx', hh⟩
  · rw [ht]
    refine Apart.append ?_ (fun a ha he => hne a ha he) fun a ha he => hne a ha he.symm
    refine h.accessHash.map fun a _ b _ hab => ?_
    rwa [mark_accessHash, mark_accessHash] at hab

lemma map_mark_none (l : List TokenRow) : l.map (mark fun _ => false) = l := by
  conv_rhs => rw [← List.map_id l]
  exact List.map_congr_left fun t _ => mark_of_neg (by simp)

lemma lineage_step (hσ : Function.Injective σ.sha256Hex) (hi : Inv σ s) (h : Lineage σ s)
    {a : Action} (hf : Fresh s a) : Lineage σ (step σ s a) := by
  have hg := step_grows (σ := σ) s a
  have hsame : (step σ s a).store.tokens = s.store.tokens →
      ∀ t ∈ (step σ s a).store.tokens, ∃ t₀ ∈ s.store.tokens, mark (fun _ => false) t₀ = t := by
    intro he t ht
    exact ⟨t, he ▸ ht, mark_of_neg (by simp)⟩
  cases step_change (σ := σ) hf with
  | quiet _ ht hl => exact h.kept hg _ (hsame ht) hl
  | authorized req client c _ _ _ _ _ _ _ _ _ ht hl =>
    refine ⟨fun t hm => ?_, ht ▸ h.accessHash, fun old new hm => ?_, fun c' t hm => ?_⟩
    · obtain ⟨x, hx, he⟩ := h.hash t (ht ▸ hm)
      exact ⟨x, hg.minted x hx, he⟩
    · exact h.refreshed old new (by simpa [hl] using hm)
    · exact h.exchanged c' t (by simpa [hl] using hm)
  | revoked p _ ht hl =>
    refine h.kept hg p (fun t hm => ?_) hl
    rw [ht, revoke_tokens] at hm
    exact List.mem_map.1 hm
  | exchanged client req audience c _ _ _ hx _ _ ht hl =>
    obtain ⟨-, hxm, hxm'⟩ := hx req.accessToken (by simp)
    refine h.saved hσ hg hxm hxm' rfl (p := fun _ => false) (by rw [map_mark_none]; exact ht)
      (fun old new hm => h.refreshed old new (by simpa [hl] using hm)) fun c' t hm => ?_
    rw [hl] at hm
    rcases List.mem_append.1 hm with hm | hm
    · exact h.exchanged c' t hm
    · obtain ⟨rfl, rfl⟩ := Issue.exchanged.inj (List.mem_singleton.1 hm)
      rfl
  | refreshed client req old hom _ _ hx _ _ ht hl =>
    obtain ⟨-, hxm, hxm'⟩ := hx req.accessToken (by simp)
    have hne : (successor σ s.store s.now client old req).id ≠ old.id :=
      Nat.ne_of_gt (hi.tokens old hom).id_lt
    rw [rotate_eq hne] at ht
    refine h.saved hσ hg hxm hxm' rfl ht (fun old' new hm => ?_)
      fun c' t hm => h.exchanged c' t (by simpa [hl] using hm)
    rw [hl] at hm
    rcases List.mem_append.1 hm with hm | hm
    · exact h.refreshed old' new hm
    · obtain ⟨rfl, rfl⟩ := Issue.refreshed.inj (List.mem_singleton.1 hm)
      exact ⟨rfl, rfl⟩
  | deleted _ ht hl =>
    exact h.kept hg (fun _ => false) (fun t hm => ⟨t, ht.subset hm, mark_of_neg (by simp)⟩) hl

theorem reachable_lineage (hσ : Function.Injective σ.sha256Hex) (hr : (machine σ).Reachable s) :
    Lineage σ s := by
  refine hr.inv (I := Lineage σ) (fun s h0 => ?_) fun s a s' hr h hs => ?_
  · obtain ⟨-, ht, -, hl, -⟩ := show IsInit s from h0
    refine ⟨?_, ?_, ?_, ?_⟩ <;> simp [ht, hl, Apart]
  · rw [hs.2]
    exact lineage_step hσ (reachable_inv hσ hr) h hs.1

/-- **A token has the audience of the first token** of the code it descends from, and its user. -/
theorem descends_origin (hl : LogOk s) (h : Lineage σ s) {k : ℕ} {t : TokenRow}
    (hd : Descends s.log k t) : ∃ c t₁, .exchanged c t₁ ∈ s.log ∧ c.id = k ∧
      t.audience = t₁.audience ∧ t.userId = c.userId := by
  induction hd with
  | @exchanged c t hm hid => exact ⟨c, t, hm, hid, rfl, h.exchanged c t hm⟩
  | @refreshed t old new hdt hm hid ih =>
    obtain ⟨c, t₁, hct, hck, ha, hu⟩ := ih
    obtain ⟨⟨t₀, h0, hcp⟩, -⟩ := hl.refreshed old new hm
    have ht : t₀ = t := hl.tokenId t₀ h0 t (descends_spec hl hdt).1 (hcp.id.symm.trans hid)
    obtain ⟨ha', hu'⟩ := h.refreshed old new hm
    refine ⟨c, t₁, hct, hck, ?_, ?_⟩
    · rw [ha', hcp, ht, ← ha]
    · rw [hu', hcp, ht, ← hu]

/-- The record is only added to. -/
lemma step_log {a : Action} (hf : Fresh s a) : ∀ i ∈ s.log, i ∈ (step σ s a).log := by
  intro i hi
  cases step_change (σ := σ) hf with
  | quiet _ _ hl => rwa [hl]
  | authorized _ _ _ _ _ _ _ _ _ _ _ _ _ hl => exact hl ▸ List.mem_append_left _ hi
  | revoked _ _ _ hl => rwa [hl]
  | exchanged _ _ _ _ _ _ _ _ _ _ _ hl => exact hl ▸ List.mem_append_left _ hi
  | refreshed _ _ _ _ _ _ _ _ _ _ hl => exact hl ▸ List.mem_append_left _ hi
  | deleted _ _ hl => rwa [hl]

lemma run_log {as : List Action} (hrun : (machine σ).Run s as s') (hr : (machine σ).Reachable s)
    {i : Issue} (hi : i ∈ s.log) : i ∈ s'.log := by
  refine hrun.stable (I := fun s => i ∈ s.log) ?_ hr hi
  rintro s a s' - h ⟨hf, rfl⟩
  exact step_log hf i h

/-! ### Owners -/

/-- Every code and every token belongs to a stored client. -/
structure Owned (st : Store) : Prop where
  codes : ∀ c ∈ st.codes, ∃ cl ∈ st.clients, cl.id = c.client
  tokens : ∀ t ∈ st.tokens, ∃ cl ∈ st.clients, cl.id = t.client

lemma Owned.of_clients {st st' : Store} (h : Owned st)
    (hcl : ∀ cl ∈ st.clients, ∃ cl' ∈ st'.clients, cl'.id = cl.id)
    (hc : ∀ c ∈ st'.codes, (∃ c₀ ∈ st.codes, c₀.client = c.client) ∨
      ∃ cl ∈ st.clients, cl.id = c.client)
    (ht : ∀ t ∈ st'.tokens, (∃ t₀ ∈ st.tokens, t₀.client = t.client) ∨
      ∃ c ∈ st.codes, c.client = t.client) : Owned st' := by
  have hkeep : ∀ k, (∃ cl ∈ st.clients, cl.id = k) → ∃ cl ∈ st'.clients, cl.id = k := by
    rintro k ⟨cl, hm, rfl⟩
    exact hcl cl hm
  refine ⟨fun c hm => hkeep _ ?_, fun t hm => hkeep _ ?_⟩
  · rcases hc c hm with ⟨c₀, h0, he⟩ | hcl'
    · rw [← he]
      exact h.codes c₀ h0
    · exact hcl'
  · rcases ht t hm with ⟨t₀, h0, he⟩ | ⟨c, h0, he⟩
    · rw [← he]
      exact h.tokens t₀ h0
    · rw [← he]
      exact h.codes c h0

/-- A collection deletes the codes and the tokens of the clients it deletes. -/
lemma owned_gc {st : Store} {now : Time} (hk : Keyed st) (h : Owned st) :
    Owned (gcOauth st now).1 := by
  rw [gcOauth_eq hk]
  have hkeep : ∀ k ∉ staleIds st now ((liveTokens st now).map (·.client)),
      (∃ cl ∈ st.clients, cl.id = k) → ∃ cl ∈ st.clients.filter (keepsClient st now), cl.id = k := by
    rintro k hs ⟨cl, hcl, rfl⟩
    refine ⟨cl, List.mem_filter.2 ⟨hcl, ?_⟩, rfl⟩
    by_contra hst
    exact hs (mem_staleIds.2 ⟨cl, hcl, by simpa [keepsClient] using hst, rfl⟩)
  refine ⟨fun c hc => ?_, fun t ht => ?_⟩
  · obtain ⟨hc, hkc⟩ := List.mem_filter.1 hc
    unfold keepsCode at hkc
    rw [Bool.and_eq_true] at hkc
    exact hkeep _ (of_decide_eq_true hkc.1) (h.codes c hc)
  · obtain ⟨ht, hkt⟩ := List.mem_filter.1 ht
    unfold keepsToken at hkt
    rw [Bool.and_eq_true] at hkt
    exact hkeep _ (of_decide_eq_true hkt.1) (h.tokens t ht)

/-- The code of a request belongs to the client that the request named. -/
lemma authorize_client {st st' : Store} {now : Time} {req : AuthorizeRequest} {client : ClientRow}
    {c : CodeRow} (h : authorize σ st now req = .ok (st', client, c)) :
    client ∈ st.clients ∧ c.client = client.id := by
  obtain ⟨uri, granted, hcg, -, he⟩ := authorize_spec h
  refine ⟨?_, by rw [show c = _ from (Prod.mk.inj he).2]⟩
  unfold getConsentGrant at hcg
  cases hq : queryClient st (req.http.field "client_id") with
  | none => simp [hq] at hcg
  | some cl =>
    rw [hq] at hcg
    simp only at hcg
    split at hcg
    · cases hcg
    · split_ifs at hcg
      obtain ⟨rfl, -⟩ := Prod.mk.inj (Except.ok.inj hcg)
      exact List.mem_of_find?_eq_some hq

/-- What a step brings in belongs to a client or to a code that was there. -/
lemma step_owners {a : Action} (hf : Fresh s a) :
    (∀ c ∈ (step σ s a).store.codes, (∃ c₀ ∈ s.store.codes, c₀.client = c.client) ∨
      ∃ cl ∈ s.store.clients, cl.id = c.client) ∧
    ∀ t ∈ (step σ s a).store.tokens, (∃ t₀ ∈ s.store.tokens, t₀.client = t.client) ∨
      ∃ c ∈ s.store.codes, c.client = t.client := by
  cases step_change (σ := σ) hf with
  | quiet hc ht _ =>
    rw [hc, ht]
    exact ⟨fun c h => Or.inl ⟨c, h, rfl⟩, fun t h => Or.inl ⟨t, h, rfl⟩⟩
  | authorized req client c hauth _ _ _ _ _ _ _ hc ht _ =>
    rw [hc, ht]
    refine ⟨fun c' h => ?_, fun t h => Or.inl ⟨t, h, rfl⟩⟩
    rcases List.mem_append.1 h with h | h
    · exact Or.inl ⟨c', h, rfl⟩
    · obtain ⟨hm, hid⟩ := authorize_client hauth
      rw [List.mem_singleton.1 h]
      exact Or.inr ⟨client, hm, hid.symm⟩
  | revoked p hc ht _ =>
    rw [hc, ht, revoke_tokens]
    refine ⟨fun c h => Or.inl ⟨c, h, rfl⟩, fun t h => ?_⟩
    obtain ⟨t₀, h0, rfl⟩ := List.mem_map.1 h
    exact Or.inl ⟨t₀, h0, mark_client.symm⟩
  | exchanged client req audience c hcm _ hcl _ _ hc ht _ =>
    rw [hc, ht]
    refine ⟨fun c' h => ?_, fun t h => ?_⟩
    · obtain ⟨c₀, h0, rfl⟩ := mem_updateWhere.1 h
      refine Or.inl ⟨c₀, h0, ?_⟩
      split_ifs <;> rfl
    · rcases List.mem_append.1 h with h | h
      · exact Or.inl ⟨t, h, rfl⟩
      · rw [List.mem_singleton.1 h]
        exact Or.inr ⟨c, hcm, hcl⟩
  | refreshed client req old hom _ hcl _ _ hc ht _ =>
    rw [hc, ht]
    refine ⟨fun c h => Or.inl ⟨c, h, rfl⟩, fun t h => ?_⟩
    obtain ⟨t₀, h0, rfl⟩ := mem_updateWhere.1 h
    have hsame : (if decide (t₀.id = old.id) = true then { t₀ with revoked := true } else t₀).client =
        t₀.client := by split_ifs <;> rfl
    rw [hsame]
    rcases List.mem_append.1 h0 with h0 | h0
    · exact Or.inl ⟨t₀, h0, rfl⟩
    · rw [List.mem_singleton.1 h0]
      exact Or.inl ⟨old, hom, hcl⟩
  | deleted hc ht _ =>
    exact ⟨fun c h => Or.inl ⟨c, hc.subset h, rfl⟩, fun t h => Or.inl ⟨t, ht.subset h, rfl⟩⟩

/-- **Every code and every token belongs to a stored client.** -/
theorem reachable_owned (hσ : Function.Injective σ.sha256Hex) (hr : (machine σ).Reachable s) :
    Owned s.store := by
  refine hr.inv (I := fun s => Owned s.store) (fun s h0 => ?_) fun s a s' hr h hs => ?_
  · obtain ⟨hc, ht, -⟩ := show IsInit s from h0
    refine ⟨?_, ?_⟩ <;> simp [hc, ht]
  · rw [hs.2]
    obtain ⟨hc, ht⟩ := step_owners (σ := σ) hs.1
    cases step_clients (σ := σ) s a with
    | same hcl => exact h.of_clients (fun cl hm => ⟨cl, hcl ▸ hm, rfl⟩) hc ht
    | added c _ _ hcl _ _ =>
      exact h.of_clients (fun cl hm => ⟨cl, hcl ▸ List.mem_append_left _ hm, rfl⟩) hc ht
    | switched ids b hst =>
      refine h.of_clients (fun cl hm => ?_) hc ht
      refine ⟨if decide (cl.id ∈ ids) = true then { cl with active := b } else cl, ?_, ?_⟩
      · rw [hst]
        exact mem_updateWhere.2 ⟨cl, hm, rfl⟩
      · split_ifs <;> rfl
    | collected hst =>
      rw [hst]
      exact owned_gc (reachable_keyed hσ hr) h

/-! ### How long a row is kept -/

/-- The row with the id `k` is not revoked. -/
def Unrevoked (k : ℕ) (s : State) : Prop := ∀ t ∈ s.store.tokens, t.id = k → t.revoked = false

lemma step_now (s : State) (a : Action) : s.now ≤ (step σ s a).now := by
  cases a with
  | tick seconds => exact Int.le_add_of_nonneg_right (Int.natCast_nonneg _)
  | register clientId data =>
    simp only [step, stepRegister]
    split <;> exact Int.le_refl _
  | authorize req =>
    simp only [step, stepAuthorize]
    split <;> exact Int.le_refl _
  | actionRevoke isAdmin ids => cases isAdmin <;> exact Int.le_refl _
  | actionDeactivate isAdmin ids => cases isAdmin <;> exact Int.le_refl _
  | actionActivate isAdmin ids => cases isAdmin <;> exact Int.le_refl _
  | codeGrant _ _ _ => exact Int.le_refl _
  | refreshGrant _ _ _ => exact Int.le_refl _
  | gcOauth => exact Int.le_refl _

/-- A step keeps the row of a live token, revoked or not. -/
lemma step_keeps (hk : Keyed s.store) {t : TokenRow} (ht : t ∈ s.store.tokens)
    (hl : isLive s.now t = true) (a : Action) :
    ∃ p, mark p t ∈ (step σ s a).store.tokens := by
  have hsame : ∀ {l : List TokenRow}, t ∈ l → ∃ p, mark p t ∈ l :=
    fun hm => ⟨fun _ => false, by rw [mark_of_neg (by simp)]; exact hm⟩
  have hmark : ∀ {st : Store}, Revokes s.store st → ∃ p, mark p t ∈ st.tokens := by
    rintro st ⟨p, rfl⟩
    exact ⟨p, List.mem_map_of_mem ht⟩
  cases a with
  | register clientId data =>
    simp only [step, stepRegister]
    split
    · rename_i st r hr
      exact hsame ((saveClient_spec hr).2.1 ▸ ht)
    · exact hsame ht
  | authorize req =>
    simp only [step, stepAuthorize]
    split
    · rename_i st client c hr
      obtain ⟨_, _, -, -, he⟩ := authorize_spec hr
      rw [(Prod.mk.inj he).1]
      exact hsame ht
    · exact hsame ht
  | codeGrant client code req =>
    rcases pkceCodeGrant_cases σ s.store s.now client code req with
      ⟨-, e, hp⟩ | ⟨c, e, -, hp⟩ | ⟨c, audience, -, hp⟩ <;> simp only [step, stepCode, hp]
    · exact hmark (detectReuse_revokes σ s.store code)
    · exact hsame ht
    · exact hsame (List.mem_append_left _ ht)
  | refreshGrant client token req =>
    rcases rotatingRefreshGrant_cases σ s.store s.now client token req with
      ⟨-, e, hp⟩ | ⟨old, e, -, hp⟩ | ⟨old, -, -, hp⟩ <;> simp only [step, stepRefresh, hp]
    · exact hmark (detectRefreshReuse_revokes σ s.store token)
    · exact hsame ht
    · exact ⟨(·.id = old.id), mem_updateWhere.2 ⟨t, List.mem_append_left _ ht, rfl⟩⟩
  | actionRevoke isAdmin ids =>
    cases isAdmin with
    | true => exact hmark ⟨(·.id ∈ ids), rfl⟩
    | false => exact hsame ht
  | gcOauth =>
    simp only [step]
    rw [gcOauth_eq hk]
    exact hsame (List.mem_filter.2 ⟨ht, live_kept ht hl⟩)
  | actionDeactivate isAdmin ids => cases isAdmin <;> exact hsame ht
  | actionActivate isAdmin ids => cases isAdmin <;> exact hsame ht
  | tick seconds => exact hsame ht

/-- **A row stays as it is** until it expires, along every run in whose states it is not revoked. -/
theorem row_kept (hσ : Function.Injective σ.sha256Hex) {t : TokenRow} {as : List Action}
    (hrun : (machine σ).RunIn (Unrevoked t.id) s as s') (hr : (machine σ).Reachable s)
    (ht : t ∈ s.store.tokens) (hexp : s'.now < t.accessExpiresAt) : t ∈ s'.store.tokens := by
  have hstep : ∀ s a s', (machine σ).Reachable s → Unrevoked t.id s →
      (s.now < t.accessExpiresAt → t ∈ s.store.tokens) → (machine σ).step s a s' →
      Unrevoked t.id s' → s'.now < t.accessExpiresAt → t ∈ s'.store.tokens := by
    rintro s a s' hr hu hI ⟨-, rfl⟩ hu' he
    have hnow : s.now < t.accessExpiresAt := Int.lt_of_le_of_lt (step_now s a) he
    have hm := hI hnow
    have hrev : t.revoked = false := hu t hm rfl
    obtain ⟨p, hp⟩ := step_keeps (reachable_keyed hσ hr) hm (by simp [isLive, hrev, hnow]) a
    have hp' : (mark p t).revoked = false := hu' _ hp mark_id
    rw [mark_revoked, hrev, Bool.false_or] at hp'
    rwa [mark_of_neg (by simp [hp'])] at hp
  exact hrun.stable (I := fun s => s.now < t.accessExpiresAt → t ∈ s.store.tokens) hstep hr
    (fun _ => ht) hexp

end AdvMcp.OAuth
