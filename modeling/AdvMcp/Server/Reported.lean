import Mathlib.Data.Set.Basic
import AdvMcp.OAuth.ScopeAlgebra
import AdvMcp.Server.Issued

/-!
# The scope that a client is told

authlib's bearer generator reports `get_allowed_scope` of the scope of the credential, or of the scope that a
refresh asks for; `_save_token` stores the scope of the credential.

* `permissions` — what a scope string stands for, as a set; `permissions_subset` reduces containment to words;
* `tokenReply` — the token endpoint, with the token that it returns;
* `Enforced`, `reachable_enforced` — every code and every token has one of two scopes, and the one that writes
  only under a client that may write;
* `allowed_within`, `reported_same` — when what is reported lies within what was asked, and when it is what is
  enforced.
-/

namespace AdvMcp.Server

open AdvMcp.Lib AdvMcp.OAuth AdvMcp.Py

/-! ### Permissions -/

/-- What a scope string stands for. -/
def permissions (scope : String) : Set String := {w | w ∈ expandScopes scope}

lemma permissions_eq_closureOf (scope : String) :
    permissions scope = closureOf Brings {w | w ∈ scopeSet scope} := expandScopes_eq_closureOf scope

lemma mem_permissions {scope w : String} : w ∈ permissions scope ↔
    w ∈ scopeSet scope ∨ w = "adv:read" ∧ ("adv" ∈ scopeSet scope ∨ "adv:write" ∈ scopeSet scope) ∨
      w = "adv:write" ∧ "adv" ∈ scopeSet scope := by
  rw [permissions, Set.mem_ofPred_eq]
  exact mem_expandScopes

/-- A scope lies within another when its words do. -/
lemma permissions_subset {a b : String} (h : ∀ w ∈ scopeSet a, w ∈ permissions b) :
    permissions a ⊆ permissions b := by
  intro w hw
  simp only [permissions, Set.mem_ofPred_eq] at h hw ⊢
  exact expandScopes_subset h w hw

lemma scopeSet_subset {a : String} : ∀ w ∈ scopeSet a, w ∈ permissions a :=
  fun _ hw => mem_permissions.2 (Or.inl hw)

/-- A permission is a word that stands for itself. -/
lemma aliasOf_permission {scope w : String} (h : w ∈ permissions scope) : aliasOf w = w := by
  rw [permissions, Set.mem_ofPred_eq] at h
  exact (canonical_of_mem_expandScopes h).2

lemma read_of_write {scope : String} (h : "adv:write" ∈ permissions scope) : "adv:read" ∈ permissions scope := by
  rw [permissions_eq_closureOf] at h ⊢
  exact closedUnder_closureOf _ _ .readOfWrite h

lemma write_of_grantsWrite {scope : String} (h : grantsWrite scope = true) :
    "adv:write" ∈ permissions scope := by
  rw [permissions, Set.mem_ofPred_eq]
  exact (grantsWrite_iff scope).1 h

/-! ### The allowed scope -/

/-- The words of a scope that a client's registered scope stands for. -/
def allowedWords (client : ClientRow) (scope : String) : List String :=
  (split scope).filter (· ∈ expandScopes client.scope)

lemma mem_allowedWords {client : ClientRow} {scope w : String} :
    w ∈ allowedWords client scope ↔ w ∈ split scope ∧ w ∈ permissions client.scope := by
  unfold allowedWords permissions
  rw [List.mem_filter, decide_eq_true_eq]
  exact Iff.rfl

lemma split_allowedWords (client : ClientRow) (scope : String) :
    split (join " " (allowedWords client scope)) = allowedWords client scope :=
  split_join rfl (by decide) fun _ hw => isWord_of_mem_split (mem_allowedWords.1 hw).1

/-- A client that registered no scope gets what it asks for. -/
lemma getAllowedScope_unregistered {client : ClientRow} {scope : String} (hs : scope ≠ "")
    (hr : client.scope = "") : client.getAllowedScope scope = scope := by
  unfold ClientRow.getAllowedScope
  rw [if_neg hs, if_pos hr]

/-- The words that are let through, or the registered scope if there are none. -/
lemma getAllowedScope_eq {client : ClientRow} {scope : String} (hs : scope ≠ "") (hr : client.scope ≠ "") :
    client.getAllowedScope scope =
      if allowedWords client scope = [] then client.scope else join " " (allowedWords client scope) := by
  unfold ClientRow.getAllowedScope orElse
  rw [if_neg hs, if_neg hr]
  refine if_congr ?_ rfl rfl
  constructor
  · intro he
    rw [← split_allowedWords client scope, show join " " (allowedWords client scope) = "" from he, split_empty]
  · intro he
    rw [show (split scope).filter (· ∈ expandScopes client.scope) = [] from he]
    rfl

/-- The permissions of the words that are let through. -/
lemma scopeSet_allowedWords (client : ClientRow) (scope : String) :
    scopeSet (join " " (allowedWords client scope)) = allowedWords client scope := by
  rw [scopeSet_eq, split_allowedWords]
  conv_rhs => rw [← List.map_id (allowedWords client scope)]
  exact List.map_congr_left fun w hw => aliasOf_permission (mem_allowedWords.1 hw).2

/-- **What is reported lies within the registered scope**, for a client that registered one. -/
lemma allowed_registered {client : ClientRow} {scope : String} (hs : scope ≠ "") (hr : client.scope ≠ "") :
    permissions (client.getAllowedScope scope) ⊆ permissions client.scope := by
  rw [getAllowedScope_eq hs hr]
  split_ifs with h
  · exact subset_rfl
  · refine permissions_subset fun w hw => ?_
    rw [scopeSet_allowedWords] at hw
    exact (mem_allowedWords.1 hw).2

/-- **When what is reported lies within what was asked.** -/
lemma allowed_within {client : ClientRow} {scope : String} (hs : scope ≠ "") :
    permissions (client.getAllowedScope scope) ⊆ permissions scope ↔
      client.scope = "" ∨ (∃ w ∈ split scope, w ∈ permissions client.scope) ∨
        permissions client.scope ⊆ permissions scope := by
  by_cases hr : client.scope = ""
  · rw [getAllowedScope_unregistered hs hr]
    exact ⟨fun _ => Or.inl hr, fun _ => subset_rfl⟩
  · rw [getAllowedScope_eq hs hr]
    split_ifs with h
    · constructor
      · exact fun hsub => Or.inr (Or.inr hsub)
      · rintro (h' | ⟨w, hw, hp⟩ | hsub)
        · exact absurd h' hr
        · have hmem := mem_allowedWords.2 ⟨hw, hp⟩
          rw [h] at hmem
          cases hmem
        · exact hsub
    · obtain ⟨w, ws, he⟩ := List.exists_cons_of_ne_nil h
      have hmem : w ∈ allowedWords client scope := by
        rw [he]
        exact List.mem_cons_self
      obtain ⟨hw, hp⟩ := mem_allowedWords.1 hmem
      refine ⟨fun _ => Or.inr (Or.inl ⟨w, hw, hp⟩), fun _ => permissions_subset fun v hv => ?_⟩
      rw [scopeSet_allowedWords] at hv
      obtain ⟨hv, hp⟩ := mem_allowedWords.1 hv
      refine scopeSet_subset v ?_
      rw [scopeSet_eq]
      exact List.mem_map.2 ⟨v, hv, aliasOf_permission hp⟩

/-! ### What is enforced -/

/-- The scope of a credential of the client with the id `k`: one of the two that are granted, and the one that
writes only if the client may. -/
def Enforced (st : Store) (k : ℕ) (scope : String) : Prop :=
  scope = "adv:read" ∨
    scope = "adv:write" ∧ ∀ cl ∈ st.clients, cl.id = k → clientWriteAllowed cl = true

/-- The credentials of the tables. -/
structure AllEnforced (st : Store) : Prop where
  codes : ∀ c ∈ st.codes, Enforced st c.client c.scope
  tokens : ∀ t ∈ st.tokens, Enforced st t.client t.scope

variable {σ : OAuth.Site} {s s' : State}

lemma Enforced.of_clients {st st' : Store} {k : ℕ} {scope : String} (h : Enforced st k scope)
    (hcl : ∀ cl ∈ st'.clients, cl.id = k → ∃ cl₀ ∈ st.clients, cl₀.id = k ∧ cl₀.scope = cl.scope) :
    Enforced st' k scope := by
  refine h.imp_right fun ⟨hw, h⟩ => ⟨hw, fun cl hm hid => ?_⟩
  obtain ⟨cl₀, h0, hid0, hs⟩ := hcl cl hm hid
  have hallowed := h cl₀ h0 hid0
  unfold clientWriteAllowed at hallowed ⊢
  rwa [hs] at hallowed

/-- What a request is granted is enforced under its client. -/
lemma authorize_enforced {st st' : Store} {now : Time} {req : AuthorizeRequest} {client : ClientRow}
    {c : CodeRow} (hk : (st.clients.map (·.id)).Nodup) (h : authorize σ st now req = .ok (st', client, c)) :
    Enforced st c.client c.scope := by
  obtain ⟨hm, hid⟩ := authorize_client h
  obtain ⟨uri, granted, -, hg, he⟩ := authorize_spec h
  have hc : c.scope = orElse granted (req.http.field "scope") := by rw [show c = _ from (Prod.mk.inj he).2]
  rcases grantedScope_spec hg with rfl | ⟨rfl, -, hw⟩
  · exact Or.inl hc
  · refine Or.inr ⟨hc, fun cl hcl he => ?_⟩
    rw [List.inj_on_of_nodup_map hk hcl hm (he.trans hid)]
    exact hw

/-- What a step brings in has the scope and the client of a credential that was there, or was granted to a client
that is there. -/
lemma step_scopes {a : Action} (hk : (s.store.clients.map (·.id)).Nodup) (hf : Fresh s a)
    (h : AllEnforced s.store) :
    (∀ c ∈ (step σ s a).store.codes, Enforced s.store c.client c.scope) ∧
      ∀ t ∈ (step σ s a).store.tokens, Enforced s.store t.client t.scope := by
  cases step_change (σ := σ) hf with
  | quiet hc ht _ =>
    rw [hc, ht]
    exact ⟨h.codes, h.tokens⟩
  | authorized req client c hauth _ _ _ _ _ _ _ hc ht _ =>
    rw [hc, ht]
    refine ⟨fun c' hm => ?_, h.tokens⟩
    rcases List.mem_append.1 hm with hm | hm
    · exact h.codes c' hm
    · rw [List.mem_singleton.1 hm]
      exact authorize_enforced hk hauth
  | revoked p hc ht _ =>
    rw [hc, ht, revoke_tokens]
    refine ⟨h.codes, fun t hm => ?_⟩
    obtain ⟨t₀, h0, rfl⟩ := List.mem_map.1 hm
    rw [mark_client, (copy_mark p t₀).scope]
    exact h.tokens t₀ h0
  | exchanged client req audience c hcm _ hcl _ _ hc ht _ =>
    rw [hc, ht]
    refine ⟨fun c' hm => ?_, fun t hm => ?_⟩
    · obtain ⟨c₀, h0, rfl⟩ := mem_updateWhere.1 hm
      split_ifs
      · exact h.codes c₀ h0
      · exact h.codes c₀ h0
    · rcases List.mem_append.1 hm with hm | hm
      · exact h.tokens t hm
      · rw [List.mem_singleton.1 hm]
        have hcode := h.codes c hcm
        rw [hcl] at hcode
        exact hcode
  | refreshed client req old hom _ hcl _ _ hc ht _ =>
    rw [hc, ht]
    refine ⟨h.codes, fun t hm => ?_⟩
    obtain ⟨t₀, h0, rfl⟩ := mem_updateWhere.1 hm
    have ht₀ : Enforced s.store t₀.client t₀.scope := by
      rcases List.mem_append.1 h0 with h0 | h0
      · exact h.tokens t₀ h0
      · rw [List.mem_singleton.1 h0]
        have htoken := h.tokens old hom
        rw [hcl] at htoken
        exact htoken
    split_ifs
    · exact ht₀
    · exact ht₀
  | deleted hc ht _ =>
    exact ⟨fun c hm => h.codes c (hc.subset hm), fun t hm => h.tokens t (ht.subset hm)⟩

/-- Clients keep their ids and their scopes, and a new one has an id that nothing refers to. -/
lemma step_registered {a : Action} (hlt : ∀ cl ∈ s.store.clients, cl.id < s.store.nextId) {k : ℕ}
    (hk : ∃ cl ∈ s.store.clients, cl.id = k) :
    ∀ cl ∈ (step σ s a).store.clients, cl.id = k → ∃ cl₀ ∈ s.store.clients, cl₀.id = k ∧ cl₀.scope = cl.scope := by
  intro cl hm hid
  cases step_clients (σ := σ) s a with
  | same he => exact ⟨cl, he ▸ hm, hid, rfl⟩
  | added c hcid _ he _ _ =>
    rw [he] at hm
    rcases List.mem_append.1 hm with hm | hm
    · exact ⟨cl, hm, hid, rfl⟩
    · obtain ⟨cl₀, h0, hid0⟩ := hk
      have hlt0 := hlt cl₀ h0
      rw [List.mem_singleton.1 hm] at hid
      omega
  | switched ids b he =>
    rw [he] at hm
    obtain ⟨cl₀, h0, rfl⟩ := mem_updateWhere.1 hm
    split_ifs at hid ⊢
    · exact ⟨cl₀, h0, hid, rfl⟩
    · exact ⟨cl₀, h0, hid, rfl⟩
  | collected he =>
    obtain ⟨hcl, -⟩ := gcOauth_deletes s.store s.now
    rw [he] at hm
    exact ⟨cl, hcl.subset hm, hid, rfl⟩

/-- **Every credential is enforced under its client**, in every reachable state. -/
theorem reachable_enforced (hσ : Function.Injective σ.sha256Hex) (hr : (machine σ).Reachable s) :
    AllEnforced s.store := by
  refine hr.inv (I := fun s => AllEnforced s.store) (fun s h0 => ?_) fun s a s' hr h hs => ?_
  · obtain ⟨hc, ht, -⟩ := show IsInit s from h0
    refine ⟨?_, ?_⟩ <;> simp [hc, ht]
  · rw [hs.2]
    obtain ⟨hk, hlt⟩ := reachable_clients hr
    obtain ⟨hcodes, htokens⟩ := step_scopes hk hs.1 h
    obtain ⟨hcowner, htowner⟩ := step_owners (σ := σ) hs.1
    have howned := reachable_owned hσ hr
    refine ⟨fun c hm => (hcodes c hm).of_clients (step_registered hlt ?_),
      fun t hm => (htokens t hm).of_clients (step_registered hlt ?_)⟩
    · rcases hcowner c hm with ⟨c₀, h0, he⟩ | hcl
      · exact he ▸ howned.codes c₀ h0
      · exact hcl
    · rcases htowner t hm with ⟨t₀, h0, he⟩ | ⟨c, h0, he⟩
      · exact he ▸ howned.tokens t₀ h0
      · exact he ▸ howned.codes c h0

/-! ### The reply -/

/-- A reply 200 of the token endpoint: the client, the scope of its credential, the scope that
`get_allowed_scope` is applied to, the token, and its row. -/
structure TokenReply where
  client : ClientRow
  credentialScope : String
  asked : String
  token : BearerToken
  row : TokenRow

/-- The token endpoint, with the token that it returns. -/
def tokenReply (σ : OAuth.Site) (st : Store) (now : Time) (clientId : String) (p : GrantParam)
    (req : TokenRequest) : Option TokenReply :=
  match authenticateClient st clientId p with
  | .error _ => none
  | .ok client =>
    match p with
    | .authorizationCode code =>
      match (pkceCodeGrant σ st now client code req).2 with
      | .error _ => none
      | .ok (c, t) =>
        some ⟨client, c.scope, c.scope,
          generateToken client req c.scope (client.checkGrantType "refresh_token"), t⟩
    | .refreshToken token =>
      match (rotatingRefreshGrant σ st now client token req).2 with
      | .error _ => none
      | .ok (old, t) =>
        some ⟨client, old.scope, orElse req.scope old.scope,
          generateToken client req (orElse req.scope old.scope) true, t⟩

/-- The reply is that of the token endpoint. -/
lemma tokenReply_row (st : Store) (now : Time) (clientId : String) (p : GrantParam) (req : TokenRequest)
    (t : TokenRow) : (createTokenResponse σ st now clientId p req).2 = .ok t ↔
      ∃ r, tokenReply σ st now clientId p req = some r ∧ r.row = t := by
  unfold createTokenResponse tokenReply
  cases authenticateClient st clientId p with
  | error e => simp
  | ok client =>
    cases p with
    | authorizationCode code =>
      simp only
      generalize (pkceCodeGrant σ st now client code req).2 = r
      cases r <;> simp [Except.map]
    | refreshToken token =>
      simp only
      generalize (rotatingRefreshGrant σ st now client token req).2 = r
      cases r <;> simp [Except.map]

/-- What a reply reports and stores: the row has the scope of the credential, which is enforced under the client,
and what was asked has no other words. -/
structure Answers (r : TokenReply) : Prop where
  reported : r.token.scope = r.client.getAllowedScope r.asked
  stored : r.row.scope = r.credentialScope
  asked : r.asked ≠ "" ∧ ∀ w ∈ split r.asked, w = r.credentialScope
  enforced : r.credentialScope = "adv:read" ∨
    r.credentialScope = "adv:write" ∧ clientWriteAllowed r.client = true

/-- A refresh that is answered asked for words of the token's scope. -/
lemma rotatingRefreshGrant_asked {st : Store} {now : Time} {client : ClientRow} {token : String}
    {req : TokenRequest} {old new : TokenRow}
    (h : (rotatingRefreshGrant σ st now client token req).2 = .ok (old, new)) :
    validateTokenScope old req.scope = true := by
  unfold rotatingRefreshGrant authenticateRefreshToken at h
  cases hv : getValidRefreshToken σ st now token with
  | none =>
    rw [hv] at h
    cases h
  | some t =>
    rw [hv] at h
    simp only at h
    split_ifs at h with hc hs hu
    have hs' : validateTokenScope t req.scope = true := by simpa using hs
    split at h
    · cases h
    · obtain ⟨rfl, -⟩ := Prod.mk.inj (Except.ok.inj h)
      exact hs'

lemma split_granted {scope : String} (h : scope = "adv:read" ∨ scope = "adv:write") : split scope = [scope] := by
  rcases h with rfl | rfl <;> decide

/-- A credential that is enforced under a stored client. -/
lemma Enforced.client {st : Store} {client : ClientRow} {scope : String} (h : Enforced st client.id scope)
    (hm : client ∈ st.clients) :
    scope = "adv:read" ∨ scope = "adv:write" ∧ clientWriteAllowed client = true :=
  h.imp_right fun ⟨hw, hcl⟩ => ⟨hw, hcl client hm rfl⟩

lemma granted_of_enforced {st : Store} {k : ℕ} {scope : String} (h : Enforced st k scope) :
    scope = "adv:read" ∨ scope = "adv:write" := h.imp_right And.left

/-- What a refresh asks for are words of the scope of its token, when that is one of the two that are granted. -/
lemma refresh_asked {old : TokenRow} {scope : String} (hg : old.scope = "adv:read" ∨ old.scope = "adv:write")
    (h : validateTokenScope old scope = true) :
    orElse scope old.scope ≠ "" ∧ ∀ w ∈ split (orElse scope old.scope), w = old.scope := by
  unfold orElse
  split_ifs with h0
  · refine ⟨?_, fun w hw => ?_⟩
    · rcases hg with hg | hg <;> simp [hg]
    · rw [split_granted hg] at hw
      exact List.mem_singleton.1 hw
  · refine ⟨h0, fun w hw => ?_⟩
    unfold validateTokenScope at h
    simp only [h0, decide_false, Bool.false_or, Bool.and_eq_true, List.all_eq_true, decide_eq_true_eq,
      split_granted hg, List.mem_singleton] at h
    exact h.2 w hw

/-- **What the token endpoint answers.** -/
theorem tokenReply_answers (hσ : Function.Injective σ.sha256Hex) (hr : (machine σ).Reachable s)
    {clientId : String} {p : GrantParam} {req : TokenRequest} {r : TokenReply}
    (h : tokenReply σ s.store s.now clientId p req = some r) : Answers r := by
  have henf := reachable_enforced hσ hr
  unfold tokenReply at h
  cases ha : authenticateClient s.store clientId p with
  | error e =>
    rw [ha] at h
    cases h
  | ok client =>
    obtain ⟨hm, -⟩ := authenticateClient_spec ha
    simp only [ha] at h
    cases p with
    | authorizationCode code =>
      simp only at h
      rcases pkceCodeGrant_cases σ s.store s.now client code req with
        ⟨-, e, hp⟩ | ⟨c, e, -, hp⟩ | ⟨c, audience, hv, hp⟩
      · rw [hp] at h
        cases h
      · rw [hp] at h
        cases h
      · rw [hp] at h
        obtain rfl := Option.some.inj h
        obtain ⟨hc, -, hcl, -⟩ := getValidCode_spec hv
        have hscope : Enforced s.store client.id c.scope := hcl ▸ henf.codes c hc
        have hgranted := granted_of_enforced hscope
        refine ⟨rfl, rfl, ⟨?_, fun w hw => ?_⟩, hscope.client hm⟩
        · rcases hgranted with h | h <;> simp [h]
        · rw [split_granted hgranted] at hw
          exact List.mem_singleton.1 hw
    | refreshToken token =>
      simp only at h
      rcases rotatingRefreshGrant_cases σ s.store s.now client token req with
        ⟨-, e, hp⟩ | ⟨old, e, -, hp⟩ | ⟨old, hv, hcl, hp⟩
      · rw [hp] at h
        cases h
      · rw [hp] at h
        cases h
      · have hasked := rotatingRefreshGrant_asked (show _ = Except.ok (old, _) by rw [hp])
        rw [hp] at h
        obtain rfl := Option.some.inj h
        obtain ⟨ho, -⟩ := getValidRefreshToken_spec hv
        have hscope : Enforced s.store client.id old.scope := hcl ▸ henf.tokens old ho
        have hgranted := granted_of_enforced hscope
        exact ⟨rfl, rfl, refresh_asked hgranted hasked, hscope.client hm⟩

/-! ### What is reported and what is enforced -/

/-- The condition under which a client is told what is enforced. -/
def ToldWhatIsEnforced (r : TokenReply) : Prop :=
  if split r.asked = [] then
    r.client.scope ≠ "" ∧ permissions r.client.scope = permissions r.credentialScope
  else r.client.scope = "" ∨ "adv:read" ∈ permissions r.client.scope

/-- The permissions of a scope whose words are all one of the two that are granted. -/
lemma permissions_words {scope granted : String} (hg : granted = "adv:read" ∨ granted = "adv:write")
    (hw : ∀ w ∈ split scope, w = granted) (hne : split scope ≠ []) :
    permissions scope = permissions granted := by
  have halias : aliasOf granted = granted := aliasOf_canonical _ (by rcases hg with rfl | rfl <;> decide)
  have hgranted : scopeSet granted = [granted] := by
    rw [scopeSet_eq, split_granted hg, List.map_singleton, halias]
  refine Set.Subset.antisymm (permissions_subset fun w hm => ?_) (permissions_subset fun w hm => ?_)
  · rw [scopeSet_eq] at hm
    obtain ⟨v, hv, rfl⟩ := List.mem_map.1 hm
    rw [hw v hv, halias]
    exact scopeSet_subset _ (by rw [hgranted]; exact List.mem_singleton_self _)
  · rw [hgranted] at hm
    obtain ⟨v, vs, he⟩ := List.exists_cons_of_ne_nil hne
    have hv : v ∈ split scope := by
      rw [he]
      exact List.mem_cons_self
    refine scopeSet_subset _ ?_
    rw [List.mem_singleton.1 hm, scopeSet_eq]
    exact List.mem_map.2 ⟨v, hv, by rw [hw v hv, halias]⟩

lemma read_mem_granted {granted : String} (hg : granted = "adv:read" ∨ granted = "adv:write") :
    "adv:read" ∈ permissions granted := by
  rcases hg with rfl | rfl
  · exact scopeSet_subset _ (by decide)
  · exact read_of_write (scopeSet_subset _ (by decide))

section Told

variable {r : TokenReply} (h : Answers r) (hr : r.client.scope ≠ "")

include h

/-- Of blanks nothing is let through. -/
lemma reported_blank (hblank : split r.asked = []) : permissions r.token.scope = permissions r.row.scope ↔
    r.client.scope ≠ "" ∧ permissions r.client.scope = permissions r.credentialScope := by
  rw [h.reported, h.stored]
  by_cases hr : r.client.scope = ""
  · have hread := read_mem_granted (h.enforced.imp_right And.left)
    rw [getAllowedScope_unregistered h.asked.1 hr]
    refine ⟨fun hsame => ?_, fun hc => absurd hr hc.1⟩
    rw [← hsame, mem_permissions, scopeSet_eq, hblank] at hread
    simp at hread
  · have hnil : allowedWords r.client r.asked = [] := by
      unfold allowedWords
      rw [hblank]
      rfl
    rw [getAllowedScope_eq h.asked.1 hr, if_pos hnil]
    exact ⟨fun hsame => ⟨hr, hsame⟩, fun hc => hc.2⟩

include hr

/-- When the registered scope covers the credential's, the words asked for are all let through. -/
lemma reported_covered (hne : split r.asked ≠ []) (hin : r.credentialScope ∈ permissions r.client.scope) :
    permissions r.token.scope = permissions r.credentialScope ∧ "adv:read" ∈ permissions r.client.scope := by
  have hg : r.credentialScope = "adv:read" ∨ r.credentialScope = "adv:write" := h.enforced.imp_right And.left
  have hall : allowedWords r.client r.asked = split r.asked := by
    refine List.filter_eq_self.2 fun w hm => decide_eq_true ?_
    rw [h.asked.2 w hm]
    exact hin
  have hwords : split (join " " (allowedWords r.client r.asked)) = split r.asked := by
    rw [split_allowedWords, hall]
  constructor
  · rw [h.reported, getAllowedScope_eq h.asked.1 hr, if_neg (by rw [hall]; exact hne)]
    refine permissions_words hg ?_ ?_
    · rw [hwords]
      exact h.asked.2
    · rw [hwords]
      exact hne
  · rcases hg with he | he
    · exact he ▸ hin
    · exact read_of_write (he ▸ hin)

/-- When it does not, the credential reads only, nothing is let through, and the client is told its registered
scope. -/
lemma reported_uncovered (hin : r.credentialScope ∉ permissions r.client.scope) :
    r.token.scope = r.client.scope ∧ r.credentialScope = "adv:read" := by
  constructor
  · have hnil : allowedWords r.client r.asked = [] := by
      refine List.filter_eq_nil_iff.2 fun w hm hp => hin ?_
      rw [h.asked.2 w hm] at hp
      exact (of_decide_eq_true hp : r.credentialScope ∈ expandScopes r.client.scope)
    rw [h.reported, getAllowedScope_eq h.asked.1 hr, if_pos hnil]
  · rcases h.enforced with he | ⟨he, hallowed⟩
    · exact he
    · unfold clientWriteAllowed at hallowed
      rw [Bool.or_eq_true, decide_eq_true_eq] at hallowed
      rcases hallowed with hallowed | hallowed
      · exact absurd hallowed hr
      · exact absurd (he ▸ write_of_grantsWrite hallowed) hin

omit hr

/-- **When a client is told what is enforced.** -/
theorem reported_same : permissions r.token.scope = permissions r.row.scope ↔ ToldWhatIsEnforced r := by
  unfold ToldWhatIsEnforced
  split_ifs with hne
  · exact reported_blank h hne
  by_cases hr : r.client.scope = ""
  · rw [h.reported, h.stored, getAllowedScope_unregistered h.asked.1 hr]
    exact ⟨fun _ => Or.inl hr, fun _ => permissions_words (h.enforced.imp_right And.left) h.asked.2 hne⟩
  by_cases hin : r.credentialScope ∈ permissions r.client.scope
  · obtain ⟨hsame, hread⟩ := reported_covered h hr hne hin
    rw [hsame, h.stored]
    exact ⟨fun _ => Or.inr hread, fun _ => rfl⟩
  · obtain ⟨htold, hscope⟩ := reported_uncovered h hr hin
    rw [htold, h.stored]
    constructor
    · intro hsame
      refine absurd ?_ hin
      rw [hsame, hscope]
      exact read_mem_granted (Or.inl rfl)
    · rintro (h' | hread)
      · exact absurd h' hr
      · exact absurd (hscope ▸ hread) hin

end Told

/-- The exchange of that client's code. -/
def exchangeReply (s : State) : Option TokenReply :=
  tokenReply sampleSite s.store s.now "mcp-client-1" (.authorizationCode "Sq1xCODE")
    (sampleRequest "At1xACCESS" "Rt1xREFRESH" "8f14e45fceea467f9a4fd6b7f5a1c3d2")

/-- The state in which a client that registered `openid` only holds a code. -/
def openidLogin : State := [sampleRegister "openid", sampleAuthorize ""].foldl (step sampleSite) sampleInit

end AdvMcp.Server
