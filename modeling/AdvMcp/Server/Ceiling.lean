import AdvMcp.OAuth.Family
import AdvMcp.Server.Outcome

/-!
# The scope ceiling, from the registration to the tool

* `Granted` — what the authorize endpoint makes of a request: a code whose scope is `adv:read` or
  `adv:write`, and the latter only if neither the client nor the request is read-only;
* `reachable_granted` — the record of every reachable state holds only such codes;
* `descends_scope` — a token has the scope of the code it descends from, so none has an empty scope;
* `scope_ceiling` — a call with a token of a read-only authorization runs read-only tools only.

Of authlib's `validate_requested_scope` only this is assumed (`Supported`): what it accepts are words of
the supported scopes.
-/

namespace AdvMcp.Server

open AdvMcp.Audit AdvMcp.Lib AdvMcp.OAuth AdvMcp.Py

/-- authlib accepts no word outside the supported scopes. -/
def Supported (σ : OAuth.Site) : Prop :=
  ∀ supported scope, σ.validateRequestedScope supported scope = true →
    ∀ w ∈ split scope, w ∈ supported

/-! ### What is granted -/

/-- The client, or the scope of the request, is read-only: it is not empty and does not grant write. -/
def ReadCeiling (client : ClientRow) (req : AuthorizeRequest) : Prop :=
  (client.scope ≠ "" ∧ grantsWrite client.scope = false) ∨
    (normalizeScope (req.http.field "scope") ≠ "" ∧ grantsWrite (req.http.field "scope") = false)

/-- The scope of the code that is saved for a request of a client. -/
structure Granted (client : ClientRow) (req : AuthorizeRequest) (code : CodeRow) : Prop where
  scope : code.scope = "adv:read" ∨ code.scope = "adv:write"
  ceiling : ReadCeiling client req → code.scope = "adv:read"

variable {σ : OAuth.Site} {st st' : Store} {now : Time} {s s' : State}

/-- A scope of supported words that is not empty and does not grant write is `adv:read`. -/
lemma readOnlyScope_of_supported {scope : String} (hs : ∀ w ∈ scopeSet scope, w ∈ advScopes)
    (h0 : normalizeScope scope ≠ "") (hw : grantsWrite scope = false) : readOnlyScope scope = true := by
  have hall : ∀ w ∈ scopeSet scope, w = "adv:read" := by
    intro w hmem
    have hn : w ∉ advWriteScopes := by
      intro hin
      have hg : grantsWrite scope = true := List.any_eq_true.2 ⟨w, hin, decide_eq_true hmem⟩
      rw [hw] at hg
      cases hg
    have hin := hs w hmem
    simp only [advScopes, advWriteScopes, List.mem_cons, List.not_mem_nil, or_false, not_or] at hin hn
    rcases hin with h | h | h
    · exact absurd h hn.1
    · exact h
    · exact absurd h hn.2
  have hne : scopeSet scope ≠ [] := by
    intro he
    rw [scopeSet_eq, List.map_eq_nil_iff] at he
    refine h0 ?_
    unfold normalizeScope
    split_ifs with hs0
    · exact hs0
    · rw [he]
      rfl
  obtain ⟨w, ws, he⟩ := List.exists_cons_of_ne_nil hne
  have hmem : "adv:read" ∈ scopeSet scope := by
    have hw' := hall w (by rw [he]; exact List.mem_cons_self)
    rw [he, hw']
    exact List.mem_cons_self
  unfold readOnlyScope
  rw [Bool.and_eq_true, List.all_eq_true]
  exact ⟨decide_eq_true hmem, fun w hw => decide_eq_true (hall w hw)⟩

lemma getConsentGrant_scope {req : AuthorizeRequest} {client : ClientRow} {uri : String}
    (h : getConsentGrant σ st req = .ok (client, uri)) :
    validateRequestedScope σ (req.http.field "scope") = true := by
  unfold getConsentGrant at h
  split at h
  · cases h
  · split at h
    · cases h
    · split_ifs at h with h1 h2 h3
      simpa using h2

/-- What the endpoint grants is one of the two scopes, and write only above the ceiling. -/
lemma grantedScope_spec {client : ClientRow} {r : HttpRequest} {granted : String}
    (h : grantedScope client r = some granted) : granted = "adv:read" ∨
      (granted = "adv:write" ∧ readOnlyScope (r.field "scope") = false ∧
        clientWriteAllowed client = true) := by
  unfold grantedScope at h
  cases hm : r.method with
  | GET =>
    simp only [hm] at h
    obtain rfl := Option.some.inj h
    split_ifs with hw
    · simp only [Bool.and_eq_true, Bool.not_eq_true'] at hw
      exact Or.inr ⟨rfl, hw.1, hw.2⟩
    · exact Or.inl rfl
  | POST =>
    simp only [hm] at h
    split_ifs at h with hd hw hc hc'
    · exact Or.inl (Option.some.inj h).symm
    · obtain rfl := Option.some.inj h
      simp only [Bool.and_eq_true, Bool.not_eq_true'] at hw
      exact Or.inr ⟨rfl, hw.1, by simpa using hc⟩
    · exact Or.inl (Option.some.inj h).symm
    · exact Or.inl (Option.some.inj h).symm

/-- **The authorize endpoint** grants within the ceiling. -/
lemma authorize_granted (hσ : Supported σ) {req : AuthorizeRequest} {client : ClientRow} {c : CodeRow}
    (h : authorize σ st now req = .ok (st', client, c)) : Granted client req c := by
  obtain ⟨uri, granted, hcg, hg, he⟩ := authorize_spec h
  have hc : c.scope = orElse granted (req.http.field "scope") := by
    rw [show c = _ from (Prod.mk.inj he).2]
  rcases grantedScope_spec hg with rfl | ⟨rfl, hro, hw⟩
  · exact ⟨Or.inl hc, fun _ => hc⟩
  · refine ⟨Or.inr hc, ?_⟩
    rintro (⟨h0, hn⟩ | ⟨h0, hn⟩)
    · -- a client that is read-only is not allowed to write
      unfold clientWriteAllowed at hw
      rw [hn, Bool.or_false] at hw
      exact absurd (of_decide_eq_true hw) h0
    · have hs : ∀ w ∈ scopeSet (req.http.field "scope"), w ∈ advScopes :=
        hσ advScopes _ (getConsentGrant_scope hcg)
      rw [readOnlyScope_of_supported hs h0 hn] at hro
      cases hro

/-! ### The record and the tokens -/

/-- Every code on the record was granted within the ceiling. -/
def LogGranted (s : State) : Prop :=
  ∀ req client c, .authorized req client c ∈ s.log → Granted client req c

lemma logGranted_step (hσ : Supported σ) {a : Action} (hf : Fresh s a) (h : LogGranted s) :
    LogGranted (step σ s a) := by
  intro req client c hi
  cases step_change (σ := σ) hf with
  | quiet _ _ hl => exact h req client c (hl ▸ hi)
  | authorized req' client' c' hauth _ _ _ _ _ _ _ _ _ hl =>
    rw [hl] at hi
    rcases List.mem_append.1 hi with hi | hi
    · exact h req client c hi
    · obtain ⟨rfl, rfl, rfl⟩ := Issue.authorized.inj (List.mem_singleton.1 hi)
      exact authorize_granted hσ hauth
  | revoked _ _ _ hl => exact h req client c (hl ▸ hi)
  | exchanged _ _ _ _ _ _ _ _ _ _ _ hl => exact h req client c (by simpa [hl] using hi)
  | refreshed _ _ _ _ _ _ _ _ _ _ hl => exact h req client c (by simpa [hl] using hi)
  | deleted _ _ hl => exact h req client c (hl ▸ hi)

/-- The record of a reachable state. -/
theorem reachable_granted (hσ : Supported σ) (hr : (machine σ).Reachable s) : LogGranted s := by
  refine hr.inv (I := LogGranted) (fun s h0 req client c hi => ?_) fun s a s' _ h hs => ?_
  · rw [h0.2.2.2.1] at hi
    cases hi
  · rw [hs.2]
    exact logGranted_step hσ hs.1 h

/-- A token has the scope of the authorization it descends from. -/
lemma descends_scope (h : LogOk s) {k : ℕ} {t : TokenRow} (hd : Descends s.log k t) :
    ∃ req client c, .authorized req client c ∈ s.log ∧ c.id = k ∧ t.scope = c.scope := by
  obtain ⟨-, c, t₁, hm, hid, -, hs⟩ := descends_spec h hd
  obtain ⟨hc, -⟩ := h.exchanged c t₁ hm
  obtain ⟨i, hi, hic⟩ := List.mem_filterMap.1 hc
  cases i with
  | authorized req client c' =>
    obtain rfl : c' = c := by simpa [Issue.code?] using hic
    exact ⟨req, client, c', hi, hid, hs⟩
  | exchanged _ _ => cases hic
  | refreshed _ _ => cases hic

/-- The scope of the tokens of one authorization is that of its code. -/
lemma descends_scope_eq (h : LogOk s) {req : AuthorizeRequest} {client : ClientRow} {code : CodeRow}
    (hi : .authorized req client code ∈ s.log) {t : TokenRow} (hd : Descends s.log code.id t) :
    t.scope = code.scope := by
  obtain ⟨req', client', c, hc, hid, hs⟩ := descends_scope h hd
  have hmem : ∀ {req client c}, Issue.authorized req client c ∈ s.log → c ∈ issuedCodes s.log :=
    fun hi => List.mem_filterMap.2 ⟨_, hi, rfl⟩
  rw [hs, h.codeId c (hmem hc) code (hmem hi) hid]

/-! ### Bearer tokens -/

/-- `_audience_ok` -/
def audienceOk (σ : OAuth.Site) (audience : String) : Bool :=
  if audience = "" then false
  else rstrip '/' audience ∈ (acceptedResources σ).map (rstrip '/')

/-- `_resolve_token`; OAuth may be off, and a user inactive. -/
def resolveToken (σ : OAuth.Site) (st : Store) (now : Time) (enabled : Bool) (userActive : ℕ → Bool)
    (rawToken : String) : Option TokenRow :=
  if !enabled then none
  else match getValidAccessToken σ st now rawToken with
    | none => none
    | some token =>
      if !audienceOk σ token.audience then none
      else if !userActive token.userId then none
      else if !((st.clients.find? (·.id = token.client)).any (·.active)) then none
      else some token

/-- What `_auth_method_adv_gateway` puts on a request with that token. -/
def oauthSession (q : Session) (token : TokenRow) : Session :=
  { q with
    uid := token.userId
    oauthScope := some token.scope
    authMethod := some "oauth"
    oauthClientId := some token.client }

/-! ### The tools that are run -/

/-- A call runs a tool only if its annotations are read-only or the connection may write. -/
lemma invokeTool_ran {τ : Type} (w : Site τ) (q : Session) (args : Dict) (db : τ) :
    ∀ m ∈ (invokeTool w q args db).ran, requiresWriteScope m.annotations = true →
      writePermitted q = true := by
  have hadm : ∀ {c : Call τ}, c.Admitted w q db → ∀ m ∈ [toolMeta w c.tool],
      requiresWriteScope m.annotations = true → writePermitted q = true := by
    intro c ha m hm hw
    obtain rfl := List.mem_singleton.1 hm
    by_contra hp
    exact ha.scope ⟨hw, by simpa using hp⟩
  cases hc : callOf w args with
  | none =>
    have hran : (invokeTool w q args db).ran = [] := (invokeTool_of_none hc).ran
    rw [hran]
    exact fun m hm => by cases hm
  | some c =>
    rw [invokeTool_of_call hc]
    have ht : c.Tried w q db (c.tryBlock w q db) := tryBlock_tried
    show ∀ m ∈ (c.tryBlock w q db).ran, requiresWriteScope m.annotations = true → writePermitted q = true
    generalize c.tryBlock w q db = a at ht
    cases ht with
    | checkRaised _ _ => exact fun m hm => by cases hm
    | refused _ _ => exact fun m hm => by cases hm
    | incomplete _ _ _ _ => exact fun m hm => by cases hm
    | returned ha _ _ _ _ => exact hadm ha
    | raised ha _ _ _ => exact hadm ha

lemma writePermitted_read {q : Session} (h : q.oauthScope = some "adv:read") : writePermitted q = false := by
  unfold writePermitted
  rw [h]
  decide

/-- **The scope ceiling.**  In every reachable state no token has an empty scope; and if the client or the
requested scope of an authorization is read-only, then no call with a token that descends from it, at any
site and with any arguments, runs a tool whose annotations lack `readOnlyHint`. -/
theorem scope_ceiling (hinj : Function.Injective σ.sha256Hex) (hσ : Supported σ)
    (hr : (machine σ).Reachable s) :
    (∀ t ∈ s.store.tokens, t.scope ≠ "") ∧
    ∀ req client code, .authorized req client code ∈ s.log → ReadCeiling client req →
      ∀ enabled userActive rawToken t t₀,
        resolveToken σ s.store s.now enabled userActive rawToken = some t →
        Descends s.log code.id t₀ → Copy t₀ t →
        ∀ (τ : Type) (w : Site τ) (q : Session) (args : Dict) (db : τ),
          ∀ m ∈ (invokeTool w (oauthSession q t) args db).ran,
            (m.annotations.get "readOnlyHint").isTrue = true := by
  have h := reachable_inv hinj hr
  have hl := reachable_granted hσ hr
  refine ⟨fun t ht => ?_, fun req client code hi hceil enabled userActive rawToken t t₀ _ hd hcopy
    τ w q args db m hm => ?_⟩
  · obtain ⟨k, t₀, hd, hcopy⟩ := stored_descends h ht
    obtain ⟨req, client, c, hi, -, hs⟩ := descends_scope h.log hd
    rw [hcopy.scope, hs]
    rcases (hl req client c hi).scope with hc | hc <;> rw [hc] <;> decide
  · have hscope : (oauthSession q t).oauthScope = some "adv:read" := by
      show some t.scope = _
      rw [hcopy.scope, descends_scope_eq h.log hi hd, (hl req client code hi).ceiling hceil]
    by_contra hro
    have hw : requiresWriteScope m.annotations = true := by
      unfold requiresWriteScope
      simpa using hro
    have hp := invokeTool_ran w (oauthSession q t) args db m hm hw
    rw [writePermitted_read hscope] at hp
    cases hp

lemma sampleSite_supported : Supported sampleSite :=
  fun _ _ h w hw => of_decide_eq_true (List.all_eq_true.1 h w hw)

/-- A site with one builtin tool, which writes. -/
def addSite : Site Unit where
  index := [("add", ⟨⟨some "create", [("required", .list [.str "model"])], [("readOnlyHint", .bool false)]⟩,
    fun _ => pure (.dict [])⟩)]
  customTools := []
  models := []
  allGroupIds := fun _ => .ok []
  hasWriteAccess := fun _ _ => .ok false
  readResource := fun _ => throw (.of .userError "Invalid resource URI")
  loads := fun _ => none
  dumps := fun _ => pure "null"
  dictOf := fun _ => pure []
  rendered := fun _ => true
  repr := fun _ => "[]"
  scrub := id

/-- A client that registered `adv:read` asks for no scope, exchanges its code, and calls `add`. -/
theorem scope_ceiling_add : ∃ t, resolveToken sampleSite (sampleState "adv:read" "").store
      (sampleState "adv:read" "").now true (fun _ => true) "At1xACCESS" = some t ∧
    ∀ m ∈ (invokeTool addSite (oauthSession apiKeySession t)
        [("name", .str "add"), ("arguments", .dict [("model", .str "res.partner")])] ()).ran,
      (m.annotations.get "readOnlyHint").isTrue = true := by
  have hr : (machine sampleSite).Reachable (sampleState "adv:read" "") :=
    reachable_foldl sampleInit_isInit (by decide)
  obtain ⟨req, client, code, t, hlog, hclient, ht⟩ : ∃ req client code t,
      (sampleState "adv:read" "").log = [.authorized req client code, .exchanged code t] ∧
      client.scope = "adv:read" ∧
      resolveToken sampleSite (sampleState "adv:read" "").store (sampleState "adv:read" "").now true
        (fun _ => true) "At1xACCESS" = some t := ⟨_, _, _, _, rfl, by decide, by decide⟩
  have hceil : ReadCeiling client req := Or.inl (by rw [hclient]; decide)
  have hd : Descends (sampleState "adv:read" "").log code.id t := .exchanged (by rw [hlog]; simp) rfl
  exact ⟨t, ht, (scope_ceiling sampleSite_injective sampleSite_supported hr).2 req client code
    (by rw [hlog]; simp) hceil true _ _ t t ht hd (Copy.refl t) Unit addSite apiKeySession _ ()⟩

end AdvMcp.Server
