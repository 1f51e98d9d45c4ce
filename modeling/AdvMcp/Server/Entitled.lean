import AdvMcp.Server.Deactivated
import AdvMcp.Server.Doors

/-!
# Who gets through the doors

Over whole runs of the gateway: requests at all doors, in any order, with changes of the configuration, of the keys
and of the data between them.

* `projected` — a run of the gateway is one of the machine of OAuth, and its authorizations were made at the door;
* `Entitled` — how a request may come to change the data;
* `change_entitled` — every request that does is entitled to it;
* `amcpOnly_run` — a key that the wizard made for the scope `adv` is good for `POST /mcp_server` only;
* `endpoints_metered` — what one address gets out of the token endpoint and the registration.
-/

namespace AdvMcp.Server

open AdvMcp.Access AdvMcp.Audit AdvMcp.Lib AdvMcp.OAuth AdvMcp.Py AdvMcp.Rpc

variable {σ : Type} {O : OAuth.Site} {D : Deployment σ} {s₀ s s' : DoorState σ} {ls : List (ℤ × Occurrence σ)}

/-! ### The run of OAuth -/

/-- The door of an authorization was open. -/
def AuthorizedAt (ls : List (ℤ × Occurrence σ)) (req : AuthorizeRequest) : Prop :=
  ∃ now D, (now, Occurrence.visit D (.authorize req)) ∈ ls ∧ D.enabled = true ∧ D.front.oauthEnabled = true

lemma AuthorizedAt.cons {l : ℤ × Occurrence σ} {req : AuthorizeRequest} (h : AuthorizedAt ls req) :
    AuthorizedAt (l :: ls) req := by
  obtain ⟨now, D, hm, hon⟩ := h
  exact ⟨now, D, List.mem_cons_of_mem _ hm, hon⟩

/-- Only the door of the authorizations authorizes. -/
lemma oauthAction_authorize {e : Occurrence σ} {req : AuthorizeRequest}
    (h : oauthAction s e = some (.authorize req)) :
    ∃ D, e = .visit D (.authorize req) ∧ D.enabled = true ∧ D.front.oauthEnabled = true := by
  cases e with
  | upkeep u =>
    cases u with
    | maintain m => cases m <;> cases h
    | _ => cases h
  | visit D v =>
    cases v with
    | authorize req' =>
      simp only [oauthAction] at h
      split_ifs at h with hon
      obtain rfl := Action.authorize.inj (Option.some.inj h)
      rw [Bool.and_eq_true] at hon
      exact ⟨D, rfl, hon⟩
    | token remoteAddr clientId p req' =>
      simp only [oauthAction] at h
      split_ifs at h
      obtain ⟨client, -, ha⟩ := Option.map_eq_some_iff.1 h
      cases p <;> cases ha
    | register remoteAddr clientId data =>
      simp only [oauthAction] at h
      split_ifs at h
      cases h
    | _ => cases h

/-- **A run of the gateway** is a run of OAuth, whose authorizations were made at an open door. -/
theorem projected (hrun : (doors O).Run s₀ ls s) : ∃ as, FreshRun O s₀.oauth as ∧ s.oauth = s₀.oauth.after O as ∧
    ∀ req, .authorize req ∈ as → AuthorizedAt ls req := by
  induction hrun with
  | nil s => exact ⟨[], trivial, rfl, fun req h => absurd h List.not_mem_nil⟩
  | @cons s t s' l ls hstep hrun ih =>
    obtain ⟨-, hfresh, rfl⟩ := hstep
    obtain ⟨as, hf, he, hauth⟩ := ih
    have hstep := serve_oauth O (s.at l.1) l.2
    cases ha : oauthAction (s.at l.1) l.2 with
    | none =>
      rw [ha] at hstep
      simp only [at_oauth] at hstep
      rw [hstep] at hf he
      exact ⟨as, hf, he, fun req h => (hauth req h).cons⟩
    | some a =>
      rw [ha] at hstep
      simp only [at_oauth] at hstep
      rw [hstep] at hf he
      refine ⟨a :: as, ⟨hfresh a ha, hf⟩, he, fun req h => ?_⟩
      rcases List.mem_cons.1 h with rfl | h
      · obtain ⟨D, hv, hon⟩ := oauthAction_authorize ha
        exact ⟨l.1, D, by rw [← hv]; exact List.mem_cons_self, hon⟩
      · exact (hauth req h).cons

/-! ### The keys -/

/-- The key that a change makes. -/
def Upkeep.minted : Upkeep σ → Option ApiKey
  | .generate context scope userId secret => some (Server.generate context scope userId secret)
  | .makeKey mode context userId secret => some (Server.makeKey mode context userId secret)
  | _ => none

/-- The key was there at the start, or was made in the run. -/
def Sourced (s₀ : DoorState σ) (ls : List (ℤ × Occurrence σ)) (k : ApiKey) : Prop :=
  k ∈ s₀.keys ∨ ∃ now u, (now, Occurrence.upkeep u) ∈ ls ∧ u.minted = some k

/-- Visitors make no keys. -/
lemma serveVisit_keys (s : DoorState σ) (v : Visit) : (serveVisit O D s v).2.keys = s.keys := by
  have hchange := serveVisit_change O D s v
  generalize (serveVisit O D s v).2 = s' at hchange
  cases hchange <;> rfl

lemma mem_keys_upkeep {u : Upkeep σ} {k : ApiKey} (h : k ∈ (serveUpkeep O s u).keys) :
    k ∈ s.keys ∨ u.minted = some k := by
  cases u with
  | maintain m => exact Or.inl h
  | generate context scope userId secret =>
    exact (List.mem_append.1 h).imp id fun h => congrArg some (List.mem_singleton.1 h).symm
  | makeKey mode context userId secret =>
    exact (List.mem_append.1 h).imp id fun h => congrArg some (List.mem_singleton.1 h).symm
  | removeKeys gone => exact Or.inl (List.mem_filter.1 h).1
  | data db => exact Or.inl h

lemma mem_keys_occur {e : Occurrence σ} {k : ApiKey} (h : k ∈ (occur O s e).keys) :
    k ∈ s.keys ∨ ∃ u, e = .upkeep u ∧ u.minted = some k := by
  cases e with
  | visit D v => exact Or.inl (serveVisit_keys (O := O) s v ▸ h)
  | upkeep u => exact (mem_keys_upkeep h).imp id fun hm => ⟨u, rfl, hm⟩

/-- **Every key has a source.** -/
theorem keys_sourced (hrun : (doors O).Run s₀ ls s) : ∀ k ∈ s.keys, Sourced s₀ ls k := by
  induction hrun with
  | nil s => exact fun k hk => Or.inl hk
  | @cons s t s' l ls hstep hrun ih =>
    obtain ⟨now, e⟩ := l
    obtain ⟨-, -, rfl⟩ := hstep
    intro k hk
    rcases ih k hk with hk | ⟨now', u, hm, hu⟩
    · rcases mem_keys_occur hk with hk | ⟨u, rfl, hu⟩
      · exact Or.inl hk
      · exact Or.inr ⟨now, u, List.mem_cons_self, hu⟩
    · exact Or.inr ⟨now', u, List.mem_cons_of_mem _ hm, hu⟩

/-! ### Who changes the data -/

/-- What `_resolve_token` has checked. -/
lemma resolveToken_spec {st : Store} {now : Time} {enabled : Bool} {userActive : ℕ → Bool} {token : String}
    {t : TokenRow} (h : resolveToken O st now enabled userActive token = some t) : enabled = true ∧
      getValidAccessToken O st now token = some t ∧ audienceOk O t.audience = true ∧ userActive t.userId = true ∧
        ∃ c ∈ st.clients, c.id = t.client ∧ c.active = true := by
  unfold resolveToken at h
  split_ifs at h with he
  cases hv : getValidAccessToken O st now token with
  | none =>
    rw [hv] at h
    cases h
  | some row =>
    rw [hv] at h
    simp only at h
    split_ifs at h with ha hu hc
    obtain rfl := Option.some.inj h
    rw [Bool.not_eq_true', Bool.not_eq_false, Option.any_eq_true] at hc
    obtain ⟨c, hf, hactive⟩ := hc
    exact ⟨by simpa using he, rfl, by simpa using ha, by simpa using hu, c, List.mem_of_find?_eq_some hf,
      by simpa using List.find?_some hf, hactive⟩

/-- The access token of a request was earned from an authorization at an open door, less than an hour ago. -/
structure EarnedAt (O : OAuth.Site) (s₀ s : DoorState σ) (ls : List (ℤ × Occurrence σ)) (token : String)
    (t : TokenRow) (asked : AuthorizeRequest) : Prop where
  authorized : AuthorizedAt ls asked
  user : t.userId = asked.user
  earned : ∃ consenting c before t₀ req, Earned O s₀.oauth asked consenting c before t₀ req ∧
    req.accessToken = token ∧ s.oauth.now < (s₀.oauth.after O before).now + accessTokenExpiresIn ∧
      t.client = consenting.id ∧ t.scope = c.scope

/-- How a request may come to change the data: with an API key of an active user, made for all scopes or for one
that the endpoint takes, or with an access token that was earned from a user who is active; or as a call that the
proxy has checked, or one of the services that it passes on unchecked. -/
inductive Entitled (O : OAuth.Site) (s₀ s : DoorState σ) (ls : List (ℤ × Occurrence σ)) (now : ℤ)
    (D : Deployment σ) : Visit → Prop
  | apiKey {rq : FrontRequest} {k : ApiKey} (bears : Bears D.front.lo rq.authorization k.secret)
    (source : Sourced s₀ ls k) (kept : k ∈ s.keys)
    (scope : k.scope = none ∨ ∃ x ∈ bearerScopes, k.scope = some x)
    (active : D.front.service.userActive k.userId = true)
    (admitted : Admits O D.front rq (s.at now).front (keySession (anonymous rq) k.userId)) :
    Entitled O s₀ s ls now D (.post rq)
  | bearer {rq : FrontRequest} {token : String} {t : TokenRow} {asked : AuthorizeRequest}
    (bears : Bears D.front.lo rq.authorization token) (oauth : D.front.oauthEnabled = true)
    (earned : EarnedAt O s₀ s ls token t asked) (active : D.front.service.userActive asked.user = true)
    (client : ∃ c ∈ s.oauth.store.clients, c.id = t.client ∧ c.active = true)
    (admitted : Admits O D.front rq (s.at now).front (oauthSession (anonymous rq) t)) :
    Entitled O s₀ s ls now D (.post rq)
  | forwarded {remoteAddr xmlrpcMethod : String} {params ps : List Value} {c : Checked}
    (checked : advObjectDispatch D.front.endpoint.worker.gateway xmlrpcMethod params = .forwarded ps c) :
    Entitled O s₀ s ls now D (.object remoteAddr xmlrpcMethod params)
  | service {root : ServiceRoot} {method : String} {params : List Value} :
    Entitled O s₀ s ls now D (.service root method params)

/-- The guard of OAuth and its endpoints leave the data alone. -/
lemma oauthGuard_db (endpoint : DoorReply × DoorState σ) (h : endpoint.2.db = s.db) :
    (oauthGuard D s endpoint).2.db = s.db := by
  unfold oauthGuard
  split_ifs
  · exact h
  · rfl

/-- A valid access token was earned. -/
lemma earnedAt_of_valid (hO : Function.Injective O.sha256Hex) (h0 : (doors O).init s₀)
    (hrun : (doors O).Run s₀ ls s)
    {token : String} {t : TokenRow} (hv : getValidAccessToken O s.oauth.store s.oauth.now token = some t) :
    ∃ asked, EarnedAt O s₀ s ls token t asked := by
  obtain ⟨as, hf, he, hauth⟩ := projected hrun
  have hinv := reachable_inv hO (after_reachable h0.1 hf)
  rw [he] at hv
  obtain ⟨asked, consenting, c, before, later, t₀, req, rfl, hearned, haccess, -, htime, hu, hcl, hs⟩ :=
    (told_run hO h0.1 hf).valid hinv hO hv
  obtain ⟨front, back, _, rfl, -⟩ := hearned.carries.1
  refine ⟨asked, hauth asked (by simp), hu, consenting, c, _, t₀, req, hearned, haccess, ?_, hcl, hs⟩
  rw [he]
  exact htime

/-- **Who changes the data.**  In every run, with any configurations, requests and changes in any order: a request
that changes the data does so while the gateway is switched on, and is entitled to it. -/
theorem change_entitled (hO : Function.Injective O.sha256Hex) (h0 : (doors O).init s₀)
    (hrun : (doors O).Run s₀ ls s) {now : ℤ} {v : Visit} (hdb : (serveVisit O D (s.at now) v).2.db ≠ s.db) :
    D.enabled = true ∧ Entitled O s₀ s ls now D v := by
  have hon : D.enabled = true := by
    rw [← Bool.not_eq_false]
    intro hoff
    have hclosed := (closed_visit (O := O) hoff (s.at now) v).2
    exact hdb hclosed.db
  refine ⟨hon, ?_⟩
  cases v with
  | post rq =>
    rcases front_cases O D.front rq (s.at now).front with ⟨q, hq, -, -⟩ | ⟨-, reply, auth, -, he⟩
    · obtain ⟨token, hb, hc⟩ := hq.credit
      cases hc with
      | apiKey known =>
        obtain ⟨hactive, k, hk, rfl, rfl, hscope⟩ := getUser_scope known
        exact .apiKey hb (keys_sourced hrun k hk) hk hscope hactive hq
      | @oauth t unknown resolved =>
        obtain ⟨hoauth, hv, -, hactive, hclient⟩ := resolveToken_spec resolved
        obtain ⟨asked, hearned⟩ := earnedAt_of_valid hO h0 hrun hv
        rw [hearned.user] at hactive
        exact .bearer hb hoauth hearned hactive hclient hq
    · refine absurd ?_ hdb
      show (Server.front O D.front rq (s.at now).front).2.db = s.db
      rw [he]
      rfl
  | rest rq route => exact absurd rfl hdb
  | object remoteAddr xmlrpcMethod params =>
    cases hf : advObjectDispatch D.front.endpoint.worker.gateway xmlrpcMethod params with
    | forwarded ps c => exact .forwarded hf
    | _ =>
      refine absurd ?_ hdb
      simp only [serveVisit, visitObject, objectData, hf]
      split_ifs <;> rfl
  | service root method params => exact .service
  | protectedResourceMetadata => exact absurd (oauthGuard_db _ rfl) hdb
  | authorizationServerMetadata => exact absurd (oauthGuard_db _ rfl) hdb
  | authorize req => exact absurd (oauthGuard_db (s := s.at now) _ rfl) hdb
  | token remoteAddr clientId p req =>
    refine absurd (oauthGuard_db _ ?_) hdb
    simp only [visitToken]
    split_ifs <;> rfl
  | register remoteAddr clientId data =>
    refine absurd (oauthGuard_db _ ?_) hdb
    simp only [visitRegister]
    split_ifs <;> rfl

/-- Switched on, the gateway lets the user of the key update the order. -/
theorem change_entitled_edit :
    (serveVisit sampleSite (saleDeployment true) (saleStart.at 1) editVisit).2.db.2 = [⟨"sale.order", "write"⟩] ∧
      Entitled sampleSite saleStart saleStart [] 1 (saleDeployment true) editVisit := by
  have hdb : (serveVisit sampleSite (saleDeployment true) (saleStart.at 1) editVisit).2.db.2 =
      [⟨"sale.order", "write"⟩] := by decide +kernel
  refine ⟨hdb, (change_entitled sampleSite_injective ⟨sampleInit_isInit, rfl, rfl⟩ (.nil _) fun he => ?_).2⟩
  rw [he] at hdb
  cases hdb

/-! ### Keys of one scope -/

/-- Whatever makes the key, it is the wizard, for the scope `adv`. -/
def MintsAdv (secret : String) : Occurrence σ → Prop
  | .visit _ _ => True
  | .upkeep u => ∀ k, u.minted = some k → k.secret = secret →
      ∃ context userId, u = .makeKey .adv context userId secret

/-- All rows with the key have the scope `adv`. -/
def AmcpOnly (secret : String) (s : DoorState σ) : Prop := ∀ k ∈ s.keys, k.secret = secret → k.scope = some "adv"

variable {secret : String}

lemma amcpOnly_occur {e : Occurrence σ} (h : AmcpOnly secret s) (he : MintsAdv secret e) :
    AmcpOnly secret (occur O s e) := by
  intro k hk hs
  rcases mem_keys_occur hk with hk | ⟨u, rfl, hu⟩
  · exact h k hk hs
  · obtain ⟨context, userId, rfl⟩ := he k hu hs
    obtain rfl := Option.some.inj hu
    exact makeKey_adv context

/-- The doors other than `POST /mcp_server` find nobody by the key. -/
lemma AmcpOnly.unknown (h : AmcpOnly secret s) (D : Deployment σ) (uid : ℕ) :
    D.rpcKey s.keys secret ≠ .user uid := by
  intro hu
  obtain ⟨-, k, hk, hs, -, hscope⟩ := getUser_scope hu
  rcases hscope with hnone | ⟨x, hx, hsome⟩
  · rw [h k hk hs] at hnone
    cases hnone
  · rw [h k hk hs] at hsome
    obtain rfl := Option.some.inj hsome
    exact absurd hx (by decide)

/-- A key that is not good for a user leaves `require_auth` to the session. -/
lemma requireAuth_unknown {loggingActive : Bool} {now : ℤ} {peer : Peer} {a : AuthState} {apiKey : String}
    {key : KeyCheck} (hk : ∀ uid, key ≠ .user uid) :
    (requireAuth loggingActive now peer a apiKey key none).1 = none := by
  unfold requireAuth
  split_ifs
  · rfl
  · cases key with
    | user uid => exact absurd rfl (hk uid)
    | _ => rfl

/-- **A key for the gateway only.**  If all that ever makes the key is the wizard with the scope `adv`, then, however
long the run, the REST endpoints answer a request with it, and without a session, with 401, but for the check of
health, and the proxy does not find a user by it; while `POST /mcp_server` binds the user that Odoo knows by it. -/
theorem amcpOnly_run (h : AmcpOnly secret s₀) (hrun : (doors O).RunBy (fun _ l => MintsAdv secret l.2) s₀ ls s)
    (D : Deployment σ) :
    (∀ now rq route, rq.apiKey = secret → rq.sessionUser = none → route ≠ .healthCheck →
      ∃ reply, (serveVisit O D (s.at now) (.rest rq route)).1 = .rest reply ∧ reply.status = 401) ∧
    (∀ now peer, (lookupKey (D.services s) now peer s.auth (.str secret)).1 = none) ∧
    ∀ uid, D.front.service.checkCredentials s.keys "adv" secret = .ok (some uid) →
      D.front.service.userActive uid = true → getUser D.front.service s.keys bearerScopes secret = .user uid := by
  have honly : AmcpOnly secret s := by
    clear D
    induction hrun with
    | nil s => exact h
    | @cons s t s' l ls hl hstep hrun ih =>
      obtain ⟨-, -, rfl⟩ := hstep
      exact ih (amcpOnly_occur h hl)
  have hkey := honly.unknown D
  refine ⟨fun now rq route hsecret hsession hroute => ?_, fun now peer => ?_, fun uid hc hactive => ?_⟩
  · have hnone : (requireAuth D.rest.loggingActive ((s.at now).restRequest D rq).now
        ((s.at now).restRequest D rq).peer s.auth secret (D.rpcKey s.keys secret) none).1 = none :=
      requireAuth_unknown hkey
    refine ⟨(restServe D.rest ((s.at now).restRequest D rq) s.auth route).1, rfl, ?_⟩
    have hauth : (requireAuth D.rest.loggingActive ((s.at now).restRequest D rq).now
        ((s.at now).restRequest D rq).peer s.auth ((s.at now).restRequest D rq).apiKey
        ((s.at now).restRequest D rq).key ((s.at now).restRequest D rq).sessionUser).1 = none := by
      subst hsecret
      show (requireAuth _ _ _ s.auth rq.apiKey (D.rpcKey s.keys rq.apiKey) rq.sessionUser).1 = none
      rw [hsession]
      exact hnone
    unfold restServe
    cases route with
    | healthCheck => exact absurd rfl hroute
    | _ =>
      simp only [hauth]
      rfl
  · unfold lookupKey Server.identifyUser
    simp only
    split_ifs
    · have hchecked : (D.services s).keyCheck secret = D.rpcKey s.keys secret := rfl
      rw [hchecked]
      cases hk : D.rpcKey s.keys secret with
      | user uid => exact absurd hk (hkey uid)
      | _ => rfl
    · rfl
  · unfold getUser bearerScopes checkScopes
    simp only [hc, hactive, if_true]

/-- The key that updates an order at one door does not list the models at another. -/
theorem amcpOnly_run_models : ∃ reply, (serveVisit sampleSite (saleDeployment true) (saleStart.at 1)
    (.rest { keyRequest with apiKey := "k3f9a1" } .getModels)).1 = .rest reply ∧ reply.status = 401 := by
  have honly : AmcpOnly "k3f9a1" saleStart := by
    intro k hk _
    obtain rfl := List.mem_singleton.1 hk
    rfl
  exact (amcpOnly_run (O := sampleSite) honly (.nil _) (saleDeployment true)).1 1 _ .getModels rfl rfl (by simp)

/-! ### What one address gets -/

/-- When requests of an address were let pass. -/
def Counter.times (c : Counter) (peer : Peer) : List ℤ := (c.passed.filter fun p => p.2 = peer).map (·.1)

/-- The requests of every address are spread out. -/
def Metered (window maxRequests now : ℤ) (c : Counter) : Prop :=
  ∀ peer, Tracks window maxRequests now (c.times peer) (c.buckets peer)

variable {window maxRequests now now' : ℤ} {c : Counter}

lemma metered_empty : Metered window maxRequests now ⟨fun _ => [], []⟩ :=
  fun _ => ⟨.nil, [], rfl, fun _ hu => absurd hu List.not_mem_nil⟩

lemma Metered.later (h : Metered window maxRequests now c) (hn : now ≤ now') : Metered window maxRequests now' c :=
  fun peer => (h peer).later hn

/-- **A request** that asks the limiter keeps them spread out. -/
lemma Metered.ask (hpos : 0 < maxRequests) (h : Metered window maxRequests now c) (peer : Peer) :
    Metered window maxRequests now (c.ask window maxRequests now peer).2 := by
  intro other
  unfold Counter.ask Counter.times
  simp only
  by_cases ho : other = peer
  · subst ho
    cases hl : (isLimited window c.buckets now other maxRequests).1 with
    | true =>
      rw [if_pos rfl]
      exact (h other).limited hl
    | false =>
      simp only [Bool.false_eq_true, if_false, List.filter_append, List.map_append]
      have hadmit := Tracks.admit (h other) hpos hl
      unfold Counter.times at hadmit
      simpa using hadmit
  · have hsame : ((if (isLimited window c.buckets now peer maxRequests).1 = true then c.passed
        else c.passed ++ [(now, peer)]).filter fun p => decide (p.2 = other)) =
          c.passed.filter fun p => decide (p.2 = other) := by
      split_ifs
      · rfl
      · simp [List.filter_append, Ne.symm ho]
    rw [hsame, isLimited_of_ne ho]
    exact h other

/-- How many clients and how many tokens an action can add. -/
def registers : Action → ℕ
  | .register _ _ => 1
  | _ => 0

def issues : Action → ℕ
  | .codeGrant _ _ _ | .refreshGrant _ _ _ => 1
  | _ => 0

lemma step_clients_length (st : OAuth.State) (a : Action) :
    (OAuth.step O st a).store.clients.length ≤ st.store.clients.length + registers a := by
  cases step_registers (σ := O) st a with
  | kept hk =>
    have hle := hk.names.length_le
    rw [List.length_map, List.length_map] at hle
    omega
  | registered _ hcl =>
    rw [hcl, List.length_append, List.length_singleton]
    rfl

lemma step_issued_length (st : OAuth.State) (a : Action) :
    (issuedTokens (OAuth.step O st a).log).length ≤ (issuedTokens st.log).length + issues a := by
  have hone : ∀ i : Issue, (issuedTokens (st.log ++ [i])).length ≤ (issuedTokens st.log).length + 1 := by
    intro i
    rw [issuedTokens_append, List.length_append]
    have hle : (issuedTokens [i]).length ≤ 1 := List.length_filterMap_le _ _
    omega
  cases a with
  | register clientId data =>
    simp only [OAuth.step, stepRegister]
    split <;> exact le_rfl
  | authorize req =>
    simp only [OAuth.step, stepAuthorize]
    split
    · rw [issuedTokens_append, List.length_append]
      exact le_rfl
    · exact le_rfl
  | codeGrant client code req =>
    simp only [OAuth.step, stepCode]
    cases (pkceCodeGrant O st.store st.now client code req).2 with
    | error e => exact Nat.le_add_right _ _
    | ok r => exact hone _
  | refreshGrant client token req =>
    simp only [OAuth.step, stepRefresh]
    cases (rotatingRefreshGrant O st.store st.now client token req).2 with
    | error e => exact Nat.le_add_right _ _
    | ok r => exact hone _
  | actionRevoke isAdmin ids => cases isAdmin <;> exact le_rfl
  | gcOauth => exact le_rfl
  | actionDeactivate isAdmin ids => cases isAdmin <;> exact le_rfl
  | actionActivate isAdmin ids => cases isAdmin <;> exact le_rfl
  | tick seconds => exact le_rfl

lemma tokenStep_length (st : OAuth.State) (clientId : String) (p : GrantParam) (req : TokenRequest) :
    (tokenStep O st clientId p req).store.clients.length ≤ st.store.clients.length ∧
      (issuedTokens (tokenStep O st clientId p req).log).length ≤ (issuedTokens st.log).length + 1 := by
  unfold tokenStep
  cases authenticateClient st.store clientId p with
  | error e => exact ⟨le_rfl, Nat.le_add_right _ _⟩
  | ok client => cases p <;> exact ⟨step_clients_length _ _, step_issued_length _ _⟩

lemma ask_passed {limited : Bool} {peer : Peer} {c' : Counter}
    (h : c.ask window maxRequests now peer = (limited, c')) :
    c'.passed.length = c.passed.length + if limited then 0 else 1 := by
  obtain ⟨rfl, rfl⟩ := Prod.mk.inj h
  simp only
  split_ifs
  · rfl
  · exact List.length_append

/-- The limiters of OAuth, and how many clients were added and tokens issued. -/
structure Sparing (clients : ℕ) (s : DoorState σ) : Prop where
  registrations : Metered dcrWindowSeconds dcrMaxRegistrations s.flow.now s.registrations
  tokenRequests : Metered tokenWindowSeconds tokenMaxRequests s.flow.now s.tokenRequests
  added : s.oauth.store.clients.length ≤ clients + s.registrations.passed.length
  issued : (issuedTokens s.oauth.log).length ≤ s.tokenRequests.passed.length

variable {clients : ℕ}

/-- **One visit** keeps to the limiters. -/
lemma Sparing.visit (h : Sparing clients s) (D : Deployment σ) (v : Visit) :
    Sparing clients (serveVisit O D s v).2 := by
  have hchange := serveVisit_change O D s v
  generalize (serveVisit O D s v).2 = s' at hchange
  cases hchange with
  | behind auth flow db _ clock => exact ⟨clock ▸ h.registrations, clock ▸ h.tokenRequests, h.added, h.issued⟩
  | @authorized req action =>
    have hclients := step_clients_length (O := O) s.oauth (.authorize req)
    have hissued := step_issued_length (O := O) s.oauth (.authorize req)
    exact ⟨h.registrations, h.tokenRequests, hclients.trans h.added, hissued.trans h.issued⟩
  | @token remoteAddr clientId p req limited c asked action =>
    have hmetered := h.tokenRequests.ask (by decide) (D.peer remoteAddr)
    rw [asked] at hmetered
    have hpassed := ask_passed asked
    have hadded := h.added
    have hissued := h.issued
    obtain ⟨hclients, htokens⟩ := tokenStep_length (O := O) s.oauth clientId p req
    refine ⟨h.registrations, hmetered, ?_, ?_⟩
    · cases limited with
      | true => exact hadded
      | false => exact hclients.trans hadded
    · cases limited with
      | true =>
        simp only [if_true] at hpassed ⊢
        omega
      | false =>
        simp only [Bool.false_eq_true, if_false] at hpassed ⊢
        omega
  | @registered remoteAddr clientId data limited c asked action =>
    have hmetered := h.registrations.ask (by decide) (D.peer remoteAddr)
    rw [asked] at hmetered
    have hpassed := ask_passed asked
    have hadded := h.added
    have hissued := h.issued
    have hclients := step_clients_length (O := O) s.oauth (.register clientId data)
    have htokens := step_issued_length (O := O) s.oauth (.register clientId data)
    simp only [registers, issues] at hclients htokens
    refine ⟨hmetered, h.tokenRequests, ?_, ?_⟩
    · cases limited with
      | true =>
        simp only [if_true] at hpassed ⊢
        omega
      | false =>
        simp only [Bool.false_eq_true, if_false] at hpassed ⊢
        omega
    · cases limited with
      | true => exact hissued
      | false => exact htokens.trans hissued

lemma Sparing.upkeep (h : Sparing clients s) (u : Upkeep σ) : Sparing clients (serveUpkeep O s u) := by
  cases u with
  | maintain m =>
    have hclients := step_clients_length (O := O) s.oauth m.action
    have hissued := step_issued_length (O := O) s.oauth m.action
    have hnone : registers m.action = 0 ∧ issues m.action = 0 := by cases m <;> exact ⟨rfl, rfl⟩
    rw [hnone.1] at hclients
    rw [hnone.2] at hissued
    exact ⟨h.registrations, h.tokenRequests, hclients.trans h.added, hissued.trans h.issued⟩
  | _ => exact ⟨h.registrations, h.tokenRequests, h.added, h.issued⟩

/-- **What one address gets.**  In every run, no hour holds more than 20 registrations that one address was let
make, and no minute more than 60 of its token requests that were let pass; and there are no more new clients, and no
more tokens were issued, than requests were let pass there. -/
theorem endpoints_metered (h0 : (doors O).init s₀) (hrun : (doors O).Run s₀ ls s) :
    (∀ peer a, inWindow dcrWindowSeconds a (s.registrations.times peer) ≤ 20 ∧
      inWindow tokenWindowSeconds a (s.tokenRequests.times peer) ≤ 60) ∧
    s.oauth.store.clients.length ≤ s₀.oauth.store.clients.length + s.registrations.passed.length ∧
    (issuedTokens s.oauth.log).length ≤ s.tokenRequests.passed.length := by
  have hstart : Sparing s₀.oauth.store.clients.length s₀ := by
    obtain ⟨⟨-, -, -, hlog, -⟩, hregistrations, htokens⟩ := h0
    refine ⟨?_, ?_, Nat.le_add_right _ _, ?_⟩
    · rw [hregistrations]
      exact metered_empty
    · rw [htokens]
      exact metered_empty
    · rw [hlog]
      exact Nat.zero_le _
  have hend : Sparing s₀.oauth.store.clients.length s := by
    refine hrun.stable (I := fun s => Sparing s₀.oauth.store.clients.length s) (fun s l s' _ hs hst => ?_)
      (.init h0) hstart
    obtain ⟨now, e⟩ := l
    obtain ⟨hnow, -, rfl⟩ := hst
    have hat : Sparing s₀.oauth.store.clients.length (s.at now) :=
      ⟨hs.registrations.later hnow, hs.tokenRequests.later hnow, hs.added, hs.issued⟩
    cases e with
    | visit D v => exact hat.visit D v
    | upkeep u => exact hat.upkeep u
  refine ⟨fun peer a => ⟨?_, ?_⟩, hend.added, hend.issued⟩
  · exact (hend.registrations peer).admitted.window_le a
  · exact (hend.tokenRequests peer).admitted.window_le a

/-- After one registration. -/
theorem endpoints_metered_register : inWindow dcrWindowSeconds 0
    ((serveVisit sampleSite (saleDeployment true) (saleStart.at 1)
      (.register "203.0.113.7" "mcp-client-1" ⟨["http://127.0.0.1:8765/cb"], "Claude", ""⟩)).2.registrations.times
        ⟨"erp", "203.0.113.7"⟩) ≤ 20 := by
  have hfresh : ∀ a, oauthAction (saleStart.at 1) (.visit (saleDeployment true)
      (.register "203.0.113.7" "mcp-client-1" ⟨["http://127.0.0.1:8765/cb"], "Claude", ""⟩)) = some a →
        Fresh saleStart.oauth a := by
    intro a h
    obtain rfl := Option.some.inj h
    exact ⟨List.nodup_nil, fun x hx => absurd hx List.not_mem_nil⟩
  have hrun : (doors sampleSite).Run saleStart [(1, .visit (saleDeployment true)
      (.register "203.0.113.7" "mcp-client-1" ⟨["http://127.0.0.1:8765/cb"], "Claude", ""⟩))] _ :=
    .cons ⟨by decide, hfresh, rfl⟩ (.nil _)
  exact ((endpoints_metered ⟨sampleInit_isInit, rfl, rfl⟩ hrun).1 _ 0).1

end AdvMcp.Server
