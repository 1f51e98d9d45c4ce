import AdvMcp.OAuth.Possession
import AdvMcp.OAuth.Redirects

/-!
# Where the authorize endpoint sends the browser

The clients of a run, and the addresses of its redirects.

* `step_registers` — an action registers one client, or no row changes but in `active`;
* `Registration` — where the row of a client comes from, over a whole run (`client_registered`);
* `authorizeReply` — the reply of the authorize endpoint: a page with an error, or a redirect, to which
  `_add_issuer` adds who answers;
* `redirect_registered` — every redirect goes to an address that its client was registered with.
-/

namespace AdvMcp.OAuth

open AdvMcp.Lib AdvMcp.Py

variable {σ : Site} {s s₀ : State} {st st' : Store} {now : Time} {as : List Action} {a : Action}

/-! ### The clients of a run -/

/-- The endpoints other than the registration leave the clients alone. -/
lemma stepAuthorize_clients (req : AuthorizeRequest) :
    (stepAuthorize σ s req).store.clients = s.store.clients := by
  unfold stepAuthorize
  cases hr : authorize σ s.store s.now req with
  | error e => rfl
  | ok r =>
    obtain ⟨_, _, -, -, he⟩ := authorize_spec hr
    simp only [(Prod.mk.inj he).1]

lemma pkceCodeGrant_clients {client : ClientRow} {code : String} {req : TokenRequest} :
    (pkceCodeGrant σ st now client code req).1.clients = st.clients := by
  rcases pkceCodeGrant_cases σ st now client code req with ⟨-, e, h⟩ | ⟨c, e, -, h⟩ | ⟨c, audience, -, h⟩
  · obtain ⟨p, hp⟩ := detectReuse_revokes σ st code
    rw [h, hp]
    rfl
  · rw [h]
  · rw [h]

lemma rotatingRefreshGrant_clients {client : ClientRow} {token : String} {req : TokenRequest} :
    (rotatingRefreshGrant σ st now client token req).1.clients = st.clients := by
  rcases rotatingRefreshGrant_cases σ st now client token req with ⟨-, e, h⟩ | ⟨old, e, -, h⟩ | ⟨old, -, -, h⟩
  · obtain ⟨p, hp⟩ := detectRefreshReuse_revokes σ st token
    rw [h, hp]
    rfl
  · rw [h]
  · rw [h]

/-- The rows are those that were there, but for `active`, and in their order. -/
structure RowsKept (st st' : Store) : Prop where
  rows : ∀ c ∈ st'.clients, ∃ c₀ ∈ st.clients, c = { c₀ with active := c.active }
  names : (st'.clients.map (·.clientId)).Sublist (st.clients.map (·.clientId))

lemma RowsKept.of_sublist (h : st'.clients.Sublist st.clients) : RowsKept st st' :=
  ⟨fun c hc => ⟨c, h.subset hc, rfl⟩, h.map _⟩

lemma RowsKept.of_eq (h : st'.clients = st.clients) : RowsKept st st' := .of_sublist (h ▸ List.Sublist.refl _)

lemma RowsKept.switched (ids : List ℕ) (b : Bool) : RowsKept st (setActive st ids b) := by
  refine ⟨fun c hc => ?_, ?_⟩
  · obtain ⟨c₀, h0, rfl⟩ := mem_updateWhere.1 hc
    refine ⟨c₀, h0, ?_⟩
    split_ifs <;> rfl
  · have hnames : (setActive st ids b).clients.map (·.clientId) = st.clients.map (·.clientId) :=
      map_updateWhere ClientRow.clientId fun c => rfl
    rw [hnames]

/-- An action registers one client, or keeps the rows. -/
inductive Registers (σ : Site) (s : State) : Action → Store → Prop
  | kept {a : Action} {st : Store} : RowsKept s.store st → Registers σ s a st
  | registered {clientId : String} {data : ClientMetadata} {c : ClientRow} {st : Store} :
    saveClient σ s.store s.now clientId data = .ok (st, c) → st.clients = s.store.clients ++ [c] →
      Registers σ s (.register clientId data) st

/-- **What an action does to the clients.** -/
lemma step_registers (s : State) (a : Action) : Registers σ s a (step σ s a).store := by
  cases a with
  | register clientId data =>
    simp only [step, stepRegister]
    cases hr : saveClient σ s.store s.now clientId data with
    | error e => exact .kept (.of_eq rfl)
    | ok r => exact .registered hr (saveClient_spec hr).2.2.2.1
  | authorize req => exact .kept (.of_eq (stepAuthorize_clients req))
  | codeGrant client code req => exact .kept (.of_eq pkceCodeGrant_clients)
  | refreshGrant client token req => exact .kept (.of_eq rotatingRefreshGrant_clients)
  | actionRevoke isAdmin ids => cases isAdmin <;> exact .kept (.of_eq rfl)
  | gcOauth => exact .kept (.of_sublist (gcOauth_deletes s.store s.now).1)
  | actionDeactivate isAdmin ids =>
    cases isAdmin with
    | false => exact .kept (.of_eq rfl)
    | true => exact .kept (.switched ids false)
  | actionActivate isAdmin ids =>
    cases isAdmin with
    | false => exact .kept (.of_eq rfl)
    | true => exact .kept (.switched ids true)
  | tick seconds => exact .kept (.of_eq rfl)

/-- A registration asks for a new name, and stores what was asked for. -/
lemma saveClient_row {clientId : String} {data : ClientMetadata} {c : ClientRow}
    (h : saveClient σ st now clientId data = .ok (st', c)) :
    c.clientId = clientId ∧ clientId ∉ st.clients.map (·.clientId) ∧ c.clientName = data.clientName ∧
      c.scope = normalizeScope data.scope := by
  unfold saveClient at h
  cases hu : data.redirectUris.forM (checkRedirectUri σ) with
  | error e =>
    rw [hu] at h
    split_ifs at h
  | ok _ =>
    rw [hu] at h
    simp only at h
    split_ifs at h with _ _ _ _ hnew
    obtain ⟨-, rfl⟩ := Prod.mk.inj (Except.ok.inj h)
    refine ⟨rfl, fun hm => hnew ?_, rfl, rfl⟩
    obtain ⟨c₀, h0, he⟩ := List.mem_map.1 hm
    exact List.any_eq_true.2 ⟨c₀, h0, decide_eq_true he⟩

/-- Where a client comes from: it was there at the start, or a registration of the run made it. -/
inductive Registration (σ : Site) (s₀ : State) (as : List Action) : ClientRow → Prop
  | start {c : ClientRow} : c ∈ s₀.store.clients → Registration σ s₀ as c
  | registered {before later : List Action} {clientId : String} {data : ClientMetadata} {c : ClientRow}
    {st : Store} (split : as = before ++ .register clientId data :: later)
    (saved : saveClient σ (s₀.after σ before).store (s₀.after σ before).now clientId data = .ok (st, c)) :
    Registration σ s₀ as c

lemma Registration.later {c : ClientRow} (h : Registration σ s₀ as c) (a : Action) :
    Registration σ s₀ (as ++ [a]) c := by
  cases h with
  | start h => exact .start h
  | @registered before later clientId data _ st split saved =>
    have hsplit : as ++ [a] = before ++ .register clientId data :: (later ++ [a]) := by
      rw [split, List.append_assoc, List.cons_append]
    exact .registered hsplit saved

/-- **The clients of a run**: every row comes from the start or from a registration, and only `active` has
changed since. -/
theorem client_registered (as : List Action) : ∀ c ∈ (s₀.after σ as).store.clients,
    ∃ c₀, Registration σ s₀ as c₀ ∧ c = { c₀ with active := c.active } := by
  induction as using List.reverseRecOn with
  | nil => exact fun c hc => ⟨c, .start hc, rfl⟩
  | append_singleton as a ih =>
    intro c hc
    rw [after_snoc] at hc
    have hkept : (∃ c₀ ∈ (s₀.after σ as).store.clients, c = { c₀ with active := c.active }) →
        ∃ c₀, Registration σ s₀ (as ++ [a]) c₀ ∧ c = { c₀ with active := c.active } := by
      rintro ⟨c₁, h1, he⟩
      obtain ⟨c₀, h0, he0⟩ := ih c₁ h1
      refine ⟨c₀, h0.later a, ?_⟩
      rw [he, he0]
    cases step_registers (σ := σ) (s₀.after σ as) a with
    | kept h => exact hkept (h.rows c hc)
    | @registered clientId data c' st hr hcl =>
      rw [hcl] at hc
      rcases List.mem_append.1 hc with hc | hc
      · exact hkept ⟨c, hc, rfl⟩
      · obtain rfl := List.mem_singleton.1 hc
        have hsplit : as ++ [.register clientId data] = as ++ .register clientId data :: [] := rfl
        exact ⟨c, .registered hsplit hr, rfl⟩

/-- The names of clients stay distinct. -/
lemma names_nodup (h : (s₀.store.clients.map (·.clientId)).Nodup) (as : List Action) :
    ((s₀.after σ as).store.clients.map (·.clientId)).Nodup := by
  induction as using List.reverseRecOn with
  | nil => exact h
  | append_singleton as a ih =>
    rw [after_snoc]
    cases step_registers (σ := σ) (s₀.after σ as) a with
    | kept hk => exact hk.names.nodup ih
    | @registered clientId data c st hr hcl =>
      obtain ⟨hname, hnew, -⟩ := saveClient_row hr
      rw [hcl, List.map_append, List.nodup_append]
      refine ⟨ih, List.nodup_singleton _, fun x hx y hy he => hnew ?_⟩
      obtain rfl := List.mem_singleton.1 hy
      have hsame : clientId = x := hname.symm.trans he.symm
      rw [hsame]
      exact hx

/-! ### The reply of the authorize endpoint -/

/-- What authlib does with addresses: `add_params_to_uri`, and the parameters that it sends if the user denies. -/
structure Addresses where
  addParamsToUri : String → List (String × String) → String
  denied : HttpRequest → List (String × String)

/-- A reply: a page with an error, or a redirect. -/
inductive AuthorizeReply where
  | errorPage (status : ℕ) (headers : List (String × String)) (error : OAuth2Error)
  | redirect (location : String)

/-- `_security_headers` -/
def securityHeaders : List (String × String) :=
  [("X-Frame-Options", "DENY"), ("Content-Security-Policy", "frame-ancestors 'none'"),
    ("Cache-Control", "no-store")]

/-- `_render_authorize_error` -/
def renderAuthorizeError (error : OAuth2Error) : AuthorizeReply := .errorPage 400 securityHeaders error

/-- The parameters that authlib sends with a code. -/
def codeParams (req : AuthorizeRequest) : List (String × String) :=
  ("code", req.code) :: if req.http.field "state" = "" then [] else [("state", req.http.field "state")]

section Reply

variable (A : Addresses) (σ)

/-- `_add_issuer` -/
def addIssuer (location : String) : String :=
  if location = "" then location else A.addParamsToUri location [("iss", σ.baseUrl)]

/-- `AdvOAuthController.authorize`: the reply. -/
def authorizeReply (st : Store) (now : Time) (req : AuthorizeRequest) : AuthorizeReply :=
  match getConsentGrant σ st req with
  | .error e => renderAuthorizeError e
  | .ok (_, uri) =>
    match authorize σ st now req with
    | .ok _ => .redirect (addIssuer σ A (A.addParamsToUri uri (codeParams req)))
    | .error .accessDenied => .redirect (addIssuer σ A (A.addParamsToUri uri (A.denied req.http)))
    | .error e => renderAuthorizeError e

/-- The address stood in the row of the client at the start, or it is a part, between white space, of a URI that
was submitted at its registration, and allowed. -/
inductive Submitted (s₀ : State) (as : List Action) (client : ClientRow) (uri : String) : Prop
  | start {c : ClientRow} (there : c ∈ s₀.store.clients) (same : client = { c with active := client.active })
    (listed : uri ∈ c.redirectUriList)
  | registered {before later : List Action} {data : ClientMetadata} {submitted : String}
    (run : as = before ++ .register client.clientId data :: later) (member : submitted ∈ data.redirectUris)
    (allowed : isAllowedRedirectUri σ submitted = true) (part : uri ∈ split submitted)

/-- The request is of this one client, which is active, and is answered at this address of it. -/
structure SentTo (s₀ : State) (as : List Action) (req : AuthorizeRequest) (client : ClientRow) (uri : String) :
    Prop where
  known : client ∈ (s₀.after σ as).store.clients
  named : client.clientId = req.http.field "client_id"
  only : ∀ c ∈ (s₀.after σ as).store.clients, c.clientId = req.http.field "client_id" → c = client
  active : client.active = true
  asked : req.http.field "redirect_uri" ≠ "" → uri = req.http.field "redirect_uri"
  allowed : isAllowedRedirectUri σ uri = true
  submitted : Submitted σ s₀ as client uri

end Reply

variable {A : Addresses} {req : AuthorizeRequest} {client : ClientRow} {uri : String}

lemma getConsentGrant_ok (h : getConsentGrant σ st req = .ok (client, uri)) :
    queryClient st (req.http.field "client_id") = some client ∧
      grantRedirectUri client (req.http.field "redirect_uri") = some uri := by
  unfold getConsentGrant at h
  cases hq : queryClient st (req.http.field "client_id") with
  | none =>
    rw [hq] at h
    cases h
  | some c =>
    cases hg : grantRedirectUri c (req.http.field "redirect_uri") with
    | none =>
      simp only [hq, hg] at h
      cases h
    | some u =>
      simp only [hq, hg] at h
      split_ifs at h
      obtain ⟨rfl, rfl⟩ := Prod.mk.inj (Except.ok.inj h)
      exact ⟨rfl, hg⟩

lemma grantRedirectUri_some {asked : String} (h : grantRedirectUri client asked = some uri) :
    uri ∈ client.redirectUriList ∧ (asked ≠ "" → uri = asked) := by
  unfold grantRedirectUri at h
  split_ifs at h with h0 hc
  · exact ⟨List.mem_of_head? h, fun hne => absurd h0 hne⟩
  · obtain rfl := Option.some.inj h
    exact ⟨of_decide_eq_true hc, fun _ => rfl⟩

/-- What is answered by a redirect has an address that is allowed. -/
lemma authorize_allowed (hg : getConsentGrant σ st req = .ok (client, uri))
    (h : ∀ e, authorize σ st now req = .error e → e = .accessDenied) : isAllowedRedirectUri σ uri = true := by
  rw [← Bool.not_eq_false]
  intro hno
  unfold authorize at h
  simp only [hg, hno, Bool.not_false, if_true] at h
  cases h _ rfl

/-- The address of a client's row is one that was submitted for it. -/
lemma submitted_of_listed (hc : client ∈ (s₀.after σ as).store.clients) (hu : uri ∈ client.redirectUriList) :
    Submitted σ s₀ as client uri := by
  obtain ⟨c₀, h0, he⟩ := client_registered as client hc
  have hlist : client.redirectUriList = c₀.redirectUriList := by
    rw [he]
    rfl
  rw [hlist] at hu
  cases h0 with
  | start h => exact .start h he hu
  | @registered before later clientId data _ st run saved =>
    obtain ⟨hcolumn, -, hallowed⟩ := saveClient_uris saved
    obtain ⟨hname, -⟩ := saveClient_row saved
    have hclient : client.clientId = clientId := by
      rw [he]
      exact hname
    unfold ClientRow.redirectUriList at hu
    rw [hcolumn] at hu
    obtain ⟨submitted, hm, hpart⟩ := (mem_split_join rfl (by decide)).1 hu
    exact .registered (hclient ▸ run) hm (hallowed submitted hm) hpart

/-- **Where redirects go.**  After any actions in any order, a redirect of the authorize endpoint goes to an
address of the one client that the request names, which is active: an allowed address, the one that the request
asks for, if it asks for one, and a part of a URI that was submitted for that client; it carries the code of that
client, or the denial.  Every other reply is a page with the error, which forbids to be framed and to be stored. -/
theorem redirect_registered (A : Addresses) (hnames : (s₀.store.clients.map (·.clientId)).Nodup)
    (as : List Action) (now : Time) (req : AuthorizeRequest) :
    (∀ location, authorizeReply σ A (s₀.after σ as).store now req = .redirect location →
      ∃ client uri params, SentTo σ s₀ as req client uri ∧
        location = addIssuer σ A (A.addParamsToUri uri params) ∧
        ((∃ st c, authorize σ (s₀.after σ as).store now req = .ok (st, client, c) ∧ params = codeParams req) ∨
          (authorize σ (s₀.after σ as).store now req = .error .accessDenied ∧ params = A.denied req.http))) ∧
    ∀ status headers e, authorizeReply σ A (s₀.after σ as).store now req = .errorPage status headers e →
      status = 400 ∧ headers = securityHeaders ∧ authorize σ (s₀.after σ as).store now req = .error e := by
  unfold authorizeReply
  cases hg : getConsentGrant σ (s₀.after σ as).store req with
  | error e =>
    refine ⟨fun location h => ?_, fun status headers e' h => ?_⟩
    · cases h
    · obtain ⟨rfl, rfl, rfl⟩ := AuthorizeReply.errorPage.inj h
      refine ⟨rfl, rfl, ?_⟩
      unfold authorize
      rw [hg]
  | ok r =>
    obtain ⟨client, uri⟩ := r
    have hsent : (∀ e, authorize σ (s₀.after σ as).store now req = .error e → e = .accessDenied) →
        SentTo σ s₀ as req client uri := by
      intro hdenied
      obtain ⟨hq, hr⟩ := getConsentGrant_ok hg
      obtain ⟨hlisted, hasked⟩ := grantRedirectUri_some hr
      have hfound := List.find?_some hq
      simp only [Bool.and_eq_true, decide_eq_true_eq] at hfound
      have hknown := List.mem_of_find?_eq_some hq
      refine ⟨hknown, hfound.1, fun c hc hname => ?_, hfound.2, hasked, authorize_allowed hg hdenied,
        submitted_of_listed hknown hlisted⟩
      exact List.inj_on_of_nodup_map (names_nodup hnames as) hc hknown (hname.trans hfound.1.symm)
    simp only
    cases ha : authorize σ (s₀.after σ as).store now req with
    | ok r =>
      obtain ⟨st, client', c⟩ := r
      obtain ⟨_, _, hg', -, -⟩ := authorize_spec ha
      obtain ⟨rfl, rfl⟩ := Prod.mk.inj (Except.ok.inj (hg.symm.trans hg'))
      refine ⟨fun location h => ?_, fun status headers e h => (by cases h)⟩
      obtain rfl := AuthorizeReply.redirect.inj h
      exact ⟨client, uri, codeParams req, hsent (by simp [ha]), rfl, Or.inl ⟨st, c, rfl, rfl⟩⟩
    | error e =>
      cases e with
      | accessDenied =>
        refine ⟨fun location h => ?_, fun status headers e h => (by cases h)⟩
        obtain rfl := AuthorizeReply.redirect.inj h
        exact ⟨client, uri, A.denied req.http, hsent (by simp [ha]), rfl, Or.inr ⟨rfl, rfl⟩⟩
      | _ =>
        refine ⟨fun location h => (by cases h), fun status headers e h => ?_⟩
        obtain ⟨rfl, rfl, rfl⟩ := AuthorizeReply.errorPage.inj h
        exact ⟨rfl, rfl, rfl⟩

/-! ### The reply to a sample request -/

/-- `add_params_to_uri` where only colons and slashes need a quote, and the parameters of a denial. -/
def queryAddresses : Addresses where
  addParamsToUri uri params :=
    uri ++ (if '?' ∈ uri.toList then "&" else "?") ++ join "&" (params.map fun p => p.1 ++ "=" ++
      String.ofList (p.2.toList.flatMap fun c =>
        if c = ':' then "%3A".toList else if c = '/' then "%2F".toList else [c]))
  denied _ := [("error", "access_denied")]

/-- The request in which user 2 authorizes the sample client. -/
def sampleConsent : AuthorizeRequest where
  http :=
    { method := .GET
      args := [("response_type", "code"), ("client_id", "mcp-client-1"), ("state", "s7"),
        ("code_challenge", "E9Melhoa2OwvFrEMTJguCHaoeK1t8URWbuGJSstw-cM"), ("code_challenge_method", "S256")]
      form := [] }
  user := 2
  code := "Sq1xCODE"
  consentOk := fun _ => true

/-- The code goes to the address that the client was registered with. -/
theorem redirect_registered_sample : ∃ client uri,
    SentTo sampleSite sampleInit [sampleRegister "adv"] sampleConsent client uri ∧
      "http://127.0.0.1:8765/cb?code=Sq1xCODE&state=s7&iss=https%3A%2F%2Ferp.example.com" =
        addIssuer sampleSite queryAddresses (queryAddresses.addParamsToUri uri (codeParams sampleConsent)) := by
  have hreply : authorizeReply sampleSite queryAddresses (sampleInit.after sampleSite [sampleRegister "adv"]).store
      1700000000 sampleConsent =
        .redirect "http://127.0.0.1:8765/cb?code=Sq1xCODE&state=s7&iss=https%3A%2F%2Ferp.example.com" := by
    rfl
  obtain ⟨client, uri, params, hsent, hloc, ⟨_, _, -, rfl⟩ | ⟨hdenied, -⟩⟩ :=
    (redirect_registered queryAddresses
      (show (sampleInit.store.clients.map (·.clientId)).Nodup from List.nodup_nil)
      [sampleRegister "adv"] 1700000000 sampleConsent).1 _ hreply
  · exact ⟨client, uri, hsent, hloc⟩
  · cases hdenied

end AdvMcp.OAuth
