import AdvMcp.OAuth.Change

/-!
# What the authorize endpoint checks and what it stores

The endpoint checks `code_challenge`, `code_challenge_method` and `resource` where the query string and
the form are merged, the query string first; `_save_code` stores them from the payload, which on POST is
the form alone.

* `Validated` — the code row is one that the checks would pass;
* `Unshadowed` — no parameter of the query string hides a bad one of the form;
* `authorize_validated` — the row that is saved is validated if and only if nothing is shadowed.
-/

namespace AdvMcp.OAuth

open AdvMcp.Lib

variable {σ : Site} {st st' : Store} {now : Time} {req : AuthorizeRequest} {client : ClientRow} {c : CodeRow}

/-- The row holds a resource of the server or none, and a challenge for S256. -/
structure Validated (σ : Site) (c : CodeRow) : Prop where
  resource : resourceAccepted σ c.resource = true
  challenge : c.codeChallenge ≠ ""
  method : c.codeChallengeMethod = "S256"

/-- On GET the challenge stands in the query string; on POST each parameter that the query string carries
passes with the form's own value too, a missing method standing for S256. -/
def Unshadowed (σ : Site) (r : HttpRequest) : Prop :=
  match r.method with
  | .GET => (r.args.lookup "code_challenge").isSome = true
  | .POST =>
    (r.args.lookup "resource" = none ∨ resourceAccepted σ (r.field "resource") = true) ∧
      (r.args.lookup "code_challenge" = none ∨ r.field "code_challenge" ≠ "") ∧
      (r.args.lookup "code_challenge_method" = none ∨ r.field "code_challenge_method" ∈ ["", "S256"])

/-! ### The checks -/

/-- What `authorize` has checked when it saves a code. -/
lemma authorize_checks (h : authorize σ st now req = .ok (st', client, c)) :
    (req.http.values.lookup "code_challenge").getD "" ≠ "" ∧
      (req.http.values.lookup "code_challenge_method").getD "S256" = "S256" ∧
      resourceAccepted σ ((req.http.values.lookup "resource").getD "") = true := by
  unfold authorize at h
  cases hc : getConsentGrant σ st req with
  | error e => simp [hc] at h
  | ok r =>
    obtain ⟨cl, uri⟩ := r
    rw [hc] at h
    simp only at h
    split_ifs at h with _ hp hr
    have hp' : pkceS256Present req.http = true := by simpa using hp
    unfold pkceS256Present at hp'
    simp only [Bool.and_eq_true, decide_eq_true_eq, ne_eq] at hp'
    exact ⟨hp'.1, hp'.2, by simpa using hr⟩

/-- What is stored of the parameters. -/
lemma authorize_row (h : authorize σ st now req = .ok (st', client, c)) :
    c.resource = req.http.field "resource" ∧ c.codeChallenge = req.http.field "code_challenge" ∧
      c.codeChallengeMethod = orElse (req.http.field "code_challenge_method") "S256" := by
  obtain ⟨uri, granted, -, -, hs⟩ := authorize_spec h
  obtain ⟨-, rfl⟩ := Prod.mk.inj hs
  exact ⟨rfl, rfl, rfl⟩

lemma orElse_s256 (method : String) : orElse method "S256" = "S256" ↔ method ∈ ["", "S256"] := by
  unfold orElse
  split_ifs with h0
  · simp [h0]
  · simp [h0]

/-- The row is validated exactly when the payload's own values pass. -/
lemma validated_iff_payload (h : authorize σ st now req = .ok (st', client, c)) :
    Validated σ c ↔ resourceAccepted σ (req.http.field "resource") = true ∧
      req.http.field "code_challenge" ≠ "" ∧ req.http.field "code_challenge_method" ∈ ["", "S256"] := by
  obtain ⟨hr, hc, hm⟩ := authorize_row h
  constructor
  · rintro ⟨h1, h2, h3⟩
    exact ⟨hr ▸ h1, hc ▸ h2, (orElse_s256 _).1 (hm ▸ h3)⟩
  · rintro ⟨h1, h2, h3⟩
    exact ⟨hr ▸ h1, hc ▸ h2, hm.trans ((orElse_s256 _).2 h3)⟩

/-! ### Merged and payload parameters -/

/-- A parameter that the query string lacks is the form's. -/
lemma values_of_none {r : HttpRequest} {name : String} (h : r.args.lookup name = none) :
    r.values.lookup name = r.form.lookup name := by
  unfold HttpRequest.values
  rw [List.lookup_append, h]
  rfl

/-- A parameter of the query string is the merged one. -/
lemma values_of_some {r : HttpRequest} {name v : String} (h : r.args.lookup name = some v) :
    r.values.lookup name = some v := by
  unfold HttpRequest.values
  rw [List.lookup_append, h]
  rfl

lemma field_get {r : HttpRequest} (h : r.method = .GET) (name : String) :
    r.field name = (r.args.lookup name).getD "" := by
  unfold HttpRequest.field HttpRequest.data
  rw [h]
  rfl

lemma field_post {r : HttpRequest} (h : r.method = .POST) (name : String) :
    r.field name = (r.form.lookup name).getD "" := by
  unfold HttpRequest.field HttpRequest.data
  rw [h]
  rfl

/-- On POST a parameter is the merged one if the query string lacks it. -/
lemma field_of_none {r : HttpRequest} (h : r.method = .POST) {name : String}
    (hn : r.args.lookup name = none) : r.field name = (r.values.lookup name).getD "" := by
  rw [field_post h, values_of_none hn]

/-! ### The stored row -/

/-- On GET the payload is the query string, so a parameter that it has was checked. -/
lemma authorize_get (h : authorize σ st now req = .ok (st', client, c)) (hm : req.http.method = .GET) :
    Validated σ c ↔ (req.http.args.lookup "code_challenge").isSome = true := by
  obtain ⟨hch, hmeth, hres⟩ := authorize_checks h
  rw [validated_iff_payload h]
  simp only [field_get hm]
  constructor
  · rintro ⟨-, h0, -⟩
    cases ha : req.http.args.lookup "code_challenge" with
    | none => rw [ha] at h0; exact absurd rfl h0
    | some v => rfl
  · intro hs
    refine ⟨?_, ?_, ?_⟩
    · cases ha : req.http.args.lookup "resource" with
      | none => rfl
      | some v => rw [values_of_some ha] at hres; exact hres
    · obtain ⟨v, hv⟩ := Option.isSome_iff_exists.1 hs
      rw [values_of_some hv] at hch
      rw [hv]
      exact hch
    · cases ha : req.http.args.lookup "code_challenge_method" with
      | none => simp
      | some v =>
        rw [values_of_some ha] at hmeth
        have hv : v = "S256" := hmeth
        simp [hv]

/-- On POST the payload is the form, and a parameter of the query string hides it from the checks. -/
lemma authorize_post (h : authorize σ st now req = .ok (st', client, c)) (hm : req.http.method = .POST) :
    Validated σ c ↔
      (req.http.args.lookup "resource" = none ∨ resourceAccepted σ (req.http.field "resource") = true) ∧
      (req.http.args.lookup "code_challenge" = none ∨ req.http.field "code_challenge" ≠ "") ∧
      (req.http.args.lookup "code_challenge_method" = none ∨
        req.http.field "code_challenge_method" ∈ ["", "S256"]) := by
  obtain ⟨hch, hmeth, hres⟩ := authorize_checks h
  rw [validated_iff_payload h]
  constructor
  · rintro ⟨h1, h2, h3⟩
    exact ⟨Or.inr h1, Or.inr h2, Or.inr h3⟩
  · rintro ⟨h1, h2, h3⟩
    refine ⟨h1.elim (fun hn => ?_) id, h2.elim (fun hn => ?_) id, h3.elim (fun hn => ?_) id⟩
    · rw [field_of_none hm hn]
      exact hres
    · rw [field_of_none hm hn]
      exact hch
    · rw [field_post hm]
      rw [values_of_none hn] at hmeth
      cases hf : req.http.form.lookup "code_challenge_method" with
      | none => simp
      | some v =>
        rw [hf] at hmeth
        have hv : v = "S256" := hmeth
        simp [hv]

/-- **What authorize stores.**  The row of a saved code is one that the checks would pass if and only if no
parameter of the query string shadows a bad one of the payload. -/
theorem authorize_validated (h : authorize σ st now req = .ok (st', client, c)) :
    Validated σ c ↔ Unshadowed σ req.http := by
  unfold Unshadowed
  cases hm : req.http.method with
  | GET => exact authorize_get h hm
  | POST => exact authorize_post h hm

/-! ### Parameters in the query string and in the form -/

/-- The tables after the registration of the sample client. -/
def registeredStore : Store := (step sampleSite sampleInit (sampleRegister "")).store

/-- The consent form of that client: the user allows it. -/
def consentForm : List (String × String) :=
  [("response_type", "code"), ("client_id", "mcp-client-1"),
    ("redirect_uri", "http://127.0.0.1:8765/cb"), ("decision", "allow")]

/-- The challenge of that client, and the resource that it names. -/
def challengeParams (resource : String) : List (String × String) :=
  [("code_challenge", "E9Melhoa2OwvFrEMTJguCHaoeK1t8URWbuGJSstw-cM"), ("code_challenge_method", "S256"),
    ("resource", resource)]

/-- User 2 posts a form, to a URL with a query string. -/
def postAuthorize (args form : List (String × String)) : AuthorizeRequest where
  http := { method := .POST, args := args, form := form }
  user := 2
  code := "Sq1xCODE"
  consentOk := fun _ => true

/-- With all the parameters in the form, a validated row is saved. -/
theorem authorize_validated_form : ∃ st' client c,
    authorize sampleSite registeredStore 1700000000 (postAuthorize []
      (consentForm ++ challengeParams "https://erp.example.com/mcp_server")) = .ok (st', client, c) ∧
    Validated sampleSite c := by
  obtain ⟨st', client, c, h⟩ : ∃ st' client c,
      authorize sampleSite registeredStore 1700000000 (postAuthorize []
        (consentForm ++ challengeParams "https://erp.example.com/mcp_server")) = .ok (st', client, c) :=
    ⟨_, _, _, rfl⟩
  exact ⟨st', client, c, h, (authorize_validated h).2 ⟨Or.inl rfl, Or.inl rfl, Or.inl rfl⟩⟩

/-- With the challenge and a resource of the server in the query string, and another resource in the form,
the code is saved without a challenge and for the other resource. -/
theorem shadowed_saved : ∃ st' client c,
    authorize sampleSite registeredStore 1700000000 (postAuthorize
      (challengeParams "https://erp.example.com/mcp_server")
      (consentForm ++ [("resource", "https://other.example/mcp")])) = .ok (st', client, c) ∧
    c.codeChallenge = "" ∧ c.resource = "https://other.example/mcp" ∧
    resourceAccepted sampleSite c.resource = false := by
  obtain ⟨st', client, c, h⟩ : ∃ st' client c,
      authorize sampleSite registeredStore 1700000000 (postAuthorize
        (challengeParams "https://erp.example.com/mcp_server")
        (consentForm ++ [("resource", "https://other.example/mcp")])) = .ok (st', client, c) := ⟨_, _, _, rfl⟩
  obtain ⟨hr, hc, -⟩ := authorize_row h
  refine ⟨st', client, c, h, hc, hr, ?_⟩
  rw [hr]
  decide

end AdvMcp.OAuth
