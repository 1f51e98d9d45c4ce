import AdvMcp.OAuth.Lineage

/-!
# How a bearer token is earned

The strings that the server hands out against those that it is handed, over whole runs.

* `Consented` — a signed-in user authorized a client earlier in the run, and a code was issued;
* `Redeemed` — the checks that a code passes when it is exchanged;
* `Earned` — a token was issued for the code string of that authorization, or for the refresh token string that
  went out with its predecessor;
* `bearer_earned` — every access token that is accepted was earned.
-/

namespace AdvMcp.OAuth

open AdvMcp.Lib

/-! ### Runs from a state -/

/-- The state after the actions. -/
def State.after (σ : Site) (s : State) (as : List Action) : State := as.foldl (step σ) s

section After

variable {σ : Site} {s : State} {as : List Action} {a : Action}

lemma after_snoc : s.after σ (as ++ [a]) = step σ (s.after σ as) a := List.foldl_concat _ _ _ _

lemma freshRun_snoc : FreshRun σ s (as ++ [a]) ↔ FreshRun σ s as ∧ Fresh (s.after σ as) a := by
  induction as generalizing s with
  | nil => exact ⟨fun h => ⟨trivial, h.1⟩, fun h => ⟨h.2, trivial⟩⟩
  | cons b as ih => exact (and_congr_right fun _ => ih).trans and_assoc.symm

lemma after_reachable (h0 : IsInit s) (h : FreshRun σ s as) : (machine σ).Reachable (s.after σ as) :=
  reachable_foldl h0 h

end After

/-! ### Earning -/

section Earning

variable (σ : Site) (s₀ : State)

/-- An authorization of the run issued the code. -/
def Consented (as : List Action) (req : AuthorizeRequest) (client : ClientRow) (c : CodeRow) : Prop :=
  ∃ before later st, as = before ++ .authorize req :: later ∧
    authorize σ (s₀.after σ before).store (s₀.after σ before).now req = .ok (st, client, c)

/-- The code is exchanged in time, by its client, with its redirect URI, with the verifier of its challenge, and
for a user who is active. -/
structure Redeemed (now : Time) (c : CodeRow) (client : ClientRow) (req : TokenRequest) : Prop where
  client : c.client = client.id
  unused : c.used = false
  inTime : now < c.expiresAt
  redirect : c.redirectUri = "" ∨ req.redirectUri = c.redirectUri
  method : c.codeChallengeMethod = "" ∨ c.codeChallengeMethod = "S256"
  verifier : req.verifierOk c = true
  active : req.userActive c.userId = true

/-- The last of the actions issued the token, with the strings of its request: for the code of the authorization,
by who had the string of the code, or for a token that was earned before, by who had its refresh token. -/
inductive Earned (asked : AuthorizeRequest) (consenting : ClientRow) (c : CodeRow) :
    List Action → TokenRow → TokenRequest → Prop
  | exchanged {as : List Action} {client : ClientRow} {req : TokenRequest} {st : Store} {t : TokenRow}
    (consent : Consented σ s₀ as asked consenting c) (redeemed : Redeemed (s₀.after σ as).now c client req)
    (grant : pkceCodeGrant σ (s₀.after σ as).store (s₀.after σ as).now client asked.code req =
      (st, .ok (c, t))) :
    Earned asked consenting c (as ++ [.codeGrant client asked.code req]) t req
  | refreshed {before later : List Action} {t₀ old t : TokenRow} {req₀ req : TokenRequest} {client : ClientRow}
    {st : Store} (earned : Earned asked consenting c before t₀ req₀) (copy : Copy t₀ old)
    (grant : rotatingRefreshGrant σ (s₀.after σ (before ++ later)).store (s₀.after σ (before ++ later)).now
      client req₀.refreshToken req = (st, .ok (old, t))) :
    Earned asked consenting c (before ++ later ++ [.refreshGrant client req₀.refreshToken req]) t req

end Earning

variable {σ : Site} {s₀ : State} {as : List Action} {asked : AuthorizeRequest} {consenting client : ClientRow}
  {c : CodeRow} {t old : TokenRow} {req : TokenRequest} {st st' : Store} {now : Time} {code token : String}

/-- What the code grant has checked when it issues a token. -/
lemma pkceCodeGrant_ok (h : pkceCodeGrant σ st now client code req = (st', .ok (c, t))) :
    getValidCode σ st now code client.id = some c ∧ Redeemed now c client req ∧
      ∃ audience, t = firstToken σ st now client c req audience := by
  have hchecked : ∀ c', getValidCode σ st now code client.id = some c' →
      ¬ (c'.redirectUri ≠ "" ∧ req.redirectUri ≠ c'.redirectUri) ∧
        validateCodeVerifier c' req = .ok () ∧ req.userActive c'.userId = true := by
    intro c' hv
    unfold pkceCodeGrant queryAuthorizationCode at h
    rw [hv] at h
    simp only at h
    by_cases hr : c'.redirectUri ≠ "" ∧ req.redirectUri ≠ c'.redirectUri
    · rw [if_pos hr] at h
      cases (Prod.mk.inj h).2
    rw [if_neg hr] at h
    cases hverifier : validateCodeVerifier c' req with
    | error e =>
      rw [hverifier] at h
      cases (Prod.mk.inj h).2
    | ok u =>
      rw [hverifier] at h
      by_cases hu : req.userActive c'.userId = true
      · exact ⟨hr, rfl, hu⟩
      · simp only [hu, Bool.not_false, if_true] at h
        cases (Prod.mk.inj h).2
  rcases pkceCodeGrant_cases σ st now client code req with
    ⟨-, e, he⟩ | ⟨c', e, -, he⟩ | ⟨c', audience, hv, he⟩
  · rw [he] at h
    cases (Prod.mk.inj h).2
  · rw [he] at h
    cases (Prod.mk.inj h).2
  · rw [he] at h
    obtain ⟨rfl, rfl⟩ := Prod.mk.inj (Except.ok.inj (Prod.mk.inj h).2)
    obtain ⟨-, -, hclient, hunused, htime⟩ := getValidCode_spec hv
    obtain ⟨hredirect, hverifier, hactive⟩ := hchecked c' hv
    unfold validateCodeVerifier at hverifier
    split_ifs at hverifier with hm hok
    refine ⟨hv, ⟨hclient, hunused, htime, by tauto, by tauto, by simpa using hok, hactive⟩, audience, rfl⟩

/-- What the refresh grant has checked when it issues a token. -/
lemma rotatingRefreshGrant_ok (h : rotatingRefreshGrant σ st now client token req = (st', .ok (old, t))) :
    getValidRefreshToken σ st now token = some old ∧ old.client = client.id ∧
      t = successor σ st now client old req := by
  rcases rotatingRefreshGrant_cases σ st now client token req with
    ⟨-, e, he⟩ | ⟨old', e, -, he⟩ | ⟨old', hv, hclient, he⟩
  · rw [he] at h
    cases (Prod.mk.inj h).2
  · rw [he] at h
    cases (Prod.mk.inj h).2
  · rw [he] at h
    obtain ⟨rfl, rfl⟩ := Prod.mk.inj (Except.ok.inj (Prod.mk.inj h).2)
    exact ⟨hv, hclient, rfl⟩

/-! ### What an earned token carries -/

lemma Consented.mono (h : Consented σ s₀ as asked consenting c) (more : List Action) :
    Consented σ s₀ (as ++ more) asked consenting c := by
  obtain ⟨before, later, st, rfl, hc⟩ := h
  exact ⟨before, later ++ more, st, by simp, hc⟩

/-- The code of an authorization, on the side of the server. -/
lemma Consented.row (h : Consented σ s₀ as asked consenting c) :
    c.codeHash = σ.sha256Hex asked.code ∧ c.userId = asked.user ∧ c.client = consenting.id := by
  obtain ⟨before, later, st, -, hc⟩ := h
  obtain ⟨uri, granted, -, -, hs⟩ := authorize_spec hc
  obtain ⟨-, rfl⟩ := Prod.mk.inj hs
  exact ⟨rfl, rfl, rfl⟩

/-- The strings of the request are those under whose hashes the token is stored, and the token is good for an hour
from then on. -/
lemma Earned.strings (h : Earned σ s₀ asked consenting c as t req) :
    t.accessTokenHash = σ.sha256Hex req.accessToken ∧
      (∀ k, t.refreshTokenHash = some k → k = σ.sha256Hex req.refreshToken) ∧
        t.accessExpiresAt = (s₀.after σ as).now + accessTokenExpiresIn := by
  have hsome : ∀ (r : Option String) (x k : String), (r.filter (· ≠ "")).map σ.sha256Hex = some k →
      (∀ y, r = some y → y = x) → k = σ.sha256Hex x := by
    intro r x k hk hr
    obtain ⟨y, hy, rfl⟩ := Option.map_eq_some_iff.1 hk
    rw [hr y (Option.filter_eq_some_iff.1 hy).1]
  cases h with
  | @exchanged as client _ st _ consent redeemed grant =>
    obtain ⟨-, -, audience, rfl⟩ := pkceCodeGrant_ok grant
    refine ⟨rfl, fun k hk => hsome _ _ _ hk fun y hy => ?_, ?_⟩
    · unfold generateToken at hy
      simp only at hy
      split_ifs at hy
      exact (Option.some.inj hy).symm
    · rw [after_snoc]
      rfl
  | @refreshed before later t₀ old _ req₀ _ client st earned copy grant =>
    obtain ⟨-, -, rfl⟩ := rotatingRefreshGrant_ok grant
    refine ⟨rfl, fun k hk => hsome _ _ _ hk fun y hy => (Option.some.inj hy).symm, ?_⟩
    rw [after_snoc]
    rfl

/-- **An earned token** is of the user who consented, of the client that was authorized, and of the scope that was
granted. -/
theorem Earned.carries (h : Earned σ s₀ asked consenting c as t req) :
    Consented σ s₀ as asked consenting c ∧ t.userId = asked.user ∧ t.client = consenting.id ∧
      t.scope = c.scope := by
  induction h with
  | @exchanged as client req st t consent redeemed grant =>
    obtain ⟨-, -, audience, rfl⟩ := pkceCodeGrant_ok grant
    obtain ⟨-, huser, hclient⟩ := consent.row
    exact ⟨consent.mono _, huser, redeemed.client.symm.trans hclient, rfl⟩
  | @refreshed before later t₀ old t req₀ req client st earned copy grant ih =>
    obtain ⟨-, hclient, rfl⟩ := rotatingRefreshGrant_ok grant
    obtain ⟨hconsent, huser, hcl, hscope⟩ := ih
    have hold : old.userId = t₀.userId ∧ old.client = t₀.client ∧ old.scope = t₀.scope := by
      rw [copy]
      exact ⟨rfl, rfl, rfl⟩
    refine ⟨?_, hold.1.trans huser, hclient.symm.trans (hold.2.1.trans hcl), hold.2.2.trans hscope⟩
    rw [List.append_assoc]
    exact hconsent.mono _

/-! ### Every token is earned -/

/-- What the record says happened in the run. -/
structure Told (σ : Site) (s₀ : State) (as : List Action) : Prop where
  consented : ∀ req client c, .authorized req client c ∈ (s₀.after σ as).log → Consented σ s₀ as req client c
  earned : ∀ t ∈ issuedTokens (s₀.after σ as).log, ∃ asked consenting c before later req,
    as = before ++ later ∧ Earned σ s₀ asked consenting c before t req

/-- A step that issues nothing. -/
lemma Told.quiet {a : Action} (h : Told σ s₀ as) (hl : (s₀.after σ (as ++ [a])).log = (s₀.after σ as).log) :
    Told σ s₀ (as ++ [a]) := by
  refine ⟨fun req client c hi => ?_, fun t ht => ?_⟩
  · rw [hl] at hi
    exact (h.consented req client c hi).mono _
  · rw [hl] at ht
    obtain ⟨asked, consenting, c, before, later, req, rfl, he⟩ := h.earned t ht
    exact ⟨asked, consenting, c, before, later ++ [a], req, List.append_assoc _ _ _, he⟩

/-- A step that issues a code. -/
lemma Told.authorized {req : AuthorizeRequest} {client : ClientRow} (h : Told σ s₀ as)
    (hc : authorize σ (s₀.after σ as).store (s₀.after σ as).now req = .ok (st, client, c))
    (hl : (s₀.after σ (as ++ [.authorize req])).log = (s₀.after σ as).log ++ [.authorized req client c]) :
    Told σ s₀ (as ++ [.authorize req]) := by
  refine ⟨fun req' client' c' hi => ?_, fun t ht => ?_⟩
  · rw [hl] at hi
    rcases List.mem_append.1 hi with hi | hi
    · exact (h.consented req' client' c' hi).mono _
    · obtain ⟨rfl, rfl, rfl⟩ := Issue.authorized.inj (List.mem_singleton.1 hi)
      exact ⟨as, [], st, rfl, hc⟩
  · rw [hl, issuedTokens_append] at ht
    obtain ⟨asked, consenting, c', before, later, req', rfl, he⟩ :=
      h.earned t ((List.mem_append.1 ht).resolve_right List.not_mem_nil)
    exact ⟨asked, consenting, c', before, later ++ [.authorize req], req', List.append_assoc _ _ _, he⟩

/-- A step that issues a token which it earned. -/
lemma Told.issued {a : Action} {i : Issue} (h : Told σ s₀ as) (hi : i.token? = some t)
    (hl : (s₀.after σ (as ++ [a])).log = (s₀.after σ as).log ++ [i])
    (he : ∃ asked consenting c, Earned σ s₀ asked consenting c (as ++ [a]) t req) : Told σ s₀ (as ++ [a]) := by
  refine ⟨fun req' client' c' hm => ?_, fun t' ht => ?_⟩
  · rw [hl] at hm
    rcases List.mem_append.1 hm with hm | hm
    · exact (h.consented req' client' c' hm).mono _
    · rw [← List.mem_singleton.1 hm] at hi
      cases hi
  · rw [hl, issuedTokens_append] at ht
    rcases List.mem_append.1 ht with ht | ht
    · obtain ⟨asked, consenting, c', before, later, req', rfl, hearned⟩ := h.earned t' ht
      exact ⟨asked, consenting, c', before, later ++ [a], req', List.append_assoc _ _ _, hearned⟩
    · unfold issuedTokens at ht
      rw [List.filterMap_cons, hi] at ht
      obtain rfl := List.mem_singleton.1 ht
      obtain ⟨asked, consenting, c', he⟩ := he
      exact ⟨asked, consenting, c', as ++ [a], [], req, (List.append_nil _).symm, he⟩

/-- **One step** keeps the story: a code that is exchanged is the one of an authorization, whose string was
presented, and a token that is refreshed was earned, with the string that was presented. -/
lemma told_step {a : Action} (hσ : Function.Injective σ.sha256Hex) (hi : Inv σ (s₀.after σ as))
    (h : Told σ s₀ as) : Told σ s₀ (as ++ [a]) := by
  have hstep : s₀.after σ (as ++ [a]) = step σ (s₀.after σ as) a := after_snoc
  cases a with
  | register clientId data =>
    refine h.quiet ?_
    rw [hstep]
    simp only [step, stepRegister]
    split <;> rfl
  | authorize req =>
    cases hc : authorize σ (s₀.after σ as).store (s₀.after σ as).now req with
    | error e =>
      refine h.quiet ?_
      rw [hstep]
      simp only [step, stepAuthorize, hc]
    | ok r =>
      obtain ⟨st, client, c⟩ := r
      refine h.authorized hc ?_
      rw [hstep]
      simp only [step, stepAuthorize, hc]
  | codeGrant client code req =>
    cases hg : pkceCodeGrant σ (s₀.after σ as).store (s₀.after σ as).now client code req with
    | mk st r =>
      cases r with
      | error e =>
        refine h.quiet ?_
        rw [hstep]
        simp only [step, stepCode, hg]
      | ok ct =>
        obtain ⟨c, t⟩ := ct
        have hl : (s₀.after σ (as ++ [.codeGrant client code req])).log =
            (s₀.after σ as).log ++ [.exchanged c t] := by
          rw [hstep]
          simp only [step, stepCode, hg]
        obtain ⟨hv, hredeemed, -⟩ := pkceCodeGrant_ok hg
        obtain ⟨hmem, hhash, -, hunused, -⟩ := getValidCode_spec hv
        obtain ⟨i, hlog, hcode⟩ := List.mem_filterMap.1 ((hi.codes c hmem).unused hunused)
        cases i with
        | authorized asked consenting c' =>
          obtain rfl : c' = c := Option.some.inj hcode
          have hconsent := h.consented asked consenting c' hlog
          obtain rfl : code = asked.code := hσ (hhash.symm.trans hconsent.row.1)
          exact h.issued rfl hl ⟨asked, consenting, c', .exchanged hconsent hredeemed hg⟩
        | exchanged _ _ => cases hcode
        | refreshed _ _ => cases hcode
  | refreshGrant client token req =>
    cases hg : rotatingRefreshGrant σ (s₀.after σ as).store (s₀.after σ as).now client token req with
    | mk st r =>
      cases r with
      | error e =>
        refine h.quiet ?_
        rw [hstep]
        simp only [step, stepRefresh, hg]
      | ok ot =>
        obtain ⟨old, t⟩ := ot
        have hl : (s₀.after σ (as ++ [.refreshGrant client token req])).log =
            (s₀.after σ as).log ++ [.refreshed old t] := by
          rw [hstep]
          simp only [step, stepRefresh, hg]
        obtain ⟨hv, -, -⟩ := rotatingRefreshGrant_ok hg
        obtain ⟨hmem, hhash, -, -⟩ := getValidRefreshToken_spec hv
        obtain ⟨t₀, h0, hcopy⟩ := (hi.tokens old hmem).issued
        obtain ⟨asked, consenting, c, before, later, req₀, rfl, he⟩ := h.earned t₀ h0
        have hhash₀ : t₀.refreshTokenHash = some (σ.sha256Hex token) := by
          rw [hcopy] at hhash
          exact hhash
        obtain rfl : token = req₀.refreshToken := hσ (he.strings.2.1 _ hhash₀)
        exact h.issued rfl hl ⟨asked, consenting, c, .refreshed he hcopy hg⟩
  | actionRevoke isAdmin ids =>
    refine h.quiet ?_
    rw [hstep]
    cases isAdmin <;> rfl
  | gcOauth => exact h.quiet (by rw [hstep]; rfl)
  | actionDeactivate isAdmin ids =>
    refine h.quiet ?_
    rw [hstep]
    cases isAdmin <;> rfl
  | actionActivate isAdmin ids =>
    refine h.quiet ?_
    rw [hstep]
    cases isAdmin <;> rfl
  | tick seconds => exact h.quiet (by rw [hstep]; rfl)

/-- The record of a run tells what happened in it. -/
theorem told_run (hσ : Function.Injective σ.sha256Hex) (h0 : IsInit s₀) (hf : FreshRun σ s₀ as) :
    Told σ s₀ as := by
  induction as using List.reverseRecOn with
  | nil =>
    obtain ⟨-, -, -, hl, -⟩ := h0
    have hl : (s₀.after σ []).log = [] := hl
    refine ⟨fun req client c hi => ?_, fun t ht => ?_⟩
    · rw [hl] at hi
      cases hi
    · rw [hl] at ht
      cases ht
  | append_singleton as a ih =>
    have hf := (freshRun_snoc.1 hf).1
    exact told_step hσ (reachable_inv hσ (after_reachable h0 hf)) (ih hf)

/-- What the record says of an access token that is valid. -/
lemma Told.valid (h : Told σ s₀ as) (hi : Inv σ (s₀.after σ as)) (hσ : Function.Injective σ.sha256Hex)
    {bearer : String} (hb : getValidAccessToken σ (s₀.after σ as).store (s₀.after σ as).now bearer = some t) :
    ∃ asked consenting c before later t₀ req, as = before ++ later ∧
      Earned σ s₀ asked consenting c before t₀ req ∧ req.accessToken = bearer ∧ Copy t₀ t ∧
        (s₀.after σ as).now < (s₀.after σ before).now + accessTokenExpiresIn ∧
          t.userId = asked.user ∧ t.client = consenting.id ∧ t.scope = c.scope := by
  obtain ⟨hmem, hhash, -, htime⟩ := getValidAccessToken_spec hb
  obtain ⟨t₀, h₀, hcopy⟩ := (hi.tokens t hmem).issued
  obtain ⟨asked, consenting, c, before, later, req, rfl, he⟩ := h.earned t₀ h₀
  obtain ⟨haccess, -, hexpires⟩ := he.strings
  obtain ⟨-, huser, hclient, hscope⟩ := he.carries
  have hsame : t.accessTokenHash = t₀.accessTokenHash ∧ t.accessExpiresAt = t₀.accessExpiresAt ∧
      t.userId = t₀.userId ∧ t.client = t₀.client ∧ t.scope = t₀.scope := by
    rw [hcopy]
    exact ⟨rfl, rfl, rfl, rfl, rfl⟩
  obtain ⟨hh, hx, hu, hcl, hs⟩ := hsame
  refine ⟨asked, consenting, c, before, later, t₀, req, rfl, he, ?_, hcopy, ?_, hu.trans huser,
    hcl.trans hclient, hs.trans hscope⟩
  · exact hσ (haccess.symm.trans (hh.symm.trans hhash))
  · rw [← hexpires, ← hx]
    exact htime

/-- **Bearer tokens.**  Whatever happens, in any order: an access token that the server accepts was issued within
the last hour, with just that string, to who presented the code that a user's authorization had issued together
with the verifier of its challenge, or to who presented the refresh token of a token that was earned so; and it is
of that user, that client and that scope. -/
theorem bearer_earned (hσ : Function.Injective σ.sha256Hex) (h0 : IsInit s₀) (hf : FreshRun σ s₀ as)
    {bearer : String} (hb : getValidAccessToken σ (s₀.after σ as).store (s₀.after σ as).now bearer = some t) :
    ∃ asked consenting c before later t₀ req, as = before ++ later ∧
      Earned σ s₀ asked consenting c before t₀ req ∧ req.accessToken = bearer ∧ Copy t₀ t ∧
        (s₀.after σ as).now < (s₀.after σ before).now + accessTokenExpiresIn ∧
          t.userId = asked.user ∧ t.client = consenting.id ∧ t.scope = c.scope :=
  (told_run hσ h0 hf).valid (reachable_inv hσ (after_reachable h0 hf)) hσ hb

/-! ### A rotation -/

/-- A client that has exchanged its code and rotated the token a minute later. -/
def sampleRotation : List Action :=
  [sampleRegister "", sampleAuthorize "", sampleExchange "", .tick 60,
    .refreshGrant (sampleClient "") "Rt1xREFRESH" (sampleRequest "At2xACCESS" "Rt2xREFRESH" "")]

/-- The rotated token was earned from the authorization of user 2. -/
theorem bearer_earned_rotated : ∃ t asked consenting c before t₀ req,
    getValidAccessToken sampleSite (sampleInit.after sampleSite sampleRotation).store 1700000060 "At2xACCESS" =
      some t ∧ Earned sampleSite sampleInit asked consenting c before t₀ req ∧ t.userId = asked.user := by
  have hb : getValidAccessToken sampleSite (sampleInit.after sampleSite sampleRotation).store
      (sampleInit.after sampleSite sampleRotation).now "At2xACCESS" = some _ := rfl
  obtain ⟨asked, consenting, c, before, -, t₀, req, -, he, -, -, -, hu, -, -⟩ :=
    bearer_earned sampleSite_injective sampleInit_isInit (by decide) hb
  exact ⟨_, asked, consenting, c, before, t₀, req, hb, he, hu⟩

end AdvMcp.OAuth
