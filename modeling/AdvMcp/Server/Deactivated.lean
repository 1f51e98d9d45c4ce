import AdvMcp.OAuth.Registered
import AdvMcp.Server.Issued

/-!
# Deactivated clients

`action_deactivate` of `models/oauth_client.py` against everything that a client can ask for afterwards.

* `Out` — the client is not active, and no client will get its id;
* `out_step`, `out_run` — it stays so until somebody activates it again;
* `deactivated_out` — meanwhile it gets no code and no token, and none of its tokens is accepted.
-/

namespace AdvMcp.Server

open AdvMcp.Lib AdvMcp.OAuth

/-- No client with the id is active, and the id has been given out. -/
structure Out (k : ℕ) (st : Store) : Prop where
  inactive : ∀ c ∈ st.clients, c.id = k → c.active = false
  given : k < st.nextId

/-- The action activates the client. -/
def Activates (k : ℕ) : Action → Prop
  | .actionActivate isAdmin ids => isAdmin = true ∧ k ∈ ids
  | _ => False

variable {σ : OAuth.Site} {s s' : State} {k : ℕ} {as : List Action}

/-- Switching clients on and off. -/
lemma Out.switched {ids : List ℕ} {b : Bool} (h : Out k s.store) (hb : b = true → k ∉ ids) :
    Out k (setActive s.store ids b) := by
  refine ⟨fun c hc hid => ?_, h.given⟩
  obtain ⟨c₀, h0, rfl⟩ := mem_updateWhere.1 hc
  by_cases hin : c₀.id ∈ ids
  · simp only [hin, decide_true, if_true] at hid ⊢
    cases b with
    | false => rfl
    | true =>
      rw [hid] at hin
      exact absurd hin (hb rfl)
  · simp only [hin, decide_false, Bool.false_eq_true, if_false] at hid ⊢
    exact h.inactive c₀ h0 hid

/-- **One step** leaves the client out, unless it activates the client. -/
lemma out_step {a : Action} (h : Out k s.store) (ha : ¬ Activates k a) : Out k (step σ s a).store := by
  have hgrows := (step_grows (σ := σ) s a).nextId
  have hsame : (step σ s a).store.clients = s.store.clients → Out k (step σ s a).store :=
    fun he => ⟨fun c hc => h.inactive c (he ▸ hc), h.given.trans_le hgrows⟩
  cases a with
  | register clientId data =>
    simp only [step, stepRegister]
    cases hr : saveClient σ s.store s.now clientId data with
    | error e => exact h
    | ok r =>
      obtain ⟨st, c⟩ := r
      obtain ⟨-, -, hid, hcl, hn⟩ := saveClient_spec hr
      have hgiven := h.given
      refine ⟨fun c' hc' hk => ?_, by simp only; omega⟩
      rw [hcl] at hc'
      rcases List.mem_append.1 hc' with hc' | hc'
      · exact h.inactive c' hc' hk
      · rw [List.mem_singleton.1 hc'] at hk
        omega
  | authorize req => exact hsame (stepAuthorize_clients req)
  | codeGrant client code req => exact hsame pkceCodeGrant_clients
  | refreshGrant client token req => exact hsame rotatingRefreshGrant_clients
  | actionRevoke isAdmin ids => cases isAdmin <;> exact hsame rfl
  | gcOauth => exact ⟨fun c hc => h.inactive c ((gcOauth_deletes s.store s.now).1.subset hc), h.given.trans_le hgrows⟩
  | actionDeactivate isAdmin ids =>
    cases isAdmin with
    | false => exact h
    | true => exact h.switched fun hf => by cases hf
  | actionActivate isAdmin ids =>
    cases isAdmin with
    | false => exact h
    | true => exact h.switched fun _ hk => ha ⟨rfl, hk⟩
  | tick seconds => exact h

/-- A run in which nobody activates the client. -/
lemma out_run (h : Out k s.store) (hr : (machine σ).Reachable s)
    (hrun : (machine σ).RunBy (fun _ a => ¬ Activates k a) s as s') : Out k s'.store := by
  refine hrun.stable (I := fun s => Out k s.store) (fun s a s' _ hout ha hst => ?_) hr h
  rw [hst.2]
  exact out_step hout ha

/-! ### What the client can still do -/

section Doors

variable {st st' : Store} {now : Time} (h : Out k st)

include h

/-- None of its tokens is accepted. -/
lemma Out.resolveToken {enabled : Bool} {userActive : ℕ → Bool} {bearer : String} {t : TokenRow}
    (hb : resolveToken σ st now enabled userActive bearer = some t) : t.client ≠ k := by
  rintro rfl
  unfold Server.resolveToken at hb
  split_ifs at hb
  split at hb
  · cases hb
  · rename_i token _
    split_ifs at hb with _ _ hactive
    obtain rfl := Option.some.inj hb
    cases hf : st.clients.find? (·.id = token.client) with
    | none => simp [hf] at hactive
    | some c =>
      have hid : c.id = token.client := by simpa using List.find?_some hf
      simp [hf, h.inactive c (List.mem_of_find?_eq_some hf) hid] at hactive

/-- No authorization gives it a code. -/
lemma Out.authorize {req : AuthorizeRequest} {client : ClientRow} {c : CodeRow}
    (hc : authorize σ st now req = .ok (st', client, c)) : c.client ≠ k := by
  obtain ⟨uri, granted, hgrant, -, -⟩ := authorize_spec hc
  rw [(authorize_client hc).2]
  intro hid
  unfold getConsentGrant at hgrant
  cases hq : queryClient st (req.http.field "client_id") with
  | none => simp [hq] at hgrant
  | some cl =>
    rw [hq] at hgrant
    simp only at hgrant
    split at hgrant
    · cases hgrant
    · split_ifs at hgrant
      obtain ⟨rfl, -⟩ := Prod.mk.inj (Except.ok.inj hgrant)
      have hp := List.find?_some hq
      rw [h.inactive cl (List.mem_of_find?_eq_some hq) hid, Bool.and_false] at hp
      cases hp

/-- No request to the token endpoint gives it a token. -/
lemma Out.createTokenResponse {clientId : String} {p : GrantParam} {req : TokenRequest} {t : TokenRow}
    (ht : createTokenResponse σ st now clientId p req = (st', .ok t)) : t.client ≠ k := by
  unfold OAuth.createTokenResponse at ht
  cases ha : authenticateClient st clientId p with
  | error e =>
    rw [ha] at ht
    cases (Prod.mk.inj ht).2
  | ok client =>
    obtain ⟨hm, hactive⟩ := authenticateClient_spec ha
    have hne : client.id ≠ k := by
      intro hid
      rw [h.inactive client hm hid] at hactive
      cases hactive
    rw [ha] at ht
    cases p with
    | authorizationCode code =>
      cases hg : pkceCodeGrant σ st now client code req with
      | mk st₁ r =>
        cases r with
        | error e => simp [hg, Except.map] at ht
        | ok ct =>
          obtain ⟨-, -, audience, hfirst⟩ := pkceCodeGrant_ok hg
          simp only [hg, Except.map, Prod.mk.injEq, Except.ok.injEq] at ht
          rw [← ht.2, hfirst]
          exact hne
    | refreshToken token =>
      cases hg : rotatingRefreshGrant σ st now client token req with
      | mk st₁ r =>
        cases r with
        | error e => simp [hg, Except.map] at ht
        | ok ot =>
          obtain ⟨-, -, hsuccessor⟩ := rotatingRefreshGrant_ok hg
          simp only [hg, Except.map, Prod.mk.injEq, Except.ok.injEq] at ht
          rw [← ht.2, hsuccessor]
          exact hne

end Doors

/-- **A deactivated client is out.**  From the moment an administrator deactivates it, and until one activates it
again, whatever else happens in whatever order: none of the tokens of the client is accepted, no user's
authorization gives it a code, and the token endpoint gives it no token. -/
theorem deactivated_out (hr : (machine σ).Reachable s) {ids : List ℕ} (hk : k ∈ ids)
    (hclient : ∃ c ∈ s.store.clients, c.id = k)
    (hrun : (machine σ).RunBy (fun _ a => ¬ Activates k a) (step σ s (.actionDeactivate true ids)) as s') :
    (∀ enabled userActive bearer t,
      resolveToken σ s'.store s'.now enabled userActive bearer = some t → t.client ≠ k) ∧
    (∀ req st client c, authorize σ s'.store s'.now req = .ok (st, client, c) → c.client ≠ k) ∧
    ∀ clientId p req st t, createTokenResponse σ s'.store s'.now clientId p req = (st, .ok t) → t.client ≠ k := by
  have hfirst : Out k (step σ s (.actionDeactivate true ids)).store := by
    obtain ⟨c, hc, hid⟩ := hclient
    refine ⟨fun c' hc' hk' => ?_, hid ▸ (reachable_clients hr).2 c hc⟩
    obtain ⟨c₀, -, rfl⟩ := mem_updateWhere.1 hc'
    by_cases hin : c₀.id ∈ ids
    · simp only [hin, decide_true, if_true]
    · simp only [hin, decide_false, Bool.false_eq_true, if_false] at hk'
      exact absurd (hk' ▸ hk) hin
  have hfresh : Fresh s (.actionDeactivate true ids) := ⟨List.nodup_nil, fun x hx => by cases hx⟩
  have hstep : (machine σ).Reachable (step σ s (.actionDeactivate true ids)) := hr.step ⟨hfresh, rfl⟩
  have hout := out_run hfirst hstep hrun
  exact ⟨fun _ _ _ _ => hout.resolveToken, fun _ _ _ _ => hout.authorize, fun _ _ _ _ _ => hout.createTokenResponse⟩

/-- The token of a client that is being deactivated. -/
theorem deactivated_out_bearer : resolveToken sampleSite
    (step sampleSite (sampleState "" "") (.actionDeactivate true [1])).store 1700000000 true (fun _ => true)
      "At1xACCESS" = none := by
  cases hb : resolveToken sampleSite (step sampleSite (sampleState "" "") (.actionDeactivate true [1])).store
      1700000000 true (fun _ => true) "At1xACCESS" with
  | none => rfl
  | some t =>
    have hne := (deactivated_out (k := 1) sampleState_reachable (List.mem_singleton_self 1)
      ⟨sampleClient "", by decide, rfl⟩ (.nil _)).1 true (fun _ => true) "At1xACCESS" t hb
    have hall : ∀ t ∈ (step sampleSite (sampleState "" "") (.actionDeactivate true [1])).store.tokens, t.client = 1 := by
      decide
    refine absurd (hall t ?_) hne
    unfold resolveToken at hb
    split_ifs at hb
    split at hb
    · cases hb
    · rename_i token hv
      split_ifs at hb
      obtain rfl := Option.some.inj hb
      exact (getValidAccessToken_spec hv).1

end AdvMcp.Server
