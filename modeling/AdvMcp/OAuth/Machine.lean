import AdvMcp.Lib.Runs
import AdvMcp.OAuth.Grants

/-!
# The OAuth state machine

The tables, the clock, the random strings drawn so far, and the record of what has been issued.
Each request is one step; a run takes them in any order.

The grants are steps of their own, with any client, active or not: what authlib does before it calls
a grant (client authentication) only keeps requests away from it.  `tokenEndpoint_step` says so: a request
to the token endpoint is a step of this machine or changes nothing.
-/

namespace AdvMcp.OAuth

open AdvMcp.Lib

/-- What a request issued: a code for an authorization request of a client, the first token of a
code, or the successor of a token. -/
inductive Issue where
  | authorized (req : AuthorizeRequest) (client : ClientRow) (code : CodeRow)
  | exchanged (code : CodeRow) (token : TokenRow)
  | refreshed (old new : TokenRow)

structure State where
  store : Store
  now : Time
  minted : List String
  log : List Issue

inductive Action where
  | register (clientId : String) (data : ClientMetadata)
  | authorize (req : AuthorizeRequest)
  | codeGrant (client : ClientRow) (code : String) (req : TokenRequest)
  | refreshGrant (client : ClientRow) (token : String) (req : TokenRequest)
  | actionRevoke (isAdmin : Bool) (ids : List ℕ)
  | gcOauth
  | actionDeactivate (isAdmin : Bool) (ids : List ℕ)
  | actionActivate (isAdmin : Bool) (ids : List ℕ)
  | tick (seconds : ℕ)

/-- `action_deactivate` and `action_activate`, on the selected ids. -/
def setActive (st : Store) (ids : List ℕ) (b : Bool) : Store :=
  { st with clients := updateWhere (·.id ∈ ids) (fun c => { c with active := b }) st.clients }

/-- The random strings that a step draws. -/
def drawn : Action → List String
  | .authorize req => [req.code]
  | .codeGrant _ _ req => [req.accessToken, req.refreshToken, req.uuid]
  | .refreshGrant _ _ req => [req.accessToken, req.refreshToken]
  | _ => []

/-- The strings drawn are not empty, new, and different from each other. -/
def Fresh (s : State) (a : Action) : Prop :=
  (drawn a).Nodup ∧ ∀ x ∈ drawn a, x ≠ "" ∧ x ∉ s.minted

instance (s : State) (a : Action) : Decidable (Fresh s a) := by unfold Fresh; infer_instance

section Step

variable (σ : Site) (s : State)

def stepRegister (clientId : String) (data : ClientMetadata) : State :=
  match saveClient σ s.store s.now clientId data with
  | .ok (st, _) => { s with store := st }
  | .error _ => s

def stepAuthorize (req : AuthorizeRequest) : State :=
  match authorize σ s.store s.now req with
  | .ok (st, client, c) =>
    { s with store := st, minted := s.minted ++ [req.code], log := s.log ++ [.authorized req client c] }
  | .error _ => { s with minted := s.minted ++ [req.code] }

def stepCode (client : ClientRow) (code : String) (req : TokenRequest) : State :=
  let r := pkceCodeGrant σ s.store s.now client code req
  { s with
    store := r.1
    minted := s.minted ++ [req.accessToken, req.refreshToken, req.uuid]
    log := match r.2 with
      | .ok (c, t) => s.log ++ [.exchanged c t]
      | .error _ => s.log }

def stepRefresh (client : ClientRow) (token : String) (req : TokenRequest) : State :=
  let r := rotatingRefreshGrant σ s.store s.now client token req
  { s with
    store := r.1
    minted := s.minted ++ [req.accessToken, req.refreshToken]
    log := match r.2 with
      | .ok (old, t) => s.log ++ [.refreshed old t]
      | .error _ => s.log }

def stepRevoke (isAdmin : Bool) (ids : List ℕ) : State :=
  match actionRevoke s.store isAdmin ids with
  | .ok st => { s with store := st }
  | .error _ => s

def stepActive (isAdmin : Bool) (ids : List ℕ) (b : Bool) : State :=
  if isAdmin then { s with store := setActive s.store ids b } else s

def step : Action → State
  | .register clientId data => stepRegister σ s clientId data
  | .authorize req => stepAuthorize σ s req
  | .codeGrant client code req => stepCode σ s client code req
  | .refreshGrant client token req => stepRefresh σ s client token req
  | .actionRevoke isAdmin ids => stepRevoke s isAdmin ids
  | .gcOauth => { s with store := (gcOauth s.store s.now).1 }
  | .actionDeactivate isAdmin ids => stepActive s isAdmin ids false
  | .actionActivate isAdmin ids => stepActive s isAdmin ids true
  | .tick seconds => { s with now := s.now + seconds }

end Step

/-- The tables hold clients only, with distinct ids, and nothing has been issued. -/
def IsInit (s : State) : Prop :=
  s.store.codes = [] ∧ s.store.tokens = [] ∧ s.minted = [] ∧ s.log = [] ∧ 0 < s.store.nextId ∧
    (s.store.clients.map (·.id)).Nodup ∧ ∀ c ∈ s.store.clients, c.id < s.store.nextId

def machine (σ : Site) : Sys State Action where
  init := IsInit
  step s a s' := Fresh s a ∧ s' = step σ s a

/-- The token row `t` descends from the code with the id `k`: it is the code's first token or a
successor of a token that descends from it. -/
inductive Descends (log : List Issue) (k : ℕ) : TokenRow → Prop
  | exchanged {c : CodeRow} {t : TokenRow} : .exchanged c t ∈ log → c.id = k → Descends log k t
  | refreshed {t old new : TokenRow} :
      Descends log k t → .refreshed old new ∈ log → old.id = t.id → Descends log k new

/-! ### Runs as lists of actions -/

/-- Every action of the list draws fresh strings. -/
def FreshRun (σ : Site) : State → List Action → Prop
  | _, [] => True
  | s, a :: as => Fresh s a ∧ FreshRun σ (step σ s a) as

instance decidableFreshRun (σ : Site) : ∀ s as, Decidable (FreshRun σ s as)
  | _, [] => isTrue trivial
  | s, a :: as => @instDecidableAnd _ _ _ (decidableFreshRun σ (step σ s a) as)

lemma run_foldl {σ : Site} {s : State} {as : List Action} (h : FreshRun σ s as) :
    (machine σ).Run s as (as.foldl (step σ) s) := by
  induction as generalizing s with
  | nil => exact .nil s
  | cons a as ih => exact .cons ⟨h.1, rfl⟩ (ih h.2)

lemma reachable_foldl {σ : Site} {s : State} {as : List Action} (h0 : IsInit s)
    (h : FreshRun σ s as) : (machine σ).Reachable (as.foldl (step σ) s) :=
  (run_foldl h).reachable (.init h0)

/-! ### The token endpoint -/

/-- The step of a request to the token endpoint that authlib passes on to a grant. -/
def tokenAction (client : ClientRow) (req : TokenRequest) : GrantParam → Action
  | .authorizationCode code => .codeGrant client code req
  | .refreshToken token => .refreshGrant client token req

/-- The machine after a request to the token endpoint: nothing is drawn before the client is known. -/
def tokenStep (σ : Site) (s : State) (clientId : String) (p : GrantParam) (req : TokenRequest) : State :=
  match authenticateClient s.store clientId p with
  | .error _ => s
  | .ok client => step σ s (tokenAction client req p)

/-- **A request to the token endpoint** leaves the tables of `create_token_response`; it is the step of its
grant, with the client that was authenticated, or changes nothing. -/
theorem tokenEndpoint_step (σ : Site) (s : State) (clientId : String) (p : GrantParam)
    (req : TokenRequest) :
    (tokenStep σ s clientId p req).store = (createTokenResponse σ s.store s.now clientId p req).1 ∧
    (∀ client, authenticateClient s.store clientId p = .ok client →
      tokenStep σ s clientId p req = step σ s (tokenAction client req p)) ∧
    ∀ e, authenticateClient s.store clientId p = .error e → tokenStep σ s clientId p req = s := by
  unfold tokenStep createTokenResponse
  cases authenticateClient s.store clientId p with
  | error e => exact ⟨rfl, fun _ h => (by cases h), fun _ _ => rfl⟩
  | ok client =>
    refine ⟨by cases p <;> rfl, fun client' h => ?_, fun _ h => by cases h⟩
    cases h
    rfl

/-! ### A site, and the first steps of a run -/

/-- A hash with given digests, which marks every other string. -/
def tableHash (digests : List (String × String)) (s : String) : String :=
  (digests.lookup s).getD ("#" ++ s)

lemma tableHash_injective {digests : List (String × String)} (hn : (digests.map Prod.snd).Nodup)
    (hm : ∀ p ∈ digests, p.2.toList.head? ≠ some '#') : Function.Injective (tableHash digests) := by
  have hmem : ∀ {s d}, digests.lookup s = some d → (s, d) ∈ digests := by
    intro s d h
    obtain ⟨l₁, l₂, he, -⟩ := List.lookup_eq_some_iff.1 h
    rw [he]; simp
  have hmark : ∀ {s t d}, digests.lookup s = some d → d ≠ "#" ++ t := by
    intro s t d h he
    refine hm _ (hmem h) ?_
    rw [he, String.toList_append]
    rfl
  intro s t h
  unfold tableHash at h
  cases hs : digests.lookup s with
  | none =>
    cases ht : digests.lookup t with
    | none => simpa [hs, ht] using h
    | some d => exact absurd (by simpa [hs, ht] using h.symm) (hmark ht)
  | some d =>
    cases ht : digests.lookup t with
    | none => exact absurd (by simpa [hs, ht] using h) (hmark hs)
    | some d' =>
      have hd : d = d' := by simpa [hs, ht] using h
      exact congrArg Prod.fst
        (List.inj_on_of_nodup_map hn (hmem hs) (hmem ht) (show (s, d).2 = (t, d').2 from hd))

/-- SHA-256 of the strings drawn below. -/
def sampleDigests : List (String × String) :=
  [("Sq1xCODE", "6f980fb9ff45086951579b3facfe672310d241722c5a912be7c22bac603900b0"),
    ("At1xACCESS", "676acc472ee1d5046a49631333b50643a75295ed90b6ec9b11e0ed672edb5082"),
    ("Rt1xREFRESH", "5c9a89e40e35c7ea4112480c4cc2e23ab17e8c404a5d88a38b9bf6e0315d612f"),
    ("At2xACCESS", "ce99ff7b4bcac351243c8548982334508ed04be72569dbf91b08bf944f0e7ee9"),
    ("Rt2xREFRESH", "f946f9522f4f46cf93f2e90e7d744aff8e81e294a0d67a05b473a8e930ae1501")]

/-- A site with one redirect URI that parses; authlib accepts a scope if the server supports every
word of it. -/
def sampleSite : Site where
  sha256Hex := tableHash sampleDigests
  baseUrl := "https://erp.example.com"
  urlsplit uri :=
    if uri = "http://127.0.0.1:8765/cb" then some ⟨"http", none, "127.0.0.1", some 8765, ""⟩ else none
  validateRequestedScope supported scope := (Py.split scope).all (· ∈ supported)

lemma sampleSite_injective : Function.Injective sampleSite.sha256Hex :=
  tableHash_injective (by decide) (by decide)

def sampleInit : State := ⟨⟨[], [], [], 1⟩, 1700000000, [], []⟩

lemma sampleInit_isInit : IsInit sampleInit := ⟨rfl, rfl, rfl, rfl, by decide, by decide, by decide⟩

/-- The registration of a client. -/
def sampleRegister (registered : String) : Action :=
  .register "mcp-client-1" ⟨["http://127.0.0.1:8765/cb"], "Claude", registered⟩

/-- User 2 authorizes that client. -/
def sampleAuthorize (requested : String) : Action :=
  .authorize
    { http :=
        { method := .GET
          args := [("response_type", "code"), ("client_id", "mcp-client-1"),
            ("redirect_uri", "http://127.0.0.1:8765/cb"), ("scope", requested),
            ("code_challenge", "E9Melhoa2OwvFrEMTJguCHaoeK1t8URWbuGJSstw-cM"),
            ("code_challenge_method", "S256")]
          form := [] }
      user := 2
      code := "Sq1xCODE"
      consentOk := fun _ => true }

/-- The token request of that client. -/
def sampleRequest (accessToken refreshToken uuid : String) : TokenRequest where
  resource := ""
  redirectUri := "http://127.0.0.1:8765/cb"
  scope := ""
  verifierOk _ := true
  userActive _ := true
  accessToken := accessToken
  refreshToken := refreshToken
  uuid := uuid

/-- The client row that the registration makes. -/
def sampleClient (registered : String) : ClientRow :=
  (registerClient sampleInit.store sampleInit.now "mcp-client-1"
    ⟨["http://127.0.0.1:8765/cb"], "Claude", normalizeScope registered⟩).2

/-- The exchange of that client's code. -/
def sampleExchange (registered : String) : Action :=
  .codeGrant (sampleClient registered) "Sq1xCODE"
    (sampleRequest "At1xACCESS" "Rt1xREFRESH" "8f14e45fceea467f9a4fd6b7f5a1c3d2")

/-- The state in which that client has exchanged its code. -/
def sampleState (registered requested : String) : State :=
  [sampleRegister registered, sampleAuthorize requested, sampleExchange registered].foldl
    (step sampleSite) sampleInit

lemma sampleState_reachable : (machine sampleSite).Reachable (sampleState "" "") :=
  reachable_foldl sampleInit_isInit (by decide)

end AdvMcp.OAuth
