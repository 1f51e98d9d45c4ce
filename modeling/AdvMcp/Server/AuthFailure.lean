import AdvMcp.Audit.Event
import AdvMcp.Server.Throttle

/-!
# Authentication failures and their log

The three doors of the gateway and what they do with bad credentials: `_auth_method_adv_gateway` of
`models/http_layer.py` (the bearer endpoint), `require_auth` and `get_user_from_api_key` of
`server/auth_resolver.py` (the REST endpoints), and the key check of the XML-RPC proxy.

* Every failure goes through `logAuthFailure`, behind a limiter of its own; an invalid bearer passes
  another limiter before that.
* `step` serves one attempt, `trace` a sequence of them; an entry of the trace tells whether the
  attempt made a failure that the limiters admitted, and what the event log was before and after.

The method `bearer` that `logAuthFailure` writes is not a key of the selection: `entry_persisted`
says that exactly the failures of an API key leave a row.
-/

namespace AdvMcp.Server

open AdvMcp.Audit

def authFailureMax : ℤ := 20
def authFailureWindowSeconds : ℤ := 60
def bearerFailureMax : ℤ := 20
def bearerFailureWindowSeconds : ℤ := 60

/-- A client of the limiters: the database and the remote address. -/
structure Peer where
  db : String
  remoteAddr : String
  deriving DecidableEq

/-- The two limiters and the event log. -/
structure AuthState where
  bearerFailures : Throttle Peer
  authFailures : Throttle Peer
  events : List EventRow

/-- What `_check_credentials` and the lookup of its user come to. -/
inductive KeyCheck where
  | user (id : ℕ)
  | invalid
  | inactive
  | raised (text : String)

/-- An attempt to authenticate: at the bearer endpoint with a header, of which `token` is the bearer
token if there is one; at a REST endpoint with a key (empty if missing) or a session; through the
XML-RPC proxy with a token. -/
inductive Attempt where
  | bearer (header : String) (token : Option String) (key : KeyCheck) (oauthUser : Option ℕ)
  | rest (apiKey : String) (key : KeyCheck) (sessionUser : Option ℕ)
  | rpc (authToken : String) (key : KeyCheck)

section Doors

variable (loggingActive : Bool) (now : ℤ) (peer : Peer)

/-- `push_event`: the entry is written through a cursor of its own, as the superuser. -/
def pushEvent (table : List EventRow) (kind : EventKind) (kw : EventKw) : List EventRow :=
  recordEvent ⟨loggingActive, false, false, superuserId⟩ table kind kw

/-- The keyword arguments of the failure's event. -/
def authFailureKw (errorMessage : String) (apiKeyUsed : Bool) : EventKw :=
  { ipAddress := some peer.remoteAddr
    errorMessage := some errorMessage
    authMethod := some (if apiKeyUsed then "api_key" else "bearer") }

/-- `_log_auth_failure`: whether the limiter admits the failure, and the state after it. -/
def logAuthFailure (s : AuthState) (errorMessage : String) (apiKeyUsed : Bool) : Bool × AuthState :=
  let r := isLimited authFailureWindowSeconds s.authFailures now peer authFailureMax
  if r.1 then (false, { s with authFailures := r.2 })
  else
    (true, { s with
      authFailures := r.2
      events := pushEvent loggingActive s.events .authFailure
        (authFailureKw peer errorMessage apiKeyUsed) })

/-- `get_user_from_api_key` for a key, with `log_failure`. -/
def getUserFromApiKey (s : AuthState) (key : KeyCheck) (logFailure : Bool) :
    Option ℕ × Bool × AuthState :=
  match key with
  | .user id => (some id, false, s)
  | .invalid =>
    (none, if logFailure then logAuthFailure loggingActive now peer s "Invalid API key" true
      else (false, s))
  | .inactive =>
    (none, if logFailure then logAuthFailure loggingActive now peer s "User not found or inactive" true
      else (false, s))
  | .raised text =>
    (none, if logFailure then logAuthFailure loggingActive now peer s text true else (false, s))

/-- `_auth_method_adv_gateway`: the user that the request is bound to, if any. -/
def authMethodAdvGateway (s : AuthState) (header : String) (token : Option String) (key : KeyCheck)
    (oauthUser : Option ℕ) : Option ℕ × Bool × AuthState :=
  match token with
  | none =>
    (none, if header ≠ "" then
      logAuthFailure loggingActive now peer s "Malformed Authorization header" false else (false, s))
  | some _ =>
    match getUserFromApiKey loggingActive now peer s key false with
    | (some id, _, s') => (some id, false, s')
    | (none, _, s') =>
      match oauthUser with
      | some id => (some id, false, s')
      | none =>
        let r := isLimited bearerFailureWindowSeconds s'.bearerFailures now peer bearerFailureMax
        let s'' := { s' with bearerFailures := r.2 }
        (none, if r.1 then (false, s'')
          else logAuthFailure loggingActive now peer s'' "Invalid or expired credentials" false)

/-- `require_auth` -/
def requireAuth (s : AuthState) (apiKey : String) (key : KeyCheck) (sessionUser : Option ℕ) :
    Option ℕ × Bool × AuthState :=
  if apiKey = "" then
    match sessionUser with
    | some id => (some id, false, s)
    | none =>
      (none, logAuthFailure loggingActive now peer s "No valid API key or session" false)
  else
    let r := getUserFromApiKey loggingActive now peer s key true
    (r.1 <|> sessionUser, r.2)

/-- `_identify_user` of the XML-RPC proxy; a token of at most 20 characters is not looked up. -/
def identifyUser (s : AuthState) (authToken : String) (key : KeyCheck) : Option ℕ × Bool × AuthState :=
  if 20 < authToken.length then getUserFromApiKey loggingActive now peer s key true
  else (none, false, s)

/-- An attempt at its door. -/
def step (s : AuthState) : Attempt → Option ℕ × Bool × AuthState
  | .bearer header token key oauthUser =>
    authMethodAdvGateway loggingActive now peer s header token key oauthUser
  | .rest apiKey key sessionUser => requireAuth loggingActive now peer s apiKey key sessionUser
  | .rpc authToken key => identifyUser loggingActive now peer s authToken key

end Doors

/-! ### Sequences of attempts -/

/-- An attempt of a sequence: when, by whom, and what. -/
structure Timed where
  now : ℤ
  peer : Peer
  attempt : Attempt

/-- One attempt of a run: whether it made a failure that the limiters admitted, and the event log
before and after it. -/
structure Entry where
  attempt : Attempt
  admitted : Bool
  before : List EventRow
  after : List EventRow

/-- The run of a sequence of attempts. -/
def trace (loggingActive : Bool) : AuthState → List Timed → List Entry
  | _, [] => []
  | s, t :: ts =>
    let r := (step loggingActive t.now t.peer s t.attempt).2
    ⟨t.attempt, r.1, s.events, r.2.events⟩ :: trace loggingActive r.2 ts

/-- Exactly one row was persisted, and it is an authentication failure. -/
def Entry.Persisted (e : Entry) : Prop :=
  ∃ row, e.after = e.before ++ [row] ∧ row.eventKind = .authFailure

/-- The attempt presents an API key where one is asked for: not at the bearer endpoint, and not
without a key. -/
def Attempt.presentsKey : Attempt → Bool
  | .bearer _ _ _ _ => false
  | .rest apiKey _ _ => apiKey ≠ ""
  | .rpc _ _ => true

/-! ### One attempt -/

section One

variable {now : ℤ} {peer : Peer} {s : AuthState}

/-- With logging on, an entry is written if its method is in the selection. -/
lemma pushEvent_eq (table : List EventRow) (kind : EventKind) (kw : EventKw) :
    pushEvent true table kind kw = if kw.authMethod.all (· ∈ authMethods) then
      table ++ [eventEntry ⟨true, false, false, superuserId⟩ kind kw] else table := by
  unfold pushEvent recordEvent createEvent
  have hm : (eventEntry ⟨true, false, false, superuserId⟩ kind kw).authMethod = kw.authMethod := rfl
  rw [hm]
  simp only [Bool.not_true, Bool.false_eq_true, if_false]
  split_ifs <;> rfl

/-- What a failure leaves behind if it is admitted. -/
def Logged (r : Bool × AuthState) (s : AuthState) (apiKeyUsed : Bool) : Prop :=
  r.1 = true → if apiKeyUsed then
    ∃ row, r.2.events = s.events ++ [row] ∧ row.eventKind = .authFailure else r.2.events = s.events

/-- An admitted failure leaves a row if an API key was used, and none otherwise. -/
lemma logAuthFailure_logged (message : String) (apiKeyUsed : Bool) :
    Logged (logAuthFailure true now peer s message apiKeyUsed) s apiKeyUsed := by
  unfold Logged logAuthFailure
  intro h
  simp only at h ⊢
  split_ifs at h with hl
  simp only [if_neg hl]
  cases apiKeyUsed with
  | true =>
    refine ⟨eventEntry ⟨true, false, false, superuserId⟩ .authFailure (authFailureKw peer message true),
      ?_, rfl⟩
    rw [pushEvent_eq]
    exact if_pos rfl
  | false =>
    rw [pushEvent_eq]
    exact if_neg (by simp [authFailureKw, authMethods])

lemma not_admitted (s' : AuthState) (apiKeyUsed : Bool) : Logged (false, s') s apiKeyUsed :=
  fun h => absurd h (by simp)

lemma getUserFromApiKey_logged (key : KeyCheck) (logFailure : Bool) :
    Logged (getUserFromApiKey true now peer s key logFailure).2 s true := by
  cases key <;> cases logFailure
  all_goals first | exact not_admitted _ _ | exact logAuthFailure_logged _ _

/-- **One attempt**: an admitted failure leaves a row if the attempt presents a key. -/
lemma step_logged (a : Attempt) : Logged (step true now peer s a).2 s a.presentsKey := by
  cases a with
  | bearer header token key oauthUser =>
    unfold step authMethodAdvGateway Attempt.presentsKey
    cases token with
    | none =>
      simp only
      split_ifs
      · exact logAuthFailure_logged _ _
      · exact not_admitted _ _
    | some t =>
      obtain ⟨u, hu⟩ : ∃ u, getUserFromApiKey true now peer s key false = (u, false, s) := by
        cases key <;> exact ⟨_, rfl⟩
      simp only
      rw [hu]
      cases u with
      | some id => exact not_admitted _ _
      | none =>
        cases oauthUser with
        | some id => exact not_admitted _ _
        | none =>
          simp only
          split_ifs
          · exact not_admitted _ _
          · exact logAuthFailure_logged _ _
  | rest apiKey key sessionUser =>
    unfold step requireAuth Attempt.presentsKey
    simp only
    split_ifs with hk
    · cases sessionUser with
      | some id => exact not_admitted _ _
      | none =>
        rw [decide_eq_false (not_not.2 hk)]
        exact logAuthFailure_logged _ _
    · rw [decide_eq_true hk]
      exact getUserFromApiKey_logged _ _
  | rpc authToken key =>
    unfold step identifyUser Attempt.presentsKey
    simp only
    split_ifs
    · exact getUserFromApiKey_logged _ _
    · exact not_admitted _ _

end One

/-! ### Every sequence -/

/-- **An admitted failure of a run** is persisted, in exactly one row, if its attempt presented an
API key where one is asked for, and leaves no row otherwise. -/
theorem entry_persisted {s : AuthState} {ts : List Timed} {e : Entry} (he : e ∈ trace true s ts)
    (ha : e.admitted = true) : (e.Persisted ↔ e.attempt.presentsKey = true) ∧
      (e.attempt.presentsKey = false → e.after = e.before) := by
  induction ts generalizing s with
  | nil => simp [trace] at he
  | cons t ts ih =>
    rcases List.mem_cons.1 he with rfl | he
    · have h := step_logged t.attempt ha
      cases hk : t.attempt.presentsKey with
      | true =>
        rw [hk] at h
        exact ⟨⟨fun _ => rfl, fun _ => h⟩, fun hf => by cases hf⟩
      | false =>
        rw [hk] at h
        have hsame : (step true t.now t.peer s t.attempt).2.2.events = s.events := h
        refine ⟨⟨?_, fun ht => by cases ht⟩, fun _ => hsame⟩
        rintro ⟨row, hrow, -⟩
        have hlen := congrArg List.length (hsame.symm.trans hrow)
        simp at hlen
    · exact ih he

/-- **The log of authentication failures.**  With logging on, whatever the attempts, every failure
that the limiters admit persists exactly one row if and only if every one of them is the failure of
an API key: the others are dropped. -/
theorem failures_persisted (s : AuthState) (ts : List Timed) :
    (∀ e ∈ trace true s ts, e.admitted = true → e.Persisted) ↔
      ∀ e ∈ trace true s ts, e.admitted = true → e.attempt.presentsKey = true :=
  forall_congr' fun _ => forall_congr' fun he => forall_congr' fun ha => (entry_persisted he ha).1

/-- The first request of a worker, with an expired bearer token: its failure is admitted and leaves
no row. -/
theorem expired_bearer_dropped : ¬ ∀ e ∈ trace true ⟨fun _ => [], fun _ => [], []⟩
    [⟨0, ⟨"erp", "203.0.113.7"⟩, .bearer "Bearer 6f2b1c" (some "6f2b1c") .invalid none⟩],
    e.admitted = true → e.Persisted := by
  intro h
  obtain ⟨row, hrow, -⟩ := h _ List.mem_cons_self (by decide)
  have hlen := congrArg List.length (show [] = [] ++ [row] from hrow)
  simp at hlen

end AdvMcp.Server
