import AdvMcp.Lib.Lanes
import AdvMcp.Server.Flow

/-!
# Users by themselves

Flow control of `server/handler.py` with many users: nobody uses up the requests of another.

* `UserRequest` — a request at `POST /mcp_server`, when it comes, and under which configuration;
* `isLimited_own`, `flowControl_own` — what is answered is decided by the bucket of the account;
* `answered_alone` — a user is answered as if there were no others.
-/

namespace AdvMcp.Server

open AdvMcp.Access AdvMcp.Lib AdvMcp.Py

/-- A request of a user: the configuration and the clock when it comes. -/
structure UserRequest where
  worker : Worker
  now : ℤ
  uid : ℕ
  remoteAddr : String
  raw : Dict

def UserRequest.account (r : UserRequest) : Account := ⟨r.worker.gateway.db, r.uid⟩

/-- `process` for a request, up to the handler. -/
def answerUser (s : FlowState) (r : UserRequest) : Passage × FlowState :=
  process r.worker { s with now := r.now } r.uid r.remoteAddr r.raw

section Lanes

variable {κ : Type*} [DecidableEq κ] {window now maxRequests : ℤ} {th th' : Throttle κ} {key : κ}

/-- The limiter decides by the bucket of the key. -/
lemma isLimited_own (h : th key = th' key) :
    (isLimited window th now key maxRequests).1 = (isLimited window th' now key maxRequests).1 ∧
      (isLimited window th now key maxRequests).2 key = (isLimited window th' now key maxRequests).2 key := by
  unfold isLimited
  simp only [h]
  split_ifs with hm hb
  · exact ⟨rfl, h⟩
  · simp only [Function.update_self, and_self]
  · simp only [Function.update_self, and_self]

variable {W : Worker} {s t : FlowState} {uid : ℕ} {remoteAddr method : String} {account : Account}

/-- Flow control decides by the bucket of the account. -/
lemma flowControl_own (remoteAddr method : String) (hnow : s.now = t.now)
    (h : s.throttle ⟨W.gateway.db, uid⟩ = t.throttle ⟨W.gateway.db, uid⟩) :
    (applyFlowControl W s uid remoteAddr method).1 = (applyFlowControl W t uid remoteAddr method).1 ∧
      (applyFlowControl W s uid remoteAddr method).2.throttle ⟨W.gateway.db, uid⟩ =
        (applyFlowControl W t uid remoteAddr method).2.throttle ⟨W.gateway.db, uid⟩ := by
  have hown : ∀ n, (isLimited W.window s.throttle n ⟨W.gateway.db, uid⟩ (maxRequestsForUid W uid)).1 =
        (isLimited W.window t.throttle n ⟨W.gateway.db, uid⟩ (maxRequestsForUid W uid)).1 ∧
      (isLimited W.window s.throttle n ⟨W.gateway.db, uid⟩ (maxRequestsForUid W uid)).2 ⟨W.gateway.db, uid⟩ =
        (isLimited W.window t.throttle n ⟨W.gateway.db, uid⟩ (maxRequestsForUid W uid)).2 ⟨W.gateway.db, uid⟩ :=
    fun n => isLimited_own h
  obtain ⟨hanswer, hbucket⟩ := hown t.now
  unfold applyFlowControl
  simp only [hnow, hanswer]
  split_ifs
  · exact ⟨rfl, h⟩
  · exact ⟨rfl, h⟩
  · exact ⟨rfl, hbucket⟩
  all_goals exact ⟨rfl, hbucket⟩

/-- Flow control keeps the buckets of other accounts. -/
lemma flowControl_other (h : account ≠ ⟨W.gateway.db, uid⟩) :
    (applyFlowControl W s uid remoteAddr method).2.throttle account = s.throttle account := by
  unfold applyFlowControl
  simp only
  split_ifs
  · rfl
  · rfl
  all_goals exact isLimited_of_ne h

/-- `process` keeps the buckets of other accounts. -/
lemma process_other {raw : Dict} (h : account ≠ ⟨W.gateway.db, uid⟩) :
    (process W s uid remoteAddr raw).2.throttle account = s.throttle account := by
  have hp : Processed W s uid remoteAddr raw (process W s uid remoteAddr raw) := process_processed raw
  generalize process W s uid remoteAddr raw = r at hp
  cases hp with
  | refused _ _ => rfl
  | stopped method p _ => exact flowControl_other h
  | handled method _ _ _ _ => exact flowControl_other h

/-- `process` decides by the bucket of the account. -/
lemma process_own {raw : Dict} (hnow : s.now = t.now)
    (h : s.throttle ⟨W.gateway.db, uid⟩ = t.throttle ⟨W.gateway.db, uid⟩) :
    (process W s uid remoteAddr raw).1 = (process W t uid remoteAddr raw).1 ∧
      (process W s uid remoteAddr raw).2.throttle ⟨W.gateway.db, uid⟩ =
        (process W t uid remoteAddr raw).2.throttle ⟨W.gateway.db, uid⟩ := by
  unfold process
  split_ifs
  · exact ⟨rfl, h⟩
  · cases parseEnvelope raw with
    | error e => exact ⟨rfl, h⟩
    | ok m =>
      obtain ⟨method, args⟩ := m
      obtain ⟨hanswer, hbucket⟩ := flowControl_own remoteAddr method hnow h
      simp only [hanswer]
      cases (applyFlowControl W t uid remoteAddr method).1 with
      | some retryAfter => exact ⟨rfl, hbucket⟩
      | none =>
        cases routeTable.lookup method with
        | some route => exact ⟨rfl, hbucket⟩
        | none =>
          simp only
          split_ifs
          · exact ⟨rfl, hbucket⟩
          · exact ⟨rfl, hbucket⟩

end Lanes

/-- **Users by themselves.**  Whatever requests come, from whom and when, and under whatever configurations: an
account is answered, up to the handler, as it would be if nobody else sent anything. -/
theorem answered_alone (s : FlowState) (rs : List UserRequest) (account : Account) :
    (answers answerUser s rs).filter (fun p => p.1.account = account) =
      answers answerUser s (rs.filter fun r => r.account = account) := by
  have h : Separate answerUser UserRequest.account account fun s => s.throttle account := by
    refine ⟨fun s r hr => ?_, fun s t r hr hst => ?_⟩
    · exact process_other (Ne.symm hr)
    · subst hr
      exact process_own rfl hst
  exact h.alone rfl rs

end AdvMcp.Server
