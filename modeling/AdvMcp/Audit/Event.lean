import Mathlib.Data.List.Basic

/-!
# The event log

`adv.event` of `models/audit_log.py`: the values of a row, `record_event` and the calls over it.

* A call is made of a kind and of keyword arguments; one that is missing is `none`.
* Odoo refuses a row whose `auth_method` is not a key of the selection with a `ValueError`;
  `record_event` swallows it.
-/

namespace AdvMcp.Audit

inductive EventKind where
  | authSuccess
  | authFailure
  | dataAccess
  | resourceFetch
  | mutation
  | error
  | quotaExceeded
  | permissionDenied
  deriving DecidableEq

/-- `_EVENT_CLASS` -/
def EventKind.eventClass : EventKind → String
  | .authSuccess | .authFailure | .permissionDenied => "security"
  | .dataAccess | .resourceFetch | .mutation => "data"
  | .error | .quotaExceeded => "ops"

/-- `_RISK_SCORES` -/
def EventKind.riskScore : EventKind → ℕ
  | .authFailure => 8
  | .permissionDenied => 6
  | .quotaExceeded => 4
  | .error => 3
  | .mutation => 2
  | .dataAccess => 1
  | .authSuccess => 0
  | .resourceFetch => 1

/-- The keys of the selection `auth_method`. -/
def authMethods : List String := ["api_key", "oauth", "session"]

def maxText : ℕ := 10000
def maxChar : ℕ := 256

/-- `_clip` -/
def clip (s : String) (limit : ℕ) : String :=
  if s.length ≤ limit then s else String.ofList (s.toList.take limit) ++ "… [clipped]"

/-- The keyword arguments of `record_event`. -/
structure EventKw where
  userId : Option (Option ℕ) := none
  ipAddress : Option String := none
  sessionId : Option String := none
  authMethod : Option String := none
  oauthClientId : Option ℕ := none
  oauthScope : Option String := none
  endpoint : Option String := none
  httpMethod : Option String := none
  modelName : Option String := none
  operation : Option String := none
  toolName : Option String := none
  recordIds : Option String := none
  requestData : Option String := none
  responseData : Option String := none
  errorMessage : Option String := none
  errorCode : Option String := none
  durationMs : Option ℕ := none
  userAgent : Option String := none

/-- A row of `adv.event`: its kind, class and risk, and the other columns as they are written. -/
structure EventRow where
  eventKind : EventKind
  eventClass : String
  riskScore : ℕ
  userId : Option ℕ
  ipAddress : Option String
  sessionId : Option String
  authMethod : Option String
  oauthClientId : Option ℕ
  oauthScope : Option String
  endpoint : Option String
  httpMethod : Option String
  resourceName : Option String
  operation : Option String
  capabilityName : Option String
  recordIds : Option String
  requestData : Option String
  responseData : Option String
  errorMessage : Option String
  errorCode : Option String
  durationMs : Option ℕ
  userAgent : Option String

/-- What `record_event` reads from its environment. -/
structure LogEnv where
  loggingActive : Bool
  skipAdvLogging : Bool
  readonly : Bool
  uid : ℕ

def superuserId : ℕ := 1

/-- The row that `record_event` makes up. -/
def eventEntry (env : LogEnv) (kind : EventKind) (kw : EventKw) : EventRow where
  eventKind := kind
  eventClass := kind.eventClass
  riskScore := kind.riskScore
  userId := kw.userId.getD (if env.uid = superuserId then none else some env.uid)
  ipAddress := kw.ipAddress
  sessionId := kw.sessionId
  authMethod := kw.authMethod
  oauthClientId := kw.oauthClientId
  oauthScope := kw.oauthScope
  endpoint := kw.endpoint
  httpMethod := kw.httpMethod
  resourceName := kw.modelName.map (clip · maxChar)
  operation := kw.operation.map (clip · maxChar)
  capabilityName := kw.toolName.map (clip · maxChar)
  recordIds := kw.recordIds
  requestData := kw.requestData.map (clip · maxText)
  responseData := kw.responseData.map (clip · maxText)
  errorMessage := kw.errorMessage.map (clip · maxText)
  errorCode := kw.errorCode
  durationMs := kw.durationMs
  userAgent := kw.userAgent.map (clip · maxText)

/-- `create` on `adv.event`: a value outside the selection is a `ValueError`. -/
def createEvent (table : List EventRow) (row : EventRow) : Except String (List EventRow) :=
  if row.authMethod.all (· ∈ authMethods) then .ok (table ++ [row])
  else .error "Wrong value for adv.event.auth_method"

/-- `record_event`: the table after it. -/
def recordEvent (env : LogEnv) (table : List EventRow) (kind : EventKind) (kw : EventKw) :
    List EventRow :=
  if !env.loggingActive then table
  else if env.skipAdvLogging then table
  else if env.readonly then table
  else match createEvent table (eventEntry env kind kw) with
    | .ok table' => table'
    | .error _ => table

/-! ### The calls over it -/

/-- A call of `record_event`. -/
abbrev Event := EventKind × EventKw

/-- Who calls: what `_auth_context` and its callers read off the request. -/
structure Caller where
  userId : Option (Option ℕ) := none
  ipAddress : Option String := none
  authMethod : Option String := none
  oauthClientId : Option ℕ := none
  oauthScope : Option String := none
  userAgent : Option String := none
  sessionId : Option String := none

/-- `record_access`; the record ids come as their texts. -/
def recordAccess (modelName operation : Option String) (recordIds : List String)
    (endpoint httpMethod toolName requestData responseData : Option String) (durationMs : ℕ)
    (c : Caller) : Event :=
  (.dataAccess,
    { modelName, operation, endpoint, httpMethod, toolName, requestData, responseData
      recordIds := if recordIds.isEmpty then none else some (",".intercalate recordIds)
      durationMs := some durationMs
      userId := c.userId, ipAddress := c.ipAddress, sessionId := c.sessionId
      userAgent := c.userAgent, authMethod := c.authMethod, oauthClientId := c.oauthClientId
      oauthScope := c.oauthScope })

/-- `record_error` -/
def recordError (errorMessage errorCode : String) (endpoint modelName operation : Option String)
    (c : Caller) : Event :=
  (.error,
    { errorMessage := some errorMessage, errorCode := some errorCode
      endpoint, modelName, operation
      userId := c.userId, ipAddress := c.ipAddress })

/-- `record_quota_exceeded` -/
def recordQuotaExceeded (endpoint : Option String) (c : Caller) : Event :=
  (.quotaExceeded,
    { endpoint, errorMessage := some "Request quota exceeded"
      userId := c.userId, ipAddress := c.ipAddress })

/-- `record_access_denied`; a missing name is written `None`. -/
def recordAccessDenied (modelName : Option String) (operation : String) (endpoint : Option String)
    (c : Caller) : Event :=
  (.permissionDenied,
    { modelName, operation := some operation, endpoint
      errorMessage := some ("Access denied for " ++ operation ++ " on " ++ modelName.getD "None")
      userId := c.userId, ipAddress := c.ipAddress, sessionId := c.sessionId
      userAgent := c.userAgent, authMethod := c.authMethod, oauthClientId := c.oauthClientId
      oauthScope := c.oauthScope })

end AdvMcp.Audit
