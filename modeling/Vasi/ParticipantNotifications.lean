import Mathlib.Logic.Relation
import Vasi.Notifications

/-!
# Participant data notifications

queueOneParticipantDataNotification, claimJob, deliverJob,
suppressOneObsoleteParticipantDataJob and recoverStaleJobs, run by any number of workers
while the data requests change their status. A statement sees the rows committed before
it began and takes its row locks later: a row changed in between is read again, but not
what the statement read from other tables. Row locks are kept to the end of the
transaction, and a statement skips or waits for a locked row.

Which of several rows a statement takes first is left open. The payloads, the delivery
attempts, the hash chain of the events and jobs of other kinds are left out; the call to
the integration gateway has any outcome.
-/
namespace Vasi.ParticipantNotifications

open JsValue Notifications

/-- An identifier made by randomUUID. -/
abbrev Id := { text : JsString // text.length = 36 }

/-- participant_data_request.status -/
inductive RequestStatus where
  | pendingReview
  | approved
  | partiallyApproved
  | preparationFailed
  | denied
  | ready
  | expired
  | cancelled
deriving DecidableEq

/-- participant_data_request_scope.status -/
inductive ScopeStatus where
  | pendingReview
  | approved
  | denied
deriving DecidableEq

inductive NotificationType where
  | ready
  | denied
  | preparationFailed
  | expired
deriving DecidableEq

def NotificationType.text : NotificationType → JsString
  | ready => PARTICIPANT_DATA_READY
  | denied => PARTICIPANT_DATA_DENIED
  | preparationFailed => PARTICIPANT_DATA_PREPARATION_FAILED
  | expired => PARTICIPANT_DATA_EXPIRED

inductive JobStatus where
  | participantPending
  | running
  | completed
  | failed
deriving DecidableEq

/-- The outcome of a delivery. -/
inductive Outcome where
  | delivered
  | suppressed
  | failed
deriving DecidableEq

/-- The event types about notifications. -/
inductive EventType where
  | queued
  | providerAccepted
  | suppressed
  | failed
deriving DecidableEq

/-- An outbox_job row for a data request. Times are milliseconds. -/
structure Job where
  id : Id
  notificationType : NotificationType
  tenantId : Id
  participantDataRequestId : Id
  status : JobStatus
  attempts : ℕ
  maxAttempts : ℕ
  availableAt : ℕ
  lockedAt : Option ℕ
  result : Option Outcome

/-- A participant_data_request_event row about a notification. -/
structure NotificationEvent where
  jobId : Id
  eventType : EventType
  notificationType : NotificationType
  requestId : Id
  tenantId : Id
deriving DecidableEq

/-- concat('participant-data:', request, ':', tenant, ':', type) -/
def idempotencyKey (requestId tenantId : Id) (type : NotificationType) : JsString :=
  js "participant-data:" ++ requestId.val ++ js ":" ++ tenantId.val ++ js ":" ++ type.text

def Job.idempotencyKey (job : Job) : JsString :=
  ParticipantNotifications.idempotencyKey job.participantDataRequestId job.tenantId
    job.notificationType

/-! ## SQL conditions -/

/-- A condition that may be null. -/
abbrev Condition := Option Bool

/-- `column = value`, null for a null column. -/
def isEqual {α : Type} [DecidableEq α] (column : Option α) (value : α) : Condition :=
  column.map fun actual => decide (actual = value)

/-- `column <> value`, null for a null column. -/
def isOther {α : Type} [DecidableEq α] (column : Option α) (value : α) : Condition :=
  column.map fun actual => decide (actual ≠ value)

/-- `column in (values)`, null for a null column. -/
def isIn {α : Type} [DecidableEq α] (column : Option α) (values : List α) : Condition :=
  column.map fun actual => decide (actual ∈ values)

/-- `column not in (values)`, null for a null column. -/
def isNotIn {α : Type} [DecidableEq α] (column : Option α) (values : List α) : Condition :=
  column.map fun actual => decide (actual ∉ values)

/-- SQL's and: false decides, else null does. -/
def both : Condition → Condition → Condition
  | some false, _ => some false
  | _, some false => some false
  | some true, some true => some true
  | _, _ => none

/-- SQL's or: true decides, else null does. -/
def either : Condition → Condition → Condition
  | some true, _ => some true
  | _, some true => some true
  | some false, some false => some false
  | _, _ => none

/-- A row passes a where clause if the condition is true, not if it is null. -/
def passes (condition : Condition) : Bool := condition == some true

/-! ## The table of types and statuses, as it is written four times -/

/-- The case of queueOneParticipantDataNotification, on joined rows. -/
def notificationTypeOf (request : RequestStatus) (scope : ScopeStatus) (hasExport : Bool) :
    Option NotificationType :=
  if request = .ready ∧ scope = .approved then some .ready
  else if request ∈ [.ready, .denied] ∧ scope = .denied then some .denied
  else if request = .preparationFailed ∧ scope = .approved then some .preparationFailed
  else if request = .expired ∧ scope = .approved ∧ hasExport then some .expired
  else none

/-- The condition of claimJob on the statuses. -/
def claimable (type : NotificationType) (request : Option RequestStatus)
    (scope : Option ScopeStatus) : Condition :=
  either (both (some (type = .ready))
      (both (isEqual request .ready) (isEqual scope .approved))) <|
    either (both (some (type = .denied))
      (both (isIn request [.ready, .denied]) (isEqual scope .denied))) <|
    either (both (some (type = .preparationFailed))
      (both (isEqual request .preparationFailed) (isEqual scope .approved)))
      (both (some (type = .expired))
        (both (isEqual request .expired) (isEqual scope .approved)))

/-- The condition of suppressOneObsoleteParticipantDataJob on the statuses. -/
def suppressible (type : NotificationType) (request : Option RequestStatus)
    (scope : Option ScopeStatus) : Condition :=
  either (both (some (type = .ready))
      (either (isOther request .ready) (isOther scope .approved))) <|
    either (both (some (type = .denied))
      (either (isNotIn request [.ready, .denied]) (isOther scope .denied))) <|
    either (both (some (type = .preparationFailed))
      (either (isOther request .preparationFailed) (isOther scope .approved)))
      (both (some (type = .expired))
        (either (isOther request .expired) (isOther scope .approved)))

/-- participantDataJobIsEligible -/
def participantDataJobIsEligible (type : NotificationType) (request : Option RequestStatus)
    (scope : Option ScopeStatus) : Bool :=
  match request with
  | none => false
  | some request =>
      match type with
      | .ready => request = .ready && scope = some .approved
      | .denied => request ∈ [.ready, .denied] && scope = some .denied
      | .preparationFailed => request = .preparationFailed && scope = some .approved
      | .expired => request = .expired && scope = some .approved

/-! ## Settling a job -/

def retryDelayMilliseconds (attempt : ℕ) : ℕ := min 3600000 (30000 * 2 ^ (attempt - 1))

/-- `delivery.outcome !== "failed" || attempts >= maxAttempts` -/
def isTerminal (job : Job) (outcome : Outcome) : Bool :=
  outcome ≠ .failed || job.attempts ≥ job.maxAttempts

def nextStatus (job : Job) (outcome : Outcome) : JobStatus :=
  if isTerminal job outcome then if outcome = .failed then .failed else .completed
  else .participantPending

/-- The update of deliverJob, for a job as it was claimed. -/
def Job.settle (claimed : Job) (outcome : Outcome) (completedAt : ℕ) (row : Job) : Job :=
  { row with
    status := nextStatus claimed outcome
    availableAt := completedAt + retryDelayMilliseconds claimed.attempts
    lockedAt := none
    result := some outcome }

def Outcome.eventType : Outcome → EventType
  | delivered => .providerAccepted
  | suppressed => .suppressed
  | failed => .failed

def Job.event (job : Job) (eventType : EventType) : NotificationEvent :=
  ⟨job.id, eventType, job.notificationType, job.participantDataRequestId, job.tenantId⟩

/-- The commandId of an event: one for the queueing of a job, one for its end. -/
def commandId (event : NotificationEvent) : JsString :=
  js "participant-data-notification:" ++ event.jobId.val ++
    if event.eventType = .queued then js ":queued" else js ":terminal"

/-- The update of suppressOneObsoleteParticipantDataJob. -/
def Job.suppress (row : Job) : Job := { row with status := .completed, result := some .suppressed }

/-- The update of claimJob. -/
def Job.claim (now : ℕ) (row : Job) : Job :=
  { row with status := .running, attempts := row.attempts + 1, lockedAt := some now }

/-- The update of recoverStaleJobs. -/
def Job.recover (now : ℕ) (row : Job) : Job :=
  if row.status = .running ∧ row.lockedAt.any fun lockedAt => lockedAt + 600000 < now then
    { row with status := .participantPending, lockedAt := none, availableAt := now }
  else row

/-! ## Sessions -/

/-- Where a worker's operation stands. -/
inductive Session where
  /-- The queueing statement has its snapshot and reaches for the row of a request. -/
  | selecting (keys : List JsString) (requestId tenantId : Id) (scope : ScopeStatus)
      (hasExport : Bool)
  | selected (requestId tenantId : Id) (type : NotificationType)
  | queued (job : Job) (inserted : Bool)
  /-- The claiming statement has its snapshot and reaches for the row of a job. -/
  | claiming (jobId : Id) (request : Option RequestStatus) (scope : Option ScopeStatus)
  | delivering (job : Job)
  | settling (job : Job) (outcome : Outcome)
  /-- The suppressing statement has its snapshot and reaches for the row of a job. -/
  | suppressing (jobId : Id) (request : Option RequestStatus) (scope : Option ScopeStatus)

/-- The request whose row a session has locked. -/
def Session.locked : Session → Option Id
  | .selected requestId _ _ => some requestId
  | .queued job _ => some job.participantDataRequestId
  | _ => none

/-- The job that a session has prepared and not committed. -/
def Session.staged : Session → Option Job
  | .queued job _ => some job
  | _ => none

structure State where
  requests : Id → Option RequestStatus
  scopes : Id → Id → Option ScopeStatus
  exports : Id → Bool
  jobs : List Job
  events : List NotificationEvent
  sessions : ℕ → Option Session
  clock : ℕ

def State.set (state : State) (id : ℕ) (session : Option Session) : State :=
  { state with sessions := Function.update state.sessions id session }

/-- No other session has locked the row of the request. -/
def State.Free (state : State) (id : ℕ) (requestId : Id) : Prop :=
  ∀ other session, other ≠ id → state.sessions other = some session →
    session.locked ≠ some requestId

def updateJob (id : Id) (change : Job → Job) (jobs : List Job) : List Job :=
  jobs.map fun job => if job.id = id then change job else job

def setScope (scopes : Id → Id → Option ScopeStatus) (requestId tenantId : Id)
    (status : ScopeStatus) : Id → Id → Option ScopeStatus :=
  Function.update scopes requestId (Function.update (scopes requestId) tenantId (some status))

/-- No event has the command of this one. -/
def Unused (events : List NotificationEvent) (event : NotificationEvent) : Prop :=
  ∀ other ∈ events, commandId other ≠ commandId event

/-- The job is still running as it was claimed. -/
def StillClaimed (jobs : List Job) (claimed : Job) : Prop :=
  ∃ job ∈ jobs, job.id = claimed.id ∧ job.status = .running ∧ job.attempts = claimed.attempts

/-- One statement or transaction. Under `careful` no queueing finds its key taken, and no
delivery is settled after its claim has been recovered. -/
inductive Step (careful : Prop) : State → State → Prop
  | tick {state : State} {later : ℕ} (forward : state.clock ≤ later) :
      Step careful state { state with clock := later }
  | changeRequest {state : State} {id : ℕ} {requestId : Id} {status : RequestStatus}
      (idle : state.sessions id = none) (free : state.Free id requestId) :
      Step careful state
        { state with requests := Function.update state.requests requestId (some status) }
  | changeScope {state : State} {requestId tenantId : Id} {status : ScopeStatus} :
      Step careful state { state with scopes := setScope state.scopes requestId tenantId status }
  | changeExport {state : State} {requestId : Id} {present : Bool} :
      Step careful state { state with exports := Function.update state.exports requestId present }
  | lookForRequest {state : State} {id : ℕ} {requestId tenantId : Id} {request : RequestStatus}
      {scope : ScopeStatus} {type : NotificationType} (idle : state.sessions id = none)
      (isRequest : state.requests requestId = some request)
      (isScope : state.scopes requestId tenantId = some scope)
      (typed : notificationTypeOf request scope (state.exports requestId) = some type)
      (absent : idempotencyKey requestId tenantId type ∉ state.jobs.map Job.idempotencyKey) :
      Step careful state (state.set id (some (.selecting (state.jobs.map Job.idempotencyKey)
        requestId tenantId scope (state.exports requestId))))
  | lockRequest {state : State} {id : ℕ} {keys : List JsString} {requestId tenantId : Id}
      {request : RequestStatus} {scope : ScopeStatus} {hasExport : Bool} {type : NotificationType}
      (selecting : state.sessions id = some (.selecting keys requestId tenantId scope hasExport))
      (free : state.Free id requestId) (isRequest : state.requests requestId = some request)
      (typed : notificationTypeOf request scope hasExport = some type)
      (absent : idempotencyKey requestId tenantId type ∉ keys) :
      Step careful state (state.set id (some (.selected requestId tenantId type)))
  | insertJob {state : State} {id : ℕ} {requestId tenantId : Id} {type : NotificationType}
      {jobId : Id}
      (selected : state.sessions id = some (.selected requestId tenantId type))
      (newJob : ∀ job ∈ state.jobs, job.id ≠ jobId)
      (newEvent : ∀ event ∈ state.events, event.jobId ≠ jobId)
      (others : ∀ other session, other ≠ id → state.sessions other = some session →
        ∀ job ∈ session.staged, job.id ≠ jobId ∧
          job.idempotencyKey ≠ idempotencyKey requestId tenantId type)
      (guarded : careful →
        idempotencyKey requestId tenantId type ∉ state.jobs.map Job.idempotencyKey) :
      Step careful state (state.set id (some (.queued
        { id := jobId, notificationType := type, tenantId, participantDataRequestId := requestId,
          status := .participantPending, attempts := 0, maxAttempts := 5, availableAt := state.clock,
          lockedAt := none, result := none }
        (decide (idempotencyKey requestId tenantId type ∉ state.jobs.map Job.idempotencyKey)))))
  | commitQueue {state : State} {id : ℕ} {job : Job} {inserted : Bool}
      (queued : state.sessions id = some (.queued job inserted)) :
      Step careful state { state.set id none with
        jobs := if inserted then state.jobs ++ [job] else state.jobs
        events := state.events ++ [job.event .queued] }
  | lookForJob {state : State} {id : ℕ} {job : Job} (idle : state.sessions id = none)
      (found : job ∈ state.jobs) (pending : job.status = .participantPending)
      (due : job.availableAt ≤ state.clock)
      (isClaimable : passes (claimable job.notificationType
        (state.requests job.participantDataRequestId)
        (state.scopes job.participantDataRequestId job.tenantId)) = true) :
      Step careful state (state.set id (some (.claiming job.id
        (state.requests job.participantDataRequestId)
        (state.scopes job.participantDataRequestId job.tenantId))))
  | claimJob {state : State} {id : ℕ} {job : Job} {request : Option RequestStatus}
      {scope : Option ScopeStatus}
      (claiming : state.sessions id = some (.claiming job.id request scope))
      (found : job ∈ state.jobs) (pending : job.status = .participantPending)
      (due : job.availableAt ≤ state.clock)
      (isClaimable : passes (claimable job.notificationType request scope) = true) :
      Step careful state { state.set id (some (.delivering (job.claim state.clock))) with
        jobs := updateJob job.id (Job.claim state.clock) state.jobs }
  | deliverJob {state : State} {id : ℕ} {job : Job} {outcome : Outcome}
      (delivering : state.sessions id = some (.delivering job))
      (obsolete : participantDataJobIsEligible job.notificationType
        (state.requests job.participantDataRequestId)
        (state.scopes job.participantDataRequestId job.tenantId) = false →
        outcome ≠ .delivered) :
      Step careful state (state.set id (some (.settling job outcome)))
  | settleJob {state : State} {id : ℕ} {job : Job} {outcome : Outcome}
      (settling : state.sessions id = some (.settling job outcome))
      (unused : isTerminal job outcome = true →
        Unused state.events (job.event outcome.eventType))
      (guarded : careful → StillClaimed state.jobs job) :
      Step careful state { state.set id none with
        jobs := updateJob job.id (Job.settle job outcome state.clock) state.jobs
        events := if isTerminal job outcome then state.events ++ [job.event outcome.eventType]
          else state.events }
  | lookForObsolete {state : State} {id : ℕ} {job : Job} (idle : state.sessions id = none)
      (found : job ∈ state.jobs) (pending : job.status = .participantPending)
      (isSuppressible : passes (suppressible job.notificationType
        (state.requests job.participantDataRequestId)
        (state.scopes job.participantDataRequestId job.tenantId)) = true) :
      Step careful state (state.set id (some (.suppressing job.id
        (state.requests job.participantDataRequestId)
        (state.scopes job.participantDataRequestId job.tenantId))))
  | suppressJob {state : State} {id : ℕ} {job : Job} {request : Option RequestStatus}
      {scope : Option ScopeStatus}
      (suppressing : state.sessions id = some (.suppressing job.id request scope))
      (found : job ∈ state.jobs) (pending : job.status = .participantPending)
      (isSuppressible : passes (suppressible job.notificationType request scope) = true)
      (unused : Unused state.events (job.event .suppressed)) :
      Step careful state { state.set id none with
        jobs := updateJob job.id Job.suppress state.jobs
        events := state.events ++ [job.event .suppressed] }
  | recoverStaleJobs {state : State} :
      Step careful state { state with jobs := state.jobs.map (Job.recover state.clock) }
  | crash {state : State} (id : ℕ) : Step careful state (state.set id none)

end Vasi.ParticipantNotifications
