import Vasi.EngineCases
import Vasi.Notifications

/-!
# The notification outbox

Queueing a notification of a request and the updates that settle or release the
jobs of an outbox in bulk. A queued payload is encrypted in the source; here the
row holds the document itself until it is redacted.
-/
namespace Vasi.Outbox

open JsValue IsoTime CanonicalJson ReadCommitted EngineRows EvidenceEvents EngineCases
  Notifications

/-- The default of the maxAttempts column. -/
def DEFAULT_MAX_ATTEMPTS : ℕ := 5

/-- The arguments of queueNotification. -/
structure NewNotification where
  availableAt : Time
  idempotencyKey : JsString
  notificationType : JsString
  payload : Document
  requestId : Uuid
  tenantId : Uuid

/-- The number of jobs below which another of this type is queued. -/
def NewNotification.maximumBeforeInsert (notification : NewNotification) : ℕ :=
  if notification.notificationType = REQUEST_COMPLETED then NOTIFICATION_JOB_LIMIT
  else NOTIFICATION_JOB_LIMIT - 1

/-- The row that queueing inserts. -/
def NewNotification.row (notification : NewNotification) (payloadHash : JsString)
    (createdAt : Time) : JobRow where
  tenantId := notification.tenantId
  requestId := some notification.requestId
  participantDataRequestId := none
  notificationType := some notification.notificationType
  idempotencyKey := notification.idempotencyKey
  payload := some notification.payload.val
  payloadHash := payloadHash
  status := .pending
  attempts := 0
  maxAttempts := DEFAULT_MAX_ATTEMPTS
  availableAt := notification.availableAt
  createdAt := createdAt
  lockedAt := none
  lastErrorCode := none
  completedAt := none
  result := none

/-- Insert a job unless one with its idempotency key exists. -/
def insertJob (idempotencyKey : JsString) (row : Time → JobRow) : Engine Unit := do
  let inserted ← query .statement fun input view =>
    if (jobRows view).any fun job => job.2.idempotencyKey = idempotencyKey then some ([], none)
    else if (view.lookup (.job input.uuid)).isSome then none
    else some ([], some (input.uuid, row input.databaseClock))
  stageChanges fun changes => match inserted with
    | some (id, row) => changes.insertRow (.job id) row
    | none => changes

def queueNotification (env : Environment) (notification : NewNotification) : Engine Unit := do
  let count ← readRows .statement fun _ view => (requestJobs view notification.requestId).length
  require (count < notification.maximumBeforeInsert) (js "notification_limit_exceeded")
  let payloadHash ← orRefuse (hashCanonicalJSON env.sha256Hex notification.payload.val)
  insertJob notification.idempotencyKey (notification.row payloadHash)

/-- One update statement over the jobs for which a new row is given. -/
def updateJobs (update : Outside → EngineStore → JobRow → Option JobRow) : Engine Unit := do
  let updated ← query .statement fun input view =>
    let rows := (jobRows view).filterMap fun job => (update input view job.2).map (job.1, ·)
    some (rows.map fun job => (Key.job job.1, LockMode.update), rows)
  stageChanges fun changes => updated.foldl
    (fun changes job => changes.updateRow (.job job.1) job.2) changes

/-- The job is settled without a delivery, and its payload redacted. -/
def JobRow.suppress (row : JobRow) (reason : JsString) (suppressedAt : Time) : JobRow :=
  { row with
    status := .completed, completedAt := some suppressedAt, payload := none
    result := some { adapter := js "engine", outcome := .suppressed, reason := some reason } }

/-- A job of the request that is waiting to be claimed and calls for an answer. -/
def isPendingRequestNotification (requestId : Uuid) (row : JobRow) : Bool :=
  row.requestId = some requestId && row.status = .pending &&
    (row.notificationType = some REQUEST_ISSUED || row.notificationType = some REQUEST_REMINDER)

theorem isPendingRequestNotification_waiting {requestId : Uuid} {row : JobRow}
    (pending : isPendingRequestNotification requestId row = true) :
    row.status.waiting = true := by
  simp only [isPendingRequestNotification, Bool.and_eq_true, decide_eq_true_eq] at pending
  rw [pending.1.2]
  rfl

def suppressPendingRequestNotifications (reason : JsString) (requestId : Uuid)
    (suppressedAt : Time) : Engine Unit :=
  updateJobs fun _ _ row =>
    if isPendingRequestNotification requestId row then some (JobRow.suppress row reason suppressedAt)
    else none

end Vasi.Outbox
