import Vasi.Outbox

/-!
# The worker

The background tasks: moving one request along its lifecycle, claiming and
delivering one job, releasing stale jobs, suppressing obsolete ones and queueing
notifications of participant data requests. The rows are selected with the clock
of the database; what follows is decided with the clock of the process.

A query that takes the first row of an order takes any of its rows here. A job
that was claimed is delivered from the row as it was claimed, outside any
transaction, through the integration gateway: the dispatch either throws or
answers with the gateway's attempt. The rows of participant data requests belong
to another component, and so do the events about them.
-/
namespace Vasi.Worker

open JsValue IsoTime Validation CanonicalJson ReadCommitted EngineRows EvidenceEvents EngineCases
  Notifications Outbox

/-! ## The lifecycle -/

/-- The worker's query selects the request. -/
def isDue (row : RequestRow) (now : Time) : Bool :=
  (row.status = .scheduled && row.scheduledFor.any (· ≤ now)) ||
    (row.status.active && row.expiresAt ≤ now)

def previousStatusPayload (status : Status) : Document :=
  ⟨.object [(js "previousStatus", .string status.text)], by
    simp [WellFormed, WellFormedMembers]⟩

/-- Set both statuses to what was decided and say so. -/
def advanceCase (env : Environment) (record : Case) (status : Status) (now : Time)
    (eventId : Uuid) : Except JsString Case :=
  appendCase env (setStatus record status) workerActor (js "request." ++ status.text)
    (previousStatusPayload record.request.status) now eventId

def advanceOneLifecycle (env : Environment) : Engine Outcome := do
  let record ← query .statement fun input view =>
    (caseAt view input.first).bind fun record =>
      if isDue record.request input.databaseClock then some (caseLocks record, record) else none
  let now ← fromOutside (.lifecycleDecision record.request) Outside.clock
  let status := if record.request.expiresAt ≤ now then Status.expired else .issued
  let eventId ← randomUUID
  let advanced ← orRefuse (advanceCase env record status now eventId)
  if status = .expired then
    suppressPendingRequestNotifications (js "request_expired") record.requestId now
  stageChanges (stageCase advanced)
  commitDone (.advanceOneLifecycle record.requestId)

/-! ## Jobs -/

/-- The statuses of a participant data request, and of its scope for the tenant,
that a notification is for. -/
def participantDataStatuses (notificationType : Option JsString) :
    Option (List JsString × JsString) :=
  if notificationType = some PARTICIPANT_DATA_READY then some ([js "ready"], js "approved")
  else if notificationType = some PARTICIPANT_DATA_DENIED then
    some ([js "ready", js "denied"], js "denied")
  else if notificationType = some PARTICIPANT_DATA_PREPARATION_FAILED then
    some ([js "preparation_failed"], js "approved")
  else if notificationType = some PARTICIPANT_DATA_EXPIRED then
    some ([js "expired"], js "approved")
  else none

/-- The status of a participant data request calls for the notification. -/
def participantDataStatusAllows (notificationType : Option JsString) (status : DataRequestStatus) :
    Bool :=
  (participantDataStatuses notificationType).any fun statuses =>
    status.requestStatus ∈ statuses.1 && status.scopeStatus = some statuses.2

/-- The status of a request lets a job of the type be claimed. -/
def requestStatusAllows (notificationType : Option JsString) (status : Status) : Bool :=
  if notificationType = some REQUEST_ISSUED ∨ notificationType = some REQUEST_REMINDER then
    status.active
  else if notificationType = some REQUEST_COMPLETED then status = .completed
  else if notificationType = none then status ≠ .revoked && status ≠ .expired
  else false

/-- The claim selects the job. -/
def isClaimable (input : Outside) (view : EngineStore) (row : JobRow) : Bool :=
  row.status.waiting && row.availableAt ≤ input.databaseClock &&
    match row.participantDataRequestId with
    | some _ => input.dataRequest.any (participantDataStatusAllows row.notificationType)
    | none =>
        match row.requestId.bind (caseAt view) with
        | none => true
        | some record => requestStatusAllows row.notificationType record.request.status

/-- The row of a claimed job. -/
def JobRow.claim (row : JobRow) (now : Time) : JobRow :=
  { row with status := .running, attempts := row.attempts + 1, lockedAt := some now }

/-- Claim a job, in a transaction of its own. -/
def claimJob : Engine (Uuid × JobRow) := do
  let claimed ← query .claimJob fun input view =>
    (jobAt view input.first).bind fun row =>
      if isClaimable input view row then
        some ([(.job input.first, .update)],
          (input.first, JobRow.claim row input.databaseClock))
      else none
  stageChanges fun changes => changes.updateRow (.job claimed.1) claimed.2
  commitChanges (.commit (.claimJob claimed.1))
  return claimed

def boundedErrorCode (code : JsString) : JsString :=
  if isErrorCode code then code else js "delivery_failed"

/-- Deliver a claimed job: what the gateway's attempt came to, or a failure. -/
def dispatchJob (jobId : Uuid) (job : JobRow) : Engine Delivery := do
  let eligible ← fromOutside .statement fun input => job.participantDataRequestId.isNone ||
    input.dataRequest.any (participantDataStatusAllows job.notificationType)
  if eligible then
    query .statement fun input view =>
      match input.thrown with
      | some code => some ([], { adapter := js "notification", outcome := .failed
                                 errorCode := some (boundedErrorCode code) })
      | none => (gatewayAttemptAt view jobId job.attempts).map fun row => ([], row.delivery)
  else return { adapter := js "engine", outcome := .suppressed, errorCode := none }

def retryDelayMilliseconds (attempt : ℕ) : ℤ := min 3600000 (30000 * 2 ^ (attempt - 1))

/-- The delivery settles the job. -/
def isTerminal (job : JobRow) (delivery : Delivery) : Bool :=
  delivery.outcome ≠ .failed || job.maxAttempts ≤ job.attempts

/-- The row of a job after a delivery, from the row it finds and the job as it was claimed. -/
def JobRow.deliver (row job : JobRow) (delivery : Delivery) (completedAt : Time) : JobRow :=
  { row with
    status :=
      if isTerminal job delivery then if delivery.outcome = .failed then .failed else .completed
      else if job.participantDataRequestId.isSome then .participantPending else .pending
    availableAt := completedAt + retryDelayMilliseconds job.attempts
    lockedAt := none
    lastErrorCode := delivery.errorCode
    completedAt := if isTerminal job delivery then some completedAt else none
    result := some { adapter := delivery.adapter, outcome := delivery.outcome, reason := none }
    payload := if isTerminal job delivery then none else row.payload }

def deliverJob (jobId : Uuid) (job : JobRow) : Engine Outcome := do
  let startedAt ← clock
  let delivery ← dispatchJob jobId job
  let completedAt ← fromOutside (.deliveryCompleted startedAt) Outside.clock
  insertNew (.attempt jobId job.attempts) { delivery, startedAt, completedAt }
  let row ← lockRow (.job jobId) .update
  stageChanges fun changes =>
    changes.updateRow (.job jobId) (JobRow.deliver row job delivery completedAt)
  commitDone (.deliverJob jobId job.attempts)

/-- Claim a job and deliver it. -/
def claimAndDeliver : Engine Outcome := do
  let (jobId, job) ← claimJob
  deliverJob jobId job

def staleMilliseconds : ℤ := 600000

/-- The row of a job that is released. -/
def JobRow.release (row : JobRow) (now : Time) : JobRow :=
  { row with
    status := if row.participantDataRequestId.isNone then .pending else .participantPending
    lockedAt := none, availableAt := now }

def recoverStaleJobs : Engine Outcome := do
  updateJobs fun input _ row =>
    if row.status = .running ∧ ∃ lockedAt ∈ row.lockedAt,
        lockedAt < input.databaseClock - staleMilliseconds then
      some (JobRow.release row input.databaseClock)
    else none
  commitDone .recoverStaleJobs

/-- The reason for which the jobs of a request are obsolete, if its status makes them so. -/
def obsoleteReason : Status → Option JsString
  | .completed => some (js "request_completed")
  | .revoked => some (js "request_revoked")
  | .expired => some (js "request_expired")
  | _ => none

def suppressObsoleteJobs : Engine Outcome := do
  updateJobs fun input view row => do
    let requestId ← row.requestId
    let record ← caseAt view requestId
    let reason ← obsoleteReason record.request.status
    if isPendingRequestNotification requestId row then
      some (JobRow.suppress row reason input.databaseClock)
    else none
  commitDone .suppressObsoleteJobs

/-- The status of a participant data request no longer calls for the job. An
absent scope decides nothing, as a comparison with null does. -/
def isObsolete (input : Outside) (row : JobRow) : Bool :=
  row.status = .participantPending && row.participantDataRequestId.isSome &&
    input.dataRequest.any fun status =>
      (participantDataStatuses row.notificationType).any fun statuses =>
        status.requestStatus ∉ statuses.1 || status.scopeStatus.any (· ≠ statuses.2)

def suppressOneObsoleteParticipantDataJob : Engine Outcome := do
  let (jobId, row) ← query .statement fun input view =>
    (jobAt view input.first).bind fun row =>
      if isObsolete input row then some ([(.job input.first, .update)], (input.first, row))
      else none
  let now ← clock
  stageChanges fun changes => changes.updateRow (.job jobId)
    (JobRow.suppress row (js "participant_data_status_changed") now)
  commitDone (.suppressOneObsoleteParticipantDataJob jobId)

/-- A notification of a participant data request to one of its tenants. -/
structure DataNotification where
  participantDataRequestId : Uuid
  tenantId : Uuid
  notificationType : JsString
  payload : Document

/-- The row that queueing it inserts. -/
def DataNotification.row (notification : DataNotification) (idempotencyKey payloadHash : JsString)
    (availableAt createdAt : Time) : JobRow where
  tenantId := notification.tenantId
  requestId := none
  participantDataRequestId := some notification.participantDataRequestId
  notificationType := some notification.notificationType
  idempotencyKey := idempotencyKey
  payload := some notification.payload.val
  payloadHash := payloadHash
  status := .participantPending
  attempts := 0
  maxAttempts := DEFAULT_MAX_ATTEMPTS
  availableAt := availableAt
  createdAt := createdAt
  lockedAt := none
  lastErrorCode := none
  completedAt := none
  result := none

def queueOneParticipantDataNotification (env : Environment) (notification : DataNotification) :
    Engine Outcome := do
  let now ← clock
  let payloadHash ← orRefuse (hashCanonicalJSON env.sha256Hex notification.payload.val)
  let idempotencyKey := js "participant-data:" ++ notification.participantDataRequestId.text ++
    js ":" ++ notification.tenantId.text ++ js ":" ++ notification.notificationType
  insertJob idempotencyKey (notification.row idempotencyKey payloadHash now)
  commitDone .queueOneParticipantDataNotification

end Vasi.Worker
