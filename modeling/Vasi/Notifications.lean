import Vasi.EngineRows

/-!
# Notification delivery evidence

The notification state of a request as its sealed record captures it: the jobs
queued by then with the attempts completed by then, read from the rows as they
are now, and the check that the captured value has to pass. A refused value
makes the final answer fail.

The captured object is built by the program with the members the check allows,
so its shape is its type here; every other check is made as the source makes it.
Times have the millisecond precision of the captured texts.
-/
namespace Vasi.Notifications

open JsValue IsoTime Validation EngineRows

def REQUEST_ISSUED : JsString := js "request.issued"

def REQUEST_REMINDER : JsString := js "request.reminder"

def REQUEST_COMPLETED : JsString := js "request.completed"

def PARTICIPANT_DATA_READY : JsString := js "participant_data.ready"

def PARTICIPANT_DATA_DENIED : JsString := js "participant_data.denied"

def PARTICIPANT_DATA_PREPARATION_FAILED : JsString := js "participant_data.preparation_failed"

def PARTICIPANT_DATA_EXPIRED : JsString := js "participant_data.expired"

def NOTIFICATION_TYPES : List JsString :=
  [REQUEST_ISSUED, REQUEST_REMINDER, REQUEST_COMPLETED, PARTICIPANT_DATA_READY,
    PARTICIPANT_DATA_DENIED, PARTICIPANT_DATA_PREPARATION_FAILED, PARTICIPANT_DATA_EXPIRED]

def NOTIFICATION_JOB_LIMIT : ℕ := 32

def NOTIFICATION_DELIVERY_LIMITATIONS : List JsString :=
  [js "Provider acceptance means the configured adapter accepted the notification; it does not " ++
      js "prove inbox delivery, receipt, reading, attention, or identity.",
   js "This sealed snapshot includes only notification state and immutable attempts available " ++
      js "when the evidence record was sealed."]

def JOB_STATUSES : List JsString :=
  [js "scheduled", js "queued", js "processing", js "provider_accepted", js "suppressed",
    js "failed", js "indeterminate"]

def ATTEMPT_OUTCOMES : List JsString := [js "provider_accepted", js "suppressed", js "failed"]

def NOTIFICATION_ADAPTERS : List JsString :=
  [js "disabled", js "microsoft_graph", js "notification", js "smtp", js "webhook"]

def SCHEMA : JsString := js "vasi-notification-delivery-evidence/v1"

/-! ## Captured values -/

structure CapturedAttempt where
  adapter : JsString
  attempt : ℕ
  completedAt : JsString
  errorCode : Option JsString
  outcome : JsString
  startedAt : JsString

structure CapturedJob where
  attempts : List CapturedAttempt
  id : JsString
  notificationType : JsString
  queuedAt : JsString
  scheduledFor : JsString
  status : JsString

structure DeliveryEvidence where
  capturedAt : JsString
  jobs : List CapturedJob
  limitations : List JsString
  schema : JsString

def DeliveryOutcome.text : DeliveryOutcome → JsString
  | .delivered => js "delivered"
  | .failed => js "failed"
  | .suppressed => js "suppressed"

/-- The status of a job as shown and sealed; the job's result takes precedence
over the outcome of the attempt read with it. -/
def notificationOperationalStatus (status : JobStatus) (availableAt : Time)
    (resultOutcome attemptOutcome : Option DeliveryOutcome) (now : Time) : JsString :=
  match status, resultOutcome.or attemptOutcome with
  | .pending, _ | .participantPending, _ =>
      if availableAt > now then js "scheduled" else js "queued"
  | .running, _ => js "processing"
  | .failed, _ => js "failed"
  | .completed, some .delivered => js "provider_accepted"
  | .completed, some .suppressed => js "suppressed"
  | .completed, some .failed => js "failed"
  | .completed, none => js "indeterminate"

def notificationEvidenceOutcome : DeliveryOutcome → JsString
  | .delivered => js "provider_accepted"
  | .failed => js "failed"
  | .suppressed => js "suppressed"

/-! ## The check -/

def invalidNotification {α : Type} (message : JsString) : Checked α :=
  .error ⟨js "INVALID_NOTIFICATION_DELIVERY", message⟩

/-- A token of bounded length. -/
def isBoundedToken (value : JsString) (maximum : ℕ) : Bool :=
  1 ≤ value.length && value.length ≤ maximum && value.all isTokenUnit

/-- Refuse unless a condition holds. -/
def check (condition : Bool) (message : JsString) : Checked Unit :=
  if condition then .ok () else invalidNotification message

def validateAttempt (value : CapturedAttempt) (capturedAt : JsString) : Checked Unit := do
  check (isBoundedToken value.adapter 64) (js "notification_adapter_invalid")
  check (value.adapter ∈ NOTIFICATION_ADAPTERS) (js "notification_delivery_adapter_invalid")
  check (1 ≤ value.attempt && value.attempt ≤ 20)
    (js "notification_delivery_attempt_number_invalid")
  check (isCanonicalTimestamp value.startedAt) (js "startedAt_invalid")
  check (isCanonicalTimestamp value.completedAt) (js "completedAt_invalid")
  check (readTime value.startedAt ≤ readTime value.completedAt &&
    readTime value.completedAt ≤ readTime capturedAt)
    (js "notification_delivery_attempt_time_invalid")
  check (value.outcome ∈ ATTEMPT_OUTCOMES) (js "notification_delivery_attempt_outcome_invalid")
  check (value.errorCode.all isErrorCode) (js "notification_error_code_invalid")
  check (value.outcome ≠ js "failed" || value.errorCode.isSome)
    (js "notification_delivery_attempt_error_missing")
  check (value.outcome = js "failed" || value.errorCode.isNone)
    (js "notification_delivery_attempt_error_unexpected")

/-- Each attempt is valid and its number is greater than the one before. -/
def validateAttempts (capturedAt : JsString) (previousAttempt : ℕ) :
    List CapturedAttempt → Checked Unit
  | [] => .ok ()
  | attempt :: rest => do
      validateAttempt attempt capturedAt
      check (attempt.attempt > previousAttempt)
        (js "notification_delivery_attempt_order_invalid")
      validateAttempts capturedAt attempt.attempt rest

def validateJob (value : CapturedJob) (capturedAt : JsString) (jobIds : List JsString) :
    Checked Unit := do
  check (isBoundedToken value.id 128) (js "notification_job_id_invalid")
  check (value.id ∉ jobIds) (js "notification_delivery_job_duplicate")
  check (value.notificationType ∈ NOTIFICATION_TYPES) (js "notification_type_invalid")
  check (isCanonicalTimestamp value.queuedAt) (js "queuedAt_invalid")
  check (isCanonicalTimestamp value.scheduledFor) (js "scheduledFor_invalid")
  check (readTime value.queuedAt ≤ readTime capturedAt)
    (js "notification_delivery_job_time_invalid")
  check (value.status ∈ JOB_STATUSES) (js "notification_delivery_status_invalid")
  check (value.attempts.length ≤ 20) (js "notification_delivery_attempts_invalid")
  validateAttempts capturedAt 0 value.attempts
  let lastOutcome := value.attempts.getLast?.map CapturedAttempt.outcome
  check (value.status ≠ js "provider_accepted" || lastOutcome = some (js "provider_accepted"))
    (js "notification_delivery_status_attempt_mismatch")
  check (value.status ≠ js "failed" || value.attempts.isEmpty || lastOutcome = some (js "failed"))
    (js "notification_delivery_status_attempt_mismatch")

/-- Each job is valid and its identifier is not one of those before it. -/
def validateJobs (capturedAt : JsString) (jobIds : List JsString) : List CapturedJob → Checked Unit
  | [] => .ok ()
  | job :: rest => do
      validateJob job capturedAt jobIds
      validateJobs capturedAt (job.id :: jobIds) rest

def validateNotificationDeliveryEvidence (value : DeliveryEvidence) (expectedCapturedAt : JsString) :
    Checked DeliveryEvidence := do
  check (value.schema = SCHEMA) (js "notification_delivery_schema_invalid")
  check (isCanonicalTimestamp value.capturedAt) (js "capturedAt_invalid")
  check (isCanonicalTimestamp expectedCapturedAt) (js "expectedCapturedAt_invalid")
  check (value.capturedAt = expectedCapturedAt) (js "notification_delivery_capture_invalid")
  check (value.limitations = NOTIFICATION_DELIVERY_LIMITATIONS)
    (js "notification_delivery_limitations_invalid")
  check (value.jobs.length ≤ NOTIFICATION_JOB_LIMIT) (js "notification_delivery_jobs_invalid")
  validateJobs value.capturedAt [] value.jobs
  return value

/-! ## Capturing -/

/-- The outbox_job rows of a request. -/
def requestJobs (view : EngineStore) (requestId : Uuid) : List (Uuid × JobRow) :=
  (jobRows view).filter fun job => job.2.requestId = some requestId

/-- The attempts of a job completed by then, in the order of their numbers. -/
def attemptsBy (view : EngineStore) (jobId : Uuid) (capturedAt : Time) : List (ℕ × AttemptRow) :=
  ((attemptRows view jobId).filter fun attempt => attempt.2.completedAt ≤ capturedAt).insertionSort
    fun left right => left.1 ≤ right.1

def captureAttempt (attempt : ℕ × AttemptRow) : CapturedAttempt where
  adapter := attempt.2.delivery.adapter
  attempt := attempt.1
  completedAt := isoText attempt.2.completedAt
  errorCode := attempt.2.delivery.errorCode
  outcome := notificationEvidenceOutcome attempt.2.delivery.outcome
  startedAt := isoText attempt.2.startedAt

def captureJob (view : EngineStore) (capturedAt : Time) (job : Uuid × JobRow) : CapturedJob :=
  let attempts := attemptsBy view job.1 capturedAt
  { attempts := attempts.map captureAttempt
    id := job.1.text
    notificationType := job.2.notificationType.getD []
    queuedAt := isoText job.2.createdAt
    scheduledFor := isoText job.2.availableAt
    status := notificationOperationalStatus job.2.status job.2.availableAt
      (job.2.result.map JobResult.outcome)
      (attempts.head?.map fun attempt => attempt.2.delivery.outcome) capturedAt }

/-- The jobs of a request queued by then, in the order they were queued. -/
def jobsBy (view : EngineStore) (tenantId requestId : Uuid) (capturedAt : Time) :
    List (Uuid × JobRow) :=
  ((requestJobs view requestId).filter fun job => job.2.tenantId = tenantId &&
    job.2.notificationType.isSome && job.2.createdAt ≤ capturedAt).insertionSort
    fun left right => left.2.createdAt < right.2.createdAt ∨
      (left.2.createdAt = right.2.createdAt ∧ left.1.toNat ≤ right.1.toNat)

def loadNotificationDeliveryEvidence (view : EngineStore) (tenantId requestId : Uuid)
    (capturedAt : Time) : Checked DeliveryEvidence :=
  validateNotificationDeliveryEvidence
    { capturedAt := isoText capturedAt
      jobs := (jobsBy view tenantId requestId capturedAt).map (captureJob view capturedAt)
      limitations := NOTIFICATION_DELIVERY_LIMITATIONS
      schema := SCHEMA } (isoText capturedAt)

end Vasi.Notifications
