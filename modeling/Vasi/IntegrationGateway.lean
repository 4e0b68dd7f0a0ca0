import Vasi.Worker

/-!
# The integration gateway

The gateway's delivery of one attempt of a job. It answers a repeated command
with the attempt it has recorded. Otherwise it checks, with share locks, that
the job is the running one the command is about, that its request still calls
for it and that the tenant is admitted; loads the binding of the tenant; sends
the notification; and records what came of it. A failed check is recorded under
the adapter name "unavailable".

Bindings and providers are outside: which binding is loaded, and whether the
provider takes the notification, are outside values.
-/
namespace Vasi.IntegrationGateway

open JsValue IsoTime CanonicalJson ReadCommitted EngineRows EvidenceEvents EngineCases
  Notifications Worker

/-- The worker's command. The notification type is the eventType of the payload. -/
structure DeliverCommand where
  jobId : Uuid
  attempt : ℕ
  tenantId : Uuid
  idempotencyKey : JsString
  notificationType : JsString
  payload : Document

def DeliverCommand.toValue (command : DeliverCommand) : Value :=
  .object [(js "attempt", wholeNumber command.attempt),
    (js "capability", .string (js "notification.delivery")),
    (js "idempotencyKey", .string command.idempotencyKey),
    (js "jobId", .string command.jobId.text), (js "payload", command.payload.val),
    (js "schema", .string (js "vasi-integration-delivery/v1")),
    (js "tenantId", .string command.tenantId.text)]

def jobIntegrityFailure : JsString := js "integration_job_integrity_failure"

def notificationJobObsolete : JsString := js "notification_job_obsolete"

def tenantNotAdmitted : JsString := js "tenant_not_admitted"

def UNAVAILABLE : JsString := js "unavailable"

/-- The job is the running one that the command is about. -/
def isCommanded (command : DeliverCommand) (payloadHash : JsString) (row : JobRow) : Bool :=
  row.notificationType = some command.notificationType && row.tenantId = command.tenantId &&
    row.idempotencyKey = command.idempotencyKey && row.payloadHash = payloadHash &&
    row.status = .running && row.attempts = command.attempt

def workflowStatusAllows (notificationType : Option JsString) (status : Status) : Bool :=
  if notificationType = some REQUEST_ISSUED ∨ notificationType = some REQUEST_REMINDER then
    status.active
  else if notificationType = some REQUEST_COMPLETED then status = .completed
  else status ≠ .expired && status ≠ .revoked

/-- The job's source still calls for it; the request is locked for share. -/
def assertSourceCurrent (row : JobRow) : Engine (Except JsString Unit) :=
  query .statement fun input view =>
    match row.participantDataRequestId, row.requestId with
    | some _, _ => some ([],
        if input.dataRequest.any (participantDataStatusAllows row.notificationType) then .ok ()
        else .error notificationJobObsolete)
    | none, some requestId => some ([(.request requestId, .share)],
        if (caseAt view requestId).any fun record =>
            workflowStatusAllows row.notificationType record.request.status then .ok ()
        else .error notificationJobObsolete)
    | none, none => some ([], .error jobIntegrityFailure)

def assertNotificationJobCurrent (command : DeliverCommand) (payloadHash : JsString) :
    Engine (Except JsString Unit) := do
  let row ← query .statement fun _ view => some ([(.job command.jobId, .share)],
    (jobAt view command.jobId).filter (isCommanded command payloadHash))
  match row with
  | none => return .error jobIntegrityFailure
  | some row => assertSourceCurrent row

/-- The binding of the tenant; its admission is locked for share. -/
def loadBinding (tenantId : Uuid) : Engine (Except JsString Binding) :=
  query .statement fun input view => some ([(.admission tenantId, .share)],
    if (admissionAt view tenantId).any fun row => row.admission.admitted then input.binding
    else .error tenantNotAdmitted)

/-- The delivery when a check before it failed. -/
def unavailableDelivery (code : JsString) : Delivery where
  adapter := UNAVAILABLE
  outcome :=
    if code = notificationJobObsolete ∨ code = tenantNotAdmitted then .suppressed else .failed
  errorCode := some (boundedErrorCode code)

/-- The delivery through a binding. -/
def bindingDelivery (binding : Binding) (thrown : Option JsString) : Delivery :=
  if binding.active ∧ binding.adapterId ≠ .disabled then
    match thrown with
    | some code => ⟨binding.adapterId.id, .failed, some (boundedErrorCode code)⟩
    | none => ⟨binding.adapterId.id, .delivered, none⟩
  else ⟨binding.adapterId.id, .suppressed, none⟩

/-- Check, load the binding and send. -/
def attemptDelivery (command : DeliverCommand) (payloadHash : JsString) : Engine Delivery := do
  match ← assertNotificationJobCurrent command payloadHash with
  | .error code => return unavailableDelivery code
  | .ok () =>
      match ← loadBinding command.tenantId with
      | .error code => return unavailableDelivery code
      | .ok binding => fromOutside .statement fun input => bindingDelivery binding input.thrown

def deliver (env : Environment) (command : DeliverCommand) : Engine Outcome := do
  let requestHash ← orRefuse (hashCanonicalJSON env.sha256Hex command.toValue)
  let payloadHash ← orRefuse (hashCanonicalJSON env.sha256Hex command.payload.val)
  let previous ← readRows .statement fun _ view =>
    gatewayAttemptAt view command.jobId command.attempt
  match previous with
  | some row => do
      require (row.requestHash = requestHash) (js "integration_attempt_conflict")
      return .done
  | none => do
      let startedAt ← clock
      let delivery ← attemptDelivery command payloadHash
      let completedAt ← fromOutside (.gatewayCompleted delivery) Outside.clock
      insertNew (.gatewayAttempt command.jobId command.attempt)
        { tenantId := command.tenantId, requestHash, delivery, startedAt, completedAt }
      commitDone (.deliver command.jobId command.attempt)

end Vasi.IntegrationGateway
