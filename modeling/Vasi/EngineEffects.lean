import Vasi.IntegrationGateway
import Vasi.ProductStore
import Vasi.Respond

/-!
# What the commits of the engine do

The contract of all programs of the engine, the worker and the gateway: the
steps that a case, a job, an attempt or an admission may take in a transaction,
and how the rows may move while a session is not looking. Each step is the
function the program computes, so what a step preserves is a fact about that
function; the programs are shown to keep the contract elsewhere.
-/
namespace Vasi.EngineEffects

open JsValue IsoTime ReadCommitted EngineRows EvidenceEvents EngineCases Notifications Outbox
  EvidenceStore Sealing Respond RequestActions ProductStore Worker IntegrationGateway Admission

/-- The parts of the platform that the programs are given. -/
structure Platform where
  env : Environment
  provider : SigningProvider
  verifier : Verifier

abbrev EngineGuard := Guard Row Outside Point

/-! ## Steps of a case -/

/-- An answer to the current activity that a respond transaction records. -/
structure Answering (platform : Platform) (command : RespondCommand) (record : Case)
    (workflow : PublishedWorkflow) (completedAt : Time) (answered : Answered) : Prop where
  available : ∃ now, assertAssignmentAvailable record now = .ok ()
  notCompleted : record.assignment.status ≠ .completed
  participant : interactionIs record command.interactionId command.actor = true
  workflow : record.request.workflow = some workflow
  answered : ∃ now revisionId eventId,
    answerActivity platform.env record command now completedAt revisionId eventId = .ok answered

/-- How a transaction may change a case that is there. -/
inductive CaseStep (platform : Platform) (guard : EngineGuard) :
    TransactionName → Case → Case → Prop where
  | opened (command : ParticipantCommand) (now : Time) (interactionId eventId : Uuid)
      (record after : Case) (notCompleted : record.assignment.status ≠ .completed)
      (step : openCase platform.env record command now interactionId eventId = .ok after) :
      CaseStep platform guard (.openAssignment record.requestId) record after
  | recorded (recording : Recording) (command : RecordCommand) (now : Time) (eventId : Uuid)
      (record after : Case)
      (step : recordCase platform.env recording record command now eventId = .ok after) :
      CaseStep platform guard (recording.transaction record.requestId) record after
  | presented (command : ArtifactCommand) (now : Time) (eventId : Uuid) (record after : Case)
      (step : openArtifactCase platform.env record command now eventId = .ok after) :
      CaseStep platform guard (.openParticipantArtifact record.requestId) record after
  | saved (command : RespondCommand) (record : Case) (workflow : PublishedWorkflow)
      (completedAt : Time) (answered : Answered)
      (answering : Answering platform command record workflow completedAt answered)
      (intent : command.intent = .save) :
      CaseStep platform guard (.respond record.requestId) record answered.record
  | submitted (command : RespondCommand) (record : Case) (workflow : PublishedWorkflow)
      (completedAt : Time) (answered : Answered) (responseId eventId : Uuid)
      (nextActivityId : JsString) (after : Case)
      (answering : Answering platform command record workflow completedAt answered)
      (intent : command.intent = .submit)
      (step : submitResponse platform.env answered command workflow completedAt responseId eventId =
        .ok (some nextActivityId, after)) :
      CaseStep platform guard (.respond record.requestId) record after
  | completed (command : RespondCommand) (record : Case) (workflow : PublishedWorkflow)
      (completedAt : Time) (answered : Answered) (responseId eventId : Uuid)
      (submitted : Case) (evidence : DeliveryEvidence) (manifestId : Uuid) (after : Case)
      (answering : Answering platform command record workflow completedAt answered)
      (intent : command.intent = .submit)
      (step : submitResponse platform.env answered command workflow completedAt responseId eventId =
        .ok (none, submitted))
      (sealed : sealCase platform.env platform.provider platform.verifier command
        (completeCase submitted) (some evidence) completedAt manifestId = .ok after) :
      CaseStep platform guard (.respond record.requestId) record after
  | completedTerms (command : RespondCommand) (record : Case) (now completedAt : Time)
      (eventId : Uuid) (responded : Case) (manifestId : Uuid) (after : Case)
      (available : assertAssignmentAvailable record now = .ok ())
      (notCompleted : record.assignment.status ≠ .completed)
      (terms : record.request.workflow = none)
      (step : appendCase platform.env record command.actor.document (js "participant.responded")
        command.payload completedAt eventId = .ok responded)
      (sealed : sealCase platform.env platform.provider platform.verifier command
        (completeCase responded) none completedAt manifestId = .ok after) :
      CaseStep platform guard (.respond record.requestId) record after
  | revoked (name : TransactionName) (actor : Actor) (eventType : JsString) (payload : Document)
      (now : Time) (eventId : Uuid) (record after : Case)
      (active : record.request.status.active = true)
      (step : revokeCase platform.env record actor eventType payload now eventId = .ok after) :
      CaseStep platform guard name record after
  | advanced (databaseClock now : Time) (eventId : Uuid) (record after : Case)
      (due : isDue record.request databaseClock = true)
      (decided : ∃ input store, input.clock = now ∧
        guard.statement (.lifecycleDecision record.request) input store)
      (step : advanceCase platform.env record
        (if record.request.expiresAt ≤ now then .expired else .issued) now eventId = .ok after) :
      CaseStep platform guard (.advanceOneLifecycle record.requestId) record after

/-- How a transaction that has locked some rows may change the case of a request. -/
inductive CaseMove (platform : Platform) (guard : EngineGuard) (name : TransactionName)
    (known : List (Sigma Row)) : Option Case → Option Case → Prop where
  | stepped (record after : Case) (step : CaseStep platform guard name record after) :
      CaseMove platform guard name known (some record) (some after)
  | issued (command : PublishedIssue) (now : Time) (requestId assignmentId eventId : Uuid)
      (eventType : JsString) (after : Case) (row : AdmissionRow)
      (transaction : name.issues = true)
      (admission : (⟨.admission command.tenantId, row⟩ : Sigma Row) ∈ known)
      (admitted : row.admission.admitted = true)
      (step : appendCase platform.env (command.newCase now requestId assignmentId)
        command.actor.document eventType command.payload now eventId = .ok after) :
      CaseMove platform guard name known none (some after)
  | issuedTerms (command : TermsIssue) (now : Time) (requestId assignmentId eventId : Uuid)
      (after : Case) (row : AdmissionRow)
      (transaction : name.issues = true)
      (admission : (⟨.admission command.tenantId, row⟩ : Sigma Row) ∈ known)
      (admitted : row.admission.admitted = true)
      (step : appendCase platform.env (command.newCase requestId assignmentId)
        command.actor.document (js "request.issued") command.payload now eventId = .ok after) :
      CaseMove platform guard name known none (some after)

/-! ## Steps of a job -/

/-- The columns of a job that no transaction changes. -/
structure SameJob (first second : JobRow) : Prop where
  tenantId : first.tenantId = second.tenantId
  requestId : first.requestId = second.requestId
  participantDataRequestId : first.participantDataRequestId = second.participantDataRequestId
  notificationType : first.notificationType = second.notificationType
  idempotencyKey : first.idempotencyKey = second.idempotencyKey
  payloadHash : first.payloadHash = second.payloadHash
  maxAttempts : first.maxAttempts = second.maxAttempts
  createdAt : first.createdAt = second.createdAt

/-- A job as queueing inserts it. -/
structure Queued (row : JobRow) : Prop where
  waiting : row.status.waiting = true
  attempts : row.attempts = 0
  maxAttempts : row.maxAttempts = DEFAULT_MAX_ATTEMPTS
  result : row.result = none
  request : row.requestId.isSome → row.participantDataRequestId = none ∧
    ∃ notificationType ∈ NOTIFICATION_TYPES, row.notificationType = some notificationType

/-- How a transaction may change a job. -/
inductive JobMove (name : TransactionName) (id : Uuid) : Option JobRow → Option JobRow → Prop where
  | queued (row : JobRow) (queued : Queued row) : JobMove name id none (some row)
  | suppressed (row : JobRow) (reason : JsString) (suppressedAt : Time)
      (waiting : row.status.waiting = true) :
      JobMove name id (some row) (some (JobRow.suppress row reason suppressedAt))
  | claimed (row : JobRow) (now : Time) (transaction : name = .claimJob id)
      (waiting : row.status.waiting = true) :
      JobMove name id (some row) (some (JobRow.claim row now))
  | delivered (row job : JobRow) (delivery : Delivery) (completedAt : Time)
      (transaction : name = .deliverJob id job.attempts) (same : SameJob job row)
      (attempts : job.attempts ≤ row.attempts) :
      JobMove name id (some row) (some (JobRow.deliver row job delivery completedAt))
  | released (row : JobRow) (now : Time) (transaction : name = .recoverStaleJobs)
      (running : row.status = .running) :
      JobMove name id (some row) (some (JobRow.release row now))

/-- What a transaction does to the jobs; it queues for the requests that are allowed. -/
structure JobEffect (name : TransactionName) (allowed : Uuid → Prop) (store next : EngineStore) :
    Prop where
  moves : ∀ id, Relation.ReflTransGen (JobMove name id) (jobAt store id) (jobAt next id)
  queued : ∀ id row requestId, jobAt next id = some row → row.requestId = some requestId →
    (∃ earlier, jobAt store id = some earlier ∧ earlier.requestId = some requestId) ∨
      allowed requestId
  limit : ∀ requestId, (requestJobs next requestId).length ≤
    max NOTIFICATION_JOB_LIMIT (requestJobs store requestId).length

/-! ## Deliveries -/

/-- What the gateway records: a failed check, or a delivery through a binding. -/
inductive GatewayDelivery : Delivery → Prop where
  | unavailable (code : JsString) : GatewayDelivery (unavailableDelivery code)
  | binding (binding : Binding) (thrown : Option JsString) :
      GatewayDelivery (bindingDelivery binding thrown)

/-- What a dispatch gives for a claimed job, on the rows as they are. -/
inductive Dispatched (store : EngineStore) (jobId : Uuid) (job : JobRow) : Delivery → Prop where
  | ineligible (participantData : job.participantDataRequestId.isSome) :
      Dispatched store jobId job ⟨js "engine", .suppressed, none⟩
  | thrown (code : JsString) :
      Dispatched store jobId job ⟨js "notification", .failed, some (boundedErrorCode code)⟩
  | answered (row : GatewayAttemptRow)
      (found : gatewayAttemptAt store jobId job.attempts = some row) :
      Dispatched store jobId job row.delivery

/-- What the transaction at the end of a delivery does: it records the attempt
and settles or releases the job. -/
structure Delivers (guard : EngineGuard) (jobId : Uuid) (attempt : ℕ) (store next : EngineStore)
    (row job : JobRow) (inserted : AttemptRow) : Prop where
  found : jobAt store jobId = some row
  attempts : job.attempts = attempt
  positive : 0 < attempt
  same : SameJob job row
  claimed : attempt ≤ row.attempts
  fresh : attemptAt store jobId attempt = none
  recorded : attemptAt next jobId attempt = some inserted
  settled : jobAt next jobId =
    some (JobRow.deliver row job inserted.delivery inserted.completedAt)
  dispatched : Dispatched store jobId job inserted.delivery
  timed : ∃ input earlier, input.clock = inserted.completedAt ∧
    guard.statement (.deliveryCompleted inserted.startedAt) input earlier

/-! ## Admissions -/

/-- How a transaction may change the admission of a tenant. -/
inductive AdmissionMove : TransactionName → Uuid → AdmissionRow → AdmissionRow → Prop where
  | decided (tenantId : Uuid) (gateId : Gate) (row : AdmissionRow) (decision : Decision)
      (now : Time) :
      AdmissionMove (.updateTenantAdmission tenantId gateId) tenantId row
        ⟨row.revision + 1, applyTenantAdmissionDecision row.admission gateId decision now⟩
  | stopped (tenantId : Uuid) (gateId : Gate) (row : AdmissionRow) (now : Time) :
      AdmissionMove (.stopTenantProduction tenantId gateId) tenantId row
        ⟨row.revision + 1, applyTenantAdmissionDecision row.admission gateId .pending now⟩

/-- What a production stop does: the gate is pending, and every request of the
tenant that could still be answered is revoked. -/
structure Stops (platform : Platform) (tenantId : Uuid) (gateId : Gate)
    (store next : EngineStore) : Prop where
  gate : ∃ row, admissionAt next tenantId = some row ∧ row.admission.state gateId = .pending
  revoked : ∀ requestId record, caseAt store requestId = some record →
    record.request.tenantId = tenantId → record.request.status.active = true →
    ∃ actor payload now eventId after,
      revokeCase platform.env record actor (js "request.revoked") payload now eventId = .ok after ∧
        caseAt next requestId = some after

/-! ## The contract -/

/-- What a transaction does to the rows. -/
structure Effect (platform : Platform) (guard : EngineGuard) (name : TransactionName)
    (known : List (Sigma Row)) (store next : EngineStore) : Prop where
  cases : ∀ requestId, caseAt next requestId = caseAt store requestId ∨
    CaseMove platform guard name known (caseAt store requestId) (caseAt next requestId)
  jobs : JobEffect name (fun requestId => Key.request requestId ∈ known.map Sigma.fst ∨
    caseAt store requestId = none) store next
  queuedFor : ∀ id row requestId, jobAt next id = some row → row.requestId = some requestId →
    (∃ earlier, jobAt store id = some earlier ∧ earlier.requestId = some requestId) ∨
      (caseAt next requestId).isSome
  attempts : ∀ id attempt, attemptAt next id attempt = attemptAt store id attempt ∨
    (name = .deliverJob id attempt ∧ attemptAt store id attempt = none)
  delivers : ∀ id attempt, name = .deliverJob id attempt →
    ∃ row job inserted, Delivers guard id attempt store next row job inserted
  gatewayAttempts : ∀ id attempt,
    gatewayAttemptAt next id attempt = gatewayAttemptAt store id attempt ∨
      (gatewayAttemptAt store id attempt = none ∧ ∃ row input earlier,
        gatewayAttemptAt next id attempt = some row ∧ GatewayDelivery row.delivery ∧
          guard.statement (.gatewayCompleted row.delivery) input earlier)
  admissions : ∀ tenantId, admissionAt next tenantId = admissionAt store tenantId ∨
    ∃ row after, admissionAt store tenantId = some row ∧ admissionAt next tenantId = some after ∧
      AdmissionMove name tenantId row after
  stops : ∀ tenantId gateId, name = .stopTenantProduction tenantId gateId →
    Stops platform tenantId gateId store next

/-- How rows may move through the commits of sessions that hold no lock on the
keys in `held`. -/
structure Moves (held : Key → Prop) (first second : EngineStore) : Prop where
  cases : ∀ requestId record, caseAt first requestId = some record →
    ∃ after, caseAt second requestId = some after ∧
      after.request.tenantId = record.request.tenantId ∧
      (record.request.status.active = false → after.request.status.active = false)
  issued : ∀ tenantId, held (.admission tenantId) → ∀ requestId record,
    caseAt second requestId = some record → record.request.tenantId = tenantId →
      (caseAt first requestId).isSome
  jobs : ∀ id row, jobAt first id = some row →
    ∃ after, jobAt second id = some after ∧ SameJob row after ∧ row.attempts ≤ after.attempts
  queued : ∀ requestId, held (.request requestId) → (caseAt first requestId).isSome →
    ∀ id row, jobAt second id = some row → row.requestId = some requestId →
      ∃ earlier, jobAt first id = some earlier ∧ earlier.requestId = some requestId
  gatewayAttempts : ∀ id attempt row, gatewayAttemptAt first id attempt = some row →
    gatewayAttemptAt second id attempt = some row

/-- Every job of a request has its request. -/
def JobsHaveRequests (store : EngineStore) : Prop :=
  ∀ id row requestId, jobAt store id = some row → row.requestId = some requestId →
    (caseAt store requestId).isSome

/-- The rows as a completing transaction sees them: notifications of the request
that were waiting may be suppressed. -/
structure CapturedView (requestId : Uuid) (store view : EngineStore) : Prop where
  jobs : ∀ id, jobAt view id = jobAt store id ∨ ∃ row reason suppressedAt,
    jobAt store id = some row ∧ isPendingRequestNotification requestId row = true ∧
      jobAt view id = some (JobRow.suppress row reason suppressedAt)
  attempts : ∀ id attempt, attemptAt view id attempt = attemptAt store id attempt

/-- What statements promise: a claim takes a job that can be claimed, and the
capture of the notification evidence ends a transaction only when the captured
rows are refused. -/
def statementPromise (point : Point) (input : Outside) (store : EngineStore)
    (wanted : List (Key × LockMode)) (next : EngineScript) : Prop :=
  match point with
  | .claimJob => ∃ row, jobAt store input.first = some row ∧ isClaimable input store row = true ∧
      wanted = [(.job input.first, .update)]
  | .loadNotificationDeliveryEvidence requestId capturedAt => ∀ outcome, next = .stop outcome →
      ∃ view tenantId failure, CapturedView requestId store view ∧
        loadNotificationDeliveryEvidence view tenantId requestId capturedAt = .error failure
  | _ => True

/-- What commits do. -/
def commitEffect (platform : Platform) (guard : EngineGuard) (point : Point)
    (known : List (Sigma Row)) (store next : EngineStore) : Prop :=
  match point with
  | .commit name => Effect platform guard name known store next
  | _ => False

theorem SameJob.refl (row : JobRow) : SameJob row row := by constructor <;> rfl

theorem SameJob.trans {first second third : JobRow} (left : SameJob first second)
    (right : SameJob second third) : SameJob first third where
  tenantId := left.tenantId.trans right.tenantId
  requestId := left.requestId.trans right.requestId
  participantDataRequestId := left.participantDataRequestId.trans right.participantDataRequestId
  notificationType := left.notificationType.trans right.notificationType
  idempotencyKey := left.idempotencyKey.trans right.idempotencyKey
  payloadHash := left.payloadHash.trans right.payloadHash
  maxAttempts := left.maxAttempts.trans right.maxAttempts
  createdAt := left.createdAt.trans right.createdAt

theorem Moves.refl (held : Key → Prop) (store : EngineStore) : Moves held store store where
  cases := fun _ record found => ⟨record, found, rfl, id⟩
  issued := fun _ _ _ _ found _ => Option.isSome_of_eq_some found
  jobs := fun _ row found => ⟨row, found, SameJob.refl row, le_refl _⟩
  queued := fun _ _ _ _ row found request => ⟨row, found, request⟩
  gatewayAttempts := fun _ _ _ found => found

theorem Moves.trans {held : Key → Prop} {first second third : EngineStore}
    (left : Moves held first second) (right : Moves held second third) :
    Moves held first third where
  cases := by
    intro requestId record found
    obtain ⟨middle, middleFound, middleTenant, middleActive⟩ := left.cases requestId record found
    obtain ⟨after, afterFound, afterTenant, afterActive⟩ :=
      right.cases requestId middle middleFound
    exact ⟨after, afterFound, afterTenant.trans middleTenant, fun ended =>
      afterActive (middleActive ended)⟩
  issued := by
    intro tenantId isHeld requestId record found tenant
    have there := right.issued tenantId isHeld requestId record found tenant
    obtain ⟨middle, middleFound⟩ := Option.isSome_iff_exists.mp there
    obtain ⟨after, afterFound, same, _⟩ := right.cases requestId middle middleFound
    obtain rfl : after = record := Option.some.inj (afterFound.symm.trans found)
    exact left.issued tenantId isHeld requestId middle middleFound (same.symm.trans tenant)
  jobs := by
    intro id row found
    obtain ⟨middle, middleFound, middleSame, middleAttempts⟩ := left.jobs id row found
    obtain ⟨after, afterFound, afterSame, afterAttempts⟩ := right.jobs id middle middleFound
    exact ⟨after, afterFound, middleSame.trans afterSame, middleAttempts.trans afterAttempts⟩
  queued := by
    intro requestId isHeld there id row found request
    obtain ⟨record, recordFound⟩ := Option.isSome_iff_exists.mp there
    obtain ⟨middle, middleFound, _, _⟩ := left.cases requestId record recordFound
    obtain ⟨earlier, earlierFound, earlierRequest⟩ := right.queued requestId isHeld
      (Option.isSome_of_eq_some middleFound) id row found request
    exact left.queued requestId isHeld there id earlier earlierFound earlierRequest
  gatewayAttempts := fun id attempt row found =>
    right.gatewayAttempts id attempt row (left.gatewayAttempts id attempt row found)

theorem Moves.anti {fewer more : Key → Prop} {first second : EngineStore}
    (fewerHeld : ∀ key, fewer key → more key) (moves : Moves more first second) :
    Moves fewer first second where
  cases := moves.cases
  issued := fun tenantId isHeld => moves.issued tenantId (fewerHeld _ isHeld)
  jobs := moves.jobs
  queued := fun requestId isHeld => moves.queued requestId (fewerHeld _ isHeld)
  gatewayAttempts := moves.gatewayAttempts

/-- The contract of the engine, under a condition on its runs. -/
def engineContract (platform : Platform) (guard : EngineGuard) :
    Contract Row Outside Point Outcome where
  guard := guard
  invariant := JobsHaveRequests
  moves := Moves
  effect := commitEffect platform guard
  promise := statementPromise
  moves_refl := Moves.refl
  moves_trans := fun _ _ _ _ => Moves.trans
  moves_anti := fun _ _ _ _ => Moves.anti

end Vasi.EngineEffects
