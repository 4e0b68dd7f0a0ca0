import Vasi.EngineCases
import Vasi.Outbox

/-!
# The evidence store

Issuing a request, opening an assignment, recording what the participant does,
answering its activities and acting on a request as its owner. Each operation is
a step of a case with the script that locks the case and commits the result.
The last answer completes the case, captures the notification evidence and
seals the chain; the manifest it seals is assembled outside this model, and
signing and checking an evidence record are parameters.

Payloads of events and notifications are taken as the operation assembles them.
Permissions, quotas, authentication assurance and command replays only refuse
and are left out, and so is what an operation returns.
-/
namespace Vasi.EvidenceStore

open JsValue IsoTime Validation CanonicalJson Activities Workflow ReadCommitted EngineRows
  EvidenceEvents EngineCases Notifications Outbox Admission

/-! ## Admission -/

/-- The active admission of a tenant, locked for share; the tenant has to be admitted. -/
def assertTenantAdmitted (tenantId : Uuid) : Engine AdmissionRow := do
  let row ← lockRow (.admission tenantId) .share
  require row.admission.admitted (js "tenant_not_admitted")
  return row

/-! ## Issuing -/

/-- A command to issue a published workflow. -/
structure PublishedIssue where
  tenantId : Uuid
  workflow : PublishedWorkflow
  intendedEmail : JsString
  scheduledFor : Time
  dueAt : Option Time
  expiresAt : Option Time
  reissuedFromRequestId : Option Uuid
  actor : Actor
  payload : Document
  notification : Document

/-- A command to issue a terms response without a workflow. -/
structure TermsIssue where
  tenantId : Uuid
  intendedEmail : JsString
  expiresAt : Time
  actor : Actor
  payload : Document

def dayMilliseconds : ℤ := 86400000

def hourMilliseconds : ℤ := 3600000

def PublishedIssue.due (command : PublishedIssue) : Time :=
  command.dueAt.getD
    (command.scheduledFor + command.workflow.snapshot.schedule.defaultDueDays * dayMilliseconds)

def PublishedIssue.expires (command : PublishedIssue) : Time :=
  command.expiresAt.getD
    (command.scheduledFor +
      command.workflow.snapshot.schedule.defaultExpirationDays * dayMilliseconds)

/-- The activity_instance rows of a new assignment: the first one is available. -/
def newActivities (workflow : PublishedWorkflow) : List ActivityInstance :=
  workflow.snapshot.activities.mapIdx fun ordinal definition =>
    { definition, status := if ordinal = 0 then .available else .pending, openedAt := none
      revisions := [], responses := [] }

/-- The case that issuing a published workflow inserts, before its first event. -/
def PublishedIssue.newCase (command : PublishedIssue) (now : Time) (requestId assignmentId : Uuid) :
    Case :=
  let status := if command.scheduledFor > now + 1000 then Status.scheduled else .issued
  { requestId
    request := {
      tenantId := command.tenantId, status, scheduledFor := some command.scheduledFor
      dueAt := some command.due, expiresAt := command.expires, workflow := some command.workflow
      reissuedFromRequestId := command.reissuedFromRequestId }
    assignment := {
      id := assignmentId, status, intendedEmail := command.intendedEmail
      principalId := none, interaction := none }
    activities := newActivities command.workflow
    chain := newChain
    manifest := none }

/-- The case that issuing a terms response inserts, before its first event. -/
def TermsIssue.newCase (command : TermsIssue) (requestId assignmentId : Uuid) : Case :=
  { requestId
    request := {
      tenantId := command.tenantId, status := .issued, scheduledFor := none, dueAt := none
      expiresAt := command.expiresAt, workflow := none, reissuedFromRequestId := none }
    assignment := {
      id := assignmentId, status := .issued, intendedEmail := command.intendedEmail
      principalId := none, interaction := none }
    activities := []
    chain := newChain
    manifest := none }

/-- Insert a case. -/
def insertCase (record : Case) : Engine Unit := insertNew (.request record.requestId) record

/-- Queue the reminders that are not already past. -/
def queueReminders (env : Environment) (command : PublishedIssue) (requestId : Uuid) (now : Time) :
    List ℕ → Engine Unit
  | [] => pure ()
  | hoursBeforeDue :: rest => do
      let availableAt := command.due - hoursBeforeDue * hourMilliseconds
      if availableAt > now then
        queueNotification env
          { availableAt, notificationType := REQUEST_REMINDER, payload := command.notification
            idempotencyKey := requestId.text ++ js ":reminder:" ++ decimal hoursBeforeDue
            requestId, tenantId := command.tenantId }
      queueReminders env command requestId now rest

/-- issuePublishedRequest, up to its commit. -/
def issuePublishedRequest (env : Environment) (command : PublishedIssue) : Engine Unit := do
  let _ ← assertTenantAdmitted command.tenantId
  let now ← clock
  require (command.due ≤ command.expires &&
    command.expires ≤ command.scheduledFor + 365 * dayMilliseconds)
    (js "invalid_request_schedule")
  let requestId ← randomUUID
  let assignmentId ← randomUUID
  let eventId ← randomUUID
  let record := command.newCase now requestId assignmentId
  let eventType :=
    if record.request.status = .scheduled then js "request.scheduled" else js "request.issued"
  let issued ← orRefuse
    (appendCase env record command.actor.document eventType command.payload now eventId)
  insertCase issued
  if command.workflow.snapshot.notifications.onIssue then
    queueNotification env
      { availableAt := command.scheduledFor, notificationType := REQUEST_ISSUED
        payload := command.notification, idempotencyKey := requestId.text ++ js ":issued"
        requestId, tenantId := command.tenantId }
  queueReminders env command requestId now
    command.workflow.snapshot.notifications.reminderHoursBeforeDue

/-- issueRequest with a workflow revision. -/
def issueRequest (env : Environment) (command : PublishedIssue) : Engine Outcome := do
  issuePublishedRequest env command
  commitDone (.issueRequest command.tenantId)

/-- issueRequest without a workflow revision. -/
def issueTermsRequest (env : Environment) (command : TermsIssue) : Engine Outcome := do
  let _ ← assertTenantAdmitted command.tenantId
  let issuedAt ← clock
  let requestId ← randomUUID
  let assignmentId ← randomUUID
  let eventId ← randomUUID
  let issued ← orRefuse (appendCase env (command.newCase requestId assignmentId)
    command.actor.document (js "request.issued") command.payload issuedAt eventId)
  insertCase issued
  commitDone (.issueRequest command.tenantId)

/-! ## Opening -/

/-- A participant's command on the assignment of a request, which its handle names, with
the payload its event will carry. -/
structure ParticipantCommand where
  requestId : Uuid
  actor : Actor
  payload : Document

/-- The first available activity, with its opening time set. -/
def currentActivity (activities : List ActivityInstance) (now : Time) :
    Except JsString (ℕ × List ActivityInstance) :=
  match activities.findIdx? fun activity => activity.status = .available with
  | none => .error (js "activity_unavailable")
  | some ordinal => .ok (ordinal, activities.modify ordinal fun activity =>
      { activity with openedAt := some (activity.openedAt.getD now) })

/-- A scheduled request becomes issued when its participant opens it. -/
def issueScheduled (record : Case) : Case :=
  if record.request.status = .scheduled then setStatus record .issued else record

/-- The first opening binds the participant and starts progress. -/
def bindParticipant (record : Case) (actor : Actor) : Case :=
  if record.assignment.principalId.isSome then record
  else
    { record with
      assignment := { record.assignment with
        principalId := some actor.principalId, status := .inProgress }
      request := { record.request with
        status := if record.request.status = .issued ∨ record.request.status = .scheduled then
          .inProgress else record.request.status } }

/-- Start an interaction and say so. -/
def startInteraction (env : Environment) (record : Case) (command : ParticipantCommand)
    (now : Time) (interactionId eventId : Uuid) : Except JsString Case :=
  let interaction := some ⟨interactionId, command.actor.gatewaySessionId, now⟩
  appendCase env { record with assignment := { record.assignment with interaction } }
    command.actor.document (js "participant.opened") command.payload now eventId

/-- Go on with the open interaction of this gateway session, or start another. -/
def openInteraction (env : Environment) (record : Case) (command : ParticipantCommand)
    (now : Time) (interactionId eventId : Uuid) : Except JsString Case :=
  match record.assignment.interaction with
  | some interaction =>
      if interaction.gatewaySessionId = command.actor.gatewaySessionId then .ok record
      else startInteraction env record command now interactionId eventId
  | none => startInteraction env record command now interactionId eventId

/-- What opening does to a case that is not completed. -/
def openCase (env : Environment) (record : Case) (command : ParticipantCommand) (now : Time)
    (interactionId eventId : Uuid) : Except JsString Case := do
  assertAssignmentAvailable record now
  let record ← openInteraction env (bindParticipant (issueScheduled record) command.actor) command
    now interactionId eventId
  if record.request.workflow.isSome then
    let (_, activities) ← currentActivity record.activities now
    return { record with activities }
  else return record

def openAssignment (env : Environment) (command : ParticipantCommand) : Engine Outcome := do
  let record ← lockCase command.requestId
  orRefuse (authorizeParticipant env record command.actor)
  if record.assignment.status = .completed then return .done
  let now ← clock
  let interactionId ← randomUUID
  let eventId ← randomUUID
  let opened ← orRefuse (openCase env record command now interactionId eventId)
  stageChanges (stageCase opened)
  commitDone (.openAssignment command.requestId)

/-! ## Recording -/

/-- The checks that the stores of context, media and interaction events share. -/
def assertActivityAvailable (record : Case) (unavailable : JsString) (now : Time) :
    Except JsString Unit :=
  if record.assignment.status = .revoked ∨ record.request.status = .revoked then
    .error (js "assignment_revoked")
  else if record.assignment.status = .completed ∨ record.request.status = .completed then
    .error unavailable
  else if record.assignment.status = .expired ∨ record.request.status = .expired ∨
      record.request.expiresAt ≤ now then
    .error (js "assignment_expired")
  else if ∃ scheduledFor ∈ record.request.scheduledFor, scheduledFor > now then
    .error (js "assignment_not_yet_available")
  else .ok ()

/-- The interaction is the open one of the participant. -/
def interactionIs (record : Case) (interactionId : Uuid) (actor : Actor) : Bool :=
  record.assignment.principalId = some actor.principalId &&
    (record.assignment.interaction.map Interaction.id) = some interactionId

/-- A command that records what a participant's browser reports about an activity. -/
structure RecordCommand extends ParticipantCommand where
  activityId : JsString
  interactionId : Uuid

/-- What one store of browser reports records: the activities it is for, the
type of its events and the code with which it refuses. -/
structure Recording where
  isFor : Activity → Bool
  eventType : JsString
  unavailable : JsString
  transaction : Uuid → TransactionName

/-- Append an event for an available activity. -/
def recordCase (env : Environment) (recording : Recording) (record : Case)
    (command : RecordCommand) (now : Time) (eventId : Uuid) : Except JsString Case := do
  assertActivityAvailable record recording.unavailable now
  let available := record.activities.any fun activity =>
    activity.definition.id = command.activityId && activity.status = .available &&
      recording.isFor activity.definition
  if available && interactionIs record command.interactionId command.actor then
    appendCase env record command.actor.document recording.eventType command.payload now eventId
  else .error recording.unavailable

/-- The script around a recording. -/
def recordScript (env : Environment) (recording : Recording) (command : RecordCommand) :
    Engine Outcome := do
  let record ← lockCase command.requestId
  orRefuse (authorizeParticipant env record command.actor)
  let now ← clock
  let eventId ← randomUUID
  let recorded ← orRefuse (recordCase env recording record command now eventId)
  stageChanges (stageCase recorded)
  commitDone (recording.transaction command.requestId)

def recordParticipantContext (env : Environment) (command : RecordCommand) : Engine Outcome :=
  recordScript env
    { isFor := fun _ => true, eventType := js "participant.context.recorded"
      unavailable := js "participant_context_unavailable"
      transaction := .recordParticipantContext } command

/-- recordParticipantEvents of the media store. -/
def recordMediaEvents (env : Environment) (command : RecordCommand) : Engine Outcome :=
  recordScript env
    { isFor := fun activity => activity.content.type = .externalMedia
      eventType := js "media.telemetry.recorded", unavailable := js "media_activity_unavailable"
      transaction := .recordParticipantEvents } command

/-- recordParticipantEvents of the interaction store. -/
def recordInteractionEvents (env : Environment) (command : RecordCommand) : Engine Outcome :=
  recordScript env
    { isFor := fun _ => true, eventType := js "activity.interaction.recorded"
      unavailable := js "activity_interaction_unavailable"
      transaction := .recordParticipantEvents } command

/-! ## Opening a document -/

/-- A command to present or download a document of an activity. -/
structure ArtifactCommand extends ParticipantCommand where
  activityId : JsString
  download : Bool

/-- A completed record can still be read under its policy; otherwise the
activity has to be there and current or completed. -/
def assertParticipantContentAccess (record : Case) (activityId : JsString) (now : Time) :
    Except JsString Unit :=
  if record.assignment.status = .completed ∨ record.request.status = .completed then
    match record.request.workflow.map fun workflow => workflow.snapshot.access.postCompletion with
    | none => .error (js "content_unavailable")
    | some policy =>
        if policy = js "content_always" ∨
            (policy = js "content_until_expiration" ∧ record.request.expiresAt > now) then .ok ()
        else .error (js "content_unavailable")
  else do
    assertAssignmentAvailable record now
    if record.activities.any fun activity => activity.definition.id = activityId &&
        (activity.status = .available || activity.status = .completed) then .ok ()
    else .error notFound

/-- The access is an event of the chain only while the assignment is not completed. -/
def openArtifactCase (env : Environment) (record : Case) (command : ArtifactCommand) (now : Time)
    (eventId : Uuid) : Except JsString Case := do
  assertParticipantContentAccess record command.activityId now
  if record.assignment.status ≠ .completed then
    appendCase env record command.actor.document
      (if command.download then js "document.downloaded" else js "document.presented")
      command.payload now eventId
  else return record

def openParticipantArtifact (env : Environment) (command : ArtifactCommand) : Engine Outcome := do
  let record ← lockCase command.requestId
  orRefuse (authorizeParticipant env record command.actor)
  let now ← clock
  let eventId ← randomUUID
  let opened ← orRefuse (openArtifactCase env record command now eventId)
  stageChanges (stageCase opened)
  commitDone (.openParticipantArtifact command.requestId)

end Vasi.EvidenceStore
