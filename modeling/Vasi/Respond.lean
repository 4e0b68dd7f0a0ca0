import Vasi.EvidenceStore
import Vasi.Sealing

/-!
# Responding

A participant's answer: the single answer to a terms request, and the saving or
submitting of an answer to the current activity of a workflow. A submission
records the answer, moves the workflow on and, when no activity follows,
completes the case: it suppresses the notifications that called for an answer,
captures the notification evidence, seals the manifest and queues the last
notification.

The document checks of a review, the media summary that media completion adds
and the parts of the manifest that other tables supply are taken with the
command: the first only refuses, the others are data.
-/
namespace Vasi.Respond

open JsValue IsoTime Validation Activities Workflow ReadCommitted EngineRows EvidenceEvents
  EngineCases Notifications Outbox EvidenceStore Sealing

inductive Intent where
  | save
  | submit
deriving DecidableEq

/-- A participant's answer, with what its events, its media completion and its
manifest take from elsewhere. -/
structure RespondCommand extends ParticipantCommand where
  interactionId : Uuid
  activityId : Option JsString
  intent : Intent
  response : Value
  mediaCompletion : Except JsString Value
  completionPayload : Document
  notification : Document
  manifest : Case → Option DeliveryEvidence → Uuid → Time → Document

def responseReplayed : JsString := js "response_replayed"

def interactionUnavailable : JsString := js "interaction_unavailable"

def activityStateConflict : JsString := js "activity_state_conflict"

/-- A validator's value, or the code of its error. -/
def codeOf {α : Type} (checked : Checked α) : Except JsString α := checked.mapError Failure.code

/-! ## Moving a workflow on -/

/-- Insert a revision of the answer to an activity. -/
def recordRevision (activities : List ActivityInstance) (ordinal : ℕ)
    (revision : ResponseRevision) : List ActivityInstance :=
  activities.modify ordinal fun activity =>
    { activity with revisions := activity.revisions ++ [revision] }

/-- Insert the answer to an activity and complete it. -/
def completeActivity (activities : List ActivityInstance) (ordinal : ℕ)
    (response : RecordedResponse) : List ActivityInstance :=
  activities.modify ordinal fun activity =>
    { activity with status := .completed, responses := activity.responses ++ [response] }

/-- Skip the pending activities before an ordinal. -/
def skipPending (activities : List ActivityInstance) (target : ℕ) : List ActivityInstance :=
  activities.mapIdx fun ordinal activity =>
    if activity.status = .pending ∧ ordinal < target then { activity with status := .skipped }
    else activity

/-- The rows that the activation update finds. -/
def isPending (activityId : JsString) (activity : ActivityInstance) : Bool :=
  activity.definition.id = activityId && activity.status = .pending

/-- Make the pending activity with an identifier available. -/
def activate (activities : List ActivityInstance) (activityId : JsString) :
    Except JsString (List ActivityInstance) :=
  if activities.any (isPending activityId) then
    .ok (activities.map fun activity =>
      if isPending activityId activity then { activity with status := .available } else activity)
  else .error activityStateConflict

/-- Skip and activate after an answer; gives the next activity, if one follows. -/
def advanceActivities (workflow : WorkflowDocument) (activities : List ActivityInstance)
    (activityId outcome : JsString) :
    Except JsString (Option JsString × List ActivityInstance) := do
  let nextActivityId ← codeOf (evaluateNextActivity workflow activityId outcome)
  match nextActivityId with
  | some next =>
      let target := (activityIndex workflow.activities next).getD 0
      let activities ← activate (skipPending activities target) next
      return (nextActivityId, activities)
  | none => return (nextActivityId, skipPending activities activities.length)

/-! ## Steps of a case -/

/-- What media completion makes of a submitted response: it keeps the outcome. -/
def assertMediaCompletion (command : RespondCommand) (activity : Activity)
    (response : ActivityResponse) : Except JsString ActivityResponse :=
  match command.intent, activity.content.type with
  | .submit, .externalMedia => command.mediaCompletion.map fun result => { response with result }
  | _, _ => .ok response

/-- Record the answer to an activity, saved or submitted. -/
def recordResponse (env : Environment) (record : Case) (command : RespondCommand) (ordinal : ℕ)
    (response : ActivityResponse) (completedAt : Time) (revisionId eventId : Uuid) :
    Except JsString Case :=
  let state := match command.intent with
    | .save => ResponseState.saved
    | .submit => .submitted
  let eventType := match command.intent with
    | .save => js "activity.response.saved"
    | .submit => js "activity.response.submitted"
  let revision := ⟨revisionId, state, response, completedAt⟩
  appendCase env { record with activities := recordRevision record.activities ordinal revision }
    command.actor.document eventType command.payload completedAt eventId

/-- What recording an answer gives: the case, and the answered activity and response. -/
structure Answered where
  record : Case
  ordinal : ℕ
  activity : Activity
  response : ActivityResponse

/-- Validate and record the answer to the current activity. -/
def answerActivity (env : Environment) (record : Case) (command : RespondCommand)
    (now completedAt : Time) (revisionId eventId : Uuid) : Except JsString Answered := do
  let (ordinal, activities) ← currentActivity record.activities now
  match activities[ordinal]? with
  | none => .error (js "activity_unavailable")
  | some activity =>
      if command.activityId.any (· ≠ activity.definition.id) then .error activityStateConflict
      else do
        let validated ← codeOf (validateActivityResponse activity.definition command.response)
        let response ← assertMediaCompletion command activity.definition validated
        let record ← recordResponse env { record with activities } command ordinal response
          completedAt revisionId eventId
        return { record, ordinal, activity := activity.definition, response }

/-- Complete the answered activity and move the workflow on. -/
def submitResponse (env : Environment) (answered : Answered) (command : RespondCommand)
    (workflow : PublishedWorkflow) (completedAt : Time) (responseId eventId : Uuid) :
    Except JsString (Option JsString × Case) := do
  let (nextActivityId, activities) ← advanceActivities workflow.snapshot
    (completeActivity answered.record.activities answered.ordinal
      ⟨responseId, answered.response, completedAt⟩) answered.activity.id answered.response.outcome
  let record ← appendCase env { answered.record with activities } command.actor.document
    (js "activity.completed") command.completionPayload completedAt eventId
  return (nextActivityId, record)

/-- The interaction is over and both rows are completed. -/
def completeCase (record : Case) : Case :=
  setStatus { record with assignment := { record.assignment with interaction := none } } .completed

/-! ## The scripts -/

section

variable (env : Environment) (provider : SigningProvider) (verifier : Verifier)

/-- Seal the chain of a completed case with the manifest that the command makes of it. -/
def sealCase (command : RespondCommand) (record : Case) (evidence : Option DeliveryEvidence)
    (completedAt : Time) (manifestId : Uuid) : Except JsString Case := do
  let row ← persistSeal env provider verifier completedAt record
    (command.manifest record evidence manifestId completedAt) manifestId
  return { record with manifest := some row }

/-- The answer to a request without a workflow. -/
def respondToTerms (command : RespondCommand) (record : Case) : Engine Outcome := do
  require (interactionIs record command.interactionId command.actor) interactionUnavailable
  let completedAt ← clock
  let eventId ← randomUUID
  let responded ← orRefuse (appendCase env record command.actor.document
    (js "participant.responded") command.payload completedAt eventId)
  let manifestId ← randomUUID
  let completed ← orRefuse
    (sealCase env provider verifier command (completeCase responded) none completedAt manifestId)
  stageChanges (stageCase completed)
  commitDone (.respond command.requestId)

/-- What follows the last answer of a workflow. -/
def completeWorkflow (command : RespondCommand) (workflow : PublishedWorkflow) (record : Case)
    (completedAt : Time) : Engine Outcome := do
  suppressPendingRequestNotifications (js "request_completed") record.requestId completedAt
  let loaded ← readRows (.loadNotificationDeliveryEvidence record.requestId completedAt)
    fun _ view => loadNotificationDeliveryEvidence view record.request.tenantId
      record.requestId completedAt
  let evidence ← orRefuse (codeOf loaded)
  let manifestId ← randomUUID
  let completed ← orRefuse
    (sealCase env provider verifier command (completeCase record) (some evidence) completedAt manifestId)
  if workflow.snapshot.notifications.onCompletion then
    queueNotification env
      { availableAt := completedAt, notificationType := REQUEST_COMPLETED
        payload := command.notification
        idempotencyKey := record.requestId.text ++ js ":completed"
        requestId := record.requestId, tenantId := record.request.tenantId }
  stageChanges (stageCase completed)
  commitDone (.respond command.requestId)

/-- The answer to the current activity of a workflow. -/
def respondToWorkflowActivity (command : RespondCommand) (workflow : PublishedWorkflow)
    (record : Case) : Engine Outcome := do
  require (interactionIs record command.interactionId command.actor) interactionUnavailable
  let now ← clock
  let completedAt ← clock
  let revisionId ← randomUUID
  let eventId ← randomUUID
  let answered ← orRefuse (answerActivity env record command now completedAt revisionId eventId)
  match command.intent with
  | .save => do
      stageChanges (stageCase answered.record)
      commitDone (.respond command.requestId)
  | .submit => do
      let responseId ← randomUUID
      let completionId ← randomUUID
      let (nextActivityId, submitted) ← orRefuse
        (submitResponse env answered command workflow completedAt responseId completionId)
      match nextActivityId with
      | some _ => do
          stageChanges (stageCase submitted)
          commitDone (.respond command.requestId)
      | none => completeWorkflow env provider verifier command workflow submitted completedAt

def respond (command : RespondCommand) : Engine Outcome := do
  let record ← lockCase command.requestId
  orRefuse (authorizeParticipant env record command.actor)
  let now ← clock
  orRefuse (assertAssignmentAvailable record now)
  require (record.assignment.status ≠ .completed) responseReplayed
  match record.request.workflow with
  | some workflow => respondToWorkflowActivity env provider verifier command workflow record
  | none => respondToTerms env provider verifier command record

end

end Vasi.Respond
