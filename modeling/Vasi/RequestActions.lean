import Vasi.EvidenceStore

/-!
# Request actions

What the owner of a request may do to it: revoke it, reissue it as a new request
or queue a reminder. A reissue locks the admission of the tenant before the
request, in the order in which a production stop takes them. Permissions and
command replays only refuse and are left out, and so are the lifecycle rows that
an action leaves.
-/
namespace Vasi.RequestActions

open JsValue IsoTime ReadCommitted EngineRows EvidenceEvents EngineCases Notifications Outbox
  EvidenceStore

/-- The actions, with what the new request of a reissue is given. -/
inductive RequestAction where
  | revoke
  | reissue (payload notification : Document)
  | remind (notification : Document)

/-- An owner's command, with the payload of the event that a revocation appends. -/
structure ActionCommand where
  tenantId : Uuid
  requestId : Uuid
  action : RequestAction
  commandId : JsString
  actor : Actor
  payload : Document

def requestStateConflict : JsString := js "request_state_conflict"

/-- Lock the case of a request of a tenant; there has to be one. -/
def lockRequest (tenantId requestId : Uuid) : Engine Case :=
  query .statement fun _ view =>
    (caseAt view requestId).bind fun record =>
      if record.request.tenantId = tenantId then some (caseLocks record, record) else none

/-- Revoke both rows and say so. -/
def revokeCase (env : Environment) (record : Case) (actor : Actor) (eventType : JsString)
    (payload : Document) (now : Time) (eventId : Uuid) : Except JsString Case :=
  appendCase env (setStatus record .revoked) actor.document eventType payload now eventId

/-- Revoke a request with its notifications. -/
def revokeRequest (env : Environment) (command : ActionCommand) (record : Case)
    (eventType reason : JsString) (now : Time) : Engine Unit := do
  require (record.request.status ≠ .revoked) requestStateConflict
  suppressPendingRequestNotifications reason record.requestId now
  let eventId ← randomUUID
  let revoked ← orRefuse
    (revokeCase env record command.actor eventType command.payload now eventId)
  stageChanges (stageCase revoked)

/-- The case that an action works on, in a state that allows it. -/
def lockActionRequest (command : ActionCommand) : Engine Case := do
  let record ← lockRequest command.tenantId command.requestId
  require (record.request.status ≠ .completed && record.request.status ≠ .expired)
    requestStateConflict
  return record

def applyRequestAction (env : Environment) (command : ActionCommand) : Engine Outcome :=
  match command.action with
  | .revoke => do
      let record ← lockActionRequest command
      let now ← clock
      revokeRequest env command record (js "request.revoked") (js "request_revoked") now
      commitDone (.requestAction command.requestId)
  | .reissue payload notification => do
      let _ ← assertTenantAdmitted command.tenantId
      let record ← lockActionRequest command
      let now ← clock
      revokeRequest env command record (js "request.reissued") (js "request_reissued") now
      match record.request.workflow with
      | none => finish (.refused notFound)
      | some workflow =>
          issuePublishedRequest env
            { tenantId := command.tenantId, workflow, scheduledFor := now, dueAt := none
              intendedEmail := record.assignment.intendedEmail, expiresAt := none
              reissuedFromRequestId := some command.requestId, actor := command.actor, payload
              notification }
          commitDone (.requestAction command.requestId)
  | .remind notification => do
      let record ← lockActionRequest command
      require (record.request.status ≠ .revoked) requestStateConflict
      let now ← clock
      queueNotification env
        { availableAt := max (record.request.scheduledFor.getD now) now
          notificationType := REQUEST_REMINDER, payload := notification
          idempotencyKey :=
            command.requestId.text ++ js ":manual-reminder:" ++ command.commandId
          requestId := command.requestId, tenantId := command.tenantId }
      commitDone (.requestAction command.requestId)

end Vasi.RequestActions
