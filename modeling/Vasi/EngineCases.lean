import Vasi.AtomicCommits
import Vasi.EvidenceEvents

/-!
# Locked cases

The transactions that touch a request lock its case first. A step of a case is a
function on it; the script around the step locks the case, reads the clock and
stages the result.

The points name the places of the programs that a condition on runs or a result
about one transaction speaks of.
-/
namespace Vasi.EngineCases

open JsValue IsoTime ReadCommitted EngineRows EvidenceEvents Admission

/-- The transactions of the engine, the worker and the integration gateway, by
their source names and the rows they are about. -/
inductive TransactionName where
  | issueRequest (tenantId : Uuid)
  | openAssignment (requestId : Uuid)
  | recordParticipantContext (requestId : Uuid)
  | recordParticipantEvents (requestId : Uuid)
  | openParticipantArtifact (requestId : Uuid)
  | respond (requestId : Uuid)
  | requestAction (requestId : Uuid)
  | updateTenantAdmission (tenantId : Uuid) (gateId : Gate)
  | stopTenantProduction (tenantId : Uuid) (gateId : Gate)
  | advanceOneLifecycle (requestId : Uuid)
  | claimJob (jobId : Uuid)
  | deliverJob (jobId : Uuid) (attempt : ℕ)
  | deliver (jobId : Uuid) (attempt : ℕ)
  | recoverStaleJobs
  | suppressObsoleteJobs
  | suppressOneObsoleteParticipantDataJob (jobId : Uuid)
  | queueOneParticipantDataNotification

/-- The transactions that issue a request. -/
def TransactionName.issues : TransactionName → Bool
  | issueRequest _ | requestAction _ => true
  | _ => false

/-- The transactions that change requests and jobs only and need no word on more. -/
def TransactionName.ordinary : TransactionName → Bool
  | deliverJob _ _ | stopTenantProduction _ _ => false
  | _ => true

/-- The points of the programs: the worker's clock reading for the request it
selected, its claim of a job, its clock reading at the end of a delivery and the
gateway's for what the delivery came to, the capture of the notification
evidence, the commits, and every other statement. -/
inductive Point where
  | statement
  | lifecycleDecision (selected : RequestRow)
  | claimJob
  | deliveryCompleted (startedAt : Time)
  | gatewayCompleted (delivery : Delivery)
  | loadNotificationDeliveryEvidence (requestId : Uuid) (capturedAt : Time)
  | commit (transaction : TransactionName)

/-- How a command or a background task ends. -/
inductive Outcome where
  | done
  | refused (code : JsString)
deriving DecidableEq

abbrev EngineScript := Script Row Outside Point Outcome

abbrev Engine := Transaction Row Outside Point Outcome

/-- Go on with a value, or end with the error code. -/
def orRefuse {α : Type} : Except JsString α → Engine α
  | .ok value => pure value
  | .error code => finish (.refused code)

/-- Refuse unless a condition holds. -/
def require (condition : Bool) (code : JsString) : Engine Unit :=
  if condition then pure () else finish (.refused code)

/-- new Date() -/
def clock : Engine Time := fromOutside .statement Outside.clock

/-- randomUUID() -/
def randomUUID : Engine Uuid := fromOutside .statement Outside.uuid

/-- Lock a row that has to be there. -/
def lockRow (key : Key) (mode : LockMode) : Engine (Row key) :=
  query .statement fun _ view => (view.lookup key).map fun row => ([(key, mode)], row)

/-- Insert a row; a row with its key makes the statement fail. -/
def insertNew (key : Key) (row : Row key) : Engine Unit := do
  query .statement fun _ view => if (view.lookup key).isNone then some ([], ()) else none
  stageChanges fun changes => changes.insertRow key row

/-- Commit and end. -/
def commitDone (transaction : TransactionName) : Engine Outcome := do
  commitChanges (.commit transaction)
  return .done

/-! ## Cases -/

/-- The lock that every transaction on a case takes first. -/
def caseLocks (record : Case) : List (Key × LockMode) := [(.request record.requestId, .update)]

/-- Lock the case of a request; there has to be one. -/
def lockCase (requestId : Uuid) : Engine Case :=
  query .statement fun _ view => (caseAt view requestId).map fun record => (caseLocks record, record)

/-- Record what has become of a case. -/
def stageCase (record : Case) (changes : EngineChanges) : EngineChanges :=
  changes.updateRow (.request record.requestId) record

/-- Set both statuses, as two update statements of one transaction do. -/
def setStatus (record : Case) (status : Status) : Case :=
  { record with
    request := { record.request with status }
    assignment := { record.assignment with status } }

/-- Append an event to the chain of a case. -/
def appendCase (env : Environment) (record : Case) (actor : Document) (eventType : JsString)
    (payload : Document) (receivedAt : Time) (eventId : Uuid) : Except JsString Case := do
  let chain ← appendEvent env
    { actor, assignmentId := record.assignment.id, eventId, eventType, payload, receivedAt
      requestId := record.requestId, tenantId := record.request.tenantId } record.chain
  return { record with chain }

/-- The error codes of the participant operations. -/
def notFound : JsString := js "not_found"

/-- The participant is the one the assignment was sent to, and the one who opened it. -/
def authorizeParticipant (env : Environment) (record : Case) (actor : Actor) :
    Except JsString Unit :=
  if env.toLowerCase record.assignment.intendedEmail ≠ actor.email ∨
      (∃ principalId ∈ record.assignment.principalId, principalId ≠ actor.principalId) then
    .error notFound
  else .ok ()

/-- The assignment can be answered now. -/
def assertAssignmentAvailable (record : Case) (now : Time) : Except JsString Unit :=
  if record.assignment.status = .revoked ∨ record.request.status = .revoked then
    .error (js "assignment_revoked")
  else if record.request.expiresAt ≤ now ∨ record.assignment.status = .expired ∨
      record.request.status = .expired then
    .error (js "assignment_expired")
  else if ∃ scheduledFor ∈ record.request.scheduledFor, scheduledFor > now then
    .error (js "assignment_not_yet_available")
  else .ok ()

/-- What an available assignment is: neither row is revoked or expired. -/
theorem assertAssignmentAvailable_ok {record : Case} {now : Time}
    (available : assertAssignmentAvailable record now = .ok ()) :
    (record.assignment.status ≠ .revoked ∧ record.assignment.status ≠ .expired) ∧
      record.request.status ≠ .revoked ∧ record.request.status ≠ .expired ∧
      now < record.request.expiresAt := by
  unfold assertAssignmentAvailable at available
  split at available
  · cases available
  split at available
  · cases available
  rename_i notRevoked notExpired
  push Not at notRevoked notExpired
  exact ⟨⟨notRevoked.1, notExpired.2.1⟩, notRevoked.2, notExpired.2.2, notExpired.1⟩

/-- An append changes the chain of the case and nothing else. -/
theorem appendCase_ok {env : Environment} {record after : Case} {actor payload : Document}
    {eventType : JsString} {receivedAt : Time} {eventId : Uuid}
    (appended : appendCase env record actor eventType payload receivedAt eventId = .ok after) :
    ∃ event chain, appendEvent env event record.chain = .ok chain ∧
      after = { record with chain } := by
  simp only [appendCase, bind, Except.bind] at appended
  split at appended
  · cases appended
  · rename_i chain found
    exact ⟨_, chain, found, (Except.ok.inj appended).symm⟩

end Vasi.EngineCases
