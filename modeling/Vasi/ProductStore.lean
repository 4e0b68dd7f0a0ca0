import Vasi.RequestActions

/-!
# Tenant admission decisions and the production stop

A decision on one gate of a tenant's admission, and the stop that closes a gate
and revokes every request of the tenant that can still be answered. Both lock
the admission of the tenant for update first. Replays only refuse and are left
out, and so are the configuration events and what the operations return.
-/
namespace Vasi.ProductStore

open JsValue IsoTime ReadCommitted EngineRows EvidenceEvents EngineCases Outbox RequestActions
  Admission

/-- An administrator's decision on a gate, against the revision it was made on. -/
structure DecisionCommand where
  tenantId : Uuid
  gateId : Gate
  decision : Decision
  expectedRevision : ℕ

/-- An administrator's stop, with the payload of the events that it appends. -/
structure StopCommand where
  tenantId : Uuid
  gateId : Gate
  expectedRevision : ℕ
  actor : Actor
  payload : Case → Document

/-- The active admission of a tenant, locked for update, at the expected revision. -/
def lockAdmission (tenantId : Uuid) (expectedRevision : ℕ) : Engine AdmissionRow := do
  let current ← lockRow (.admission tenantId) .update
  require (current.revision = expectedRevision) (js "tenant_admission_revision_conflict")
  return current

def updateTenantAdmission (command : DecisionCommand) : Engine Outcome := do
  let current ← lockAdmission command.tenantId command.expectedRevision
  let now ← clock
  let admission :=
    applyTenantAdmissionDecision current.admission command.gateId command.decision now
  require (!admission.same current.admission) (js "tenant_admission_decision_unchanged")
  stageChanges fun changes =>
    changes.updateRow (.admission command.tenantId) ⟨current.revision + 1, admission⟩
  commitDone (.updateTenantAdmission command.tenantId command.gateId)

/-- The cases of a tenant that can still be answered. -/
def activeCases (view : EngineStore) (tenantId : Uuid) : List Case :=
  (cases view).filter fun record =>
    record.request.tenantId = tenantId && record.request.status.active

/-- Revoke each of the cases with its notifications. -/
def revokeCases (env : Environment) (command : StopCommand) (stoppedAt : Time) :
    List Case → Engine Unit
  | [] => pure ()
  | record :: rest => do
      suppressPendingRequestNotifications (js "tenant_production_stopped") record.requestId
        stoppedAt
      let eventId ← randomUUID
      let revoked ← orRefuse (revokeCase env record command.actor (js "request.revoked")
        (command.payload record) stoppedAt eventId)
      stageChanges (stageCase revoked)
      revokeCases env command stoppedAt rest

def stopTenantProduction (env : Environment) (command : StopCommand) : Engine Outcome := do
  let current ← lockAdmission command.tenantId command.expectedRevision
  let stoppedAt ← clock
  let admission :=
    applyTenantAdmissionDecision current.admission command.gateId .pending stoppedAt
  stageChanges fun changes =>
    if admission.same current.admission then changes
    else changes.updateRow (.admission command.tenantId) ⟨current.revision + 1, admission⟩
  let records ← query .statement fun _ view =>
    let records := activeCases view command.tenantId
    some (records.flatMap caseLocks, records)
  revokeCases env command stoppedAt records
  commitDone (.stopTenantProduction command.tenantId command.gateId)

end Vasi.ProductStore
