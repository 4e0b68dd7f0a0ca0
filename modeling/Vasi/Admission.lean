import Vasi.Validation
import Vasi.IsoTime

/-!
# Tenant admission

The admission document of a tenant: eight gates, each pending or approved with
its evidence, and a status that is admitted exactly when every gate is
approved. A decision replaces the state of one gate.

The document always holds each gate once and carries the derived status, so the
gates are a function and the status is computed; reading a stored document back
and its digest are not modelled, and where the source compares two digests the
documents are compared.
-/
namespace Vasi.Admission

open JsValue IsoTime

/-- TENANT_ADMISSION_GATES. -/
inductive Gate where
  | exactRelease
  | isolationIntegrity
  | identityDelivery
  | privacyLegal
  | accessibility
  | malwareContent
  | recoveryCustody
  | capacitySupport
deriving DecidableEq

def Gate.all : List Gate :=
  [exactRelease, isolationIntegrity, identityDelivery, privacyLegal, accessibility,
    malwareContent, recoveryCustody, capacitySupport]

theorem Gate.mem_all (gate : Gate) : gate ∈ Gate.all := by cases gate <;> decide

/-- What an approval records. -/
structure Approval where
  decidedAt : Time
  evidenceDigest : JsString
  evidenceReference : JsString
  reviewerReference : JsString
deriving DecidableEq

inductive GateState where
  | pending
  | approved (approval : Approval)
deriving DecidableEq

def GateState.isApproved : GateState → Bool
  | pending => false
  | approved _ => true

/-- An admission document. -/
structure TenantAdmission where
  state : Gate → GateState

/-- The documents agree on every gate. -/
def TenantAdmission.same (left right : TenantAdmission) : Bool :=
  Gate.all.all fun gate => left.state gate = right.state gate

/-- The derived status is "admitted". -/
def TenantAdmission.admitted (admission : TenantAdmission) : Bool :=
  Gate.all.all fun gate => (admission.state gate).isApproved

def defaultTenantAdmission : TenantAdmission := ⟨fun _ => .pending⟩

/-- A validated decision on one gate. -/
inductive Decision where
  | pending
  | approved (evidenceDigest evidenceReference reviewerReference : JsString)

/-- The state of the decided gate after a decision. -/
def Decision.state (decidedAt : Time) : Decision → GateState
  | pending => .pending
  | approved evidenceDigest evidenceReference reviewerReference =>
      .approved { decidedAt, evidenceDigest, evidenceReference, reviewerReference }

def applyTenantAdmissionDecision (admission : TenantAdmission) (gateId : Gate)
    (decision : Decision) (decidedAt : Time) : TenantAdmission :=
  ⟨fun gate => if gate ≠ gateId then admission.state gate else decision.state decidedAt⟩

/-- An admitted tenant has every gate approved. -/
theorem TenantAdmission.admitted_iff (admission : TenantAdmission) :
    admission.admitted = true ↔ ∀ gate, (admission.state gate).isApproved = true := by
  rw [admitted, List.all_eq_true]
  exact ⟨fun every gate => every gate gate.mem_all, fun every gate _ => every gate⟩

/-- Documents that are the same agree on every gate. -/
theorem TenantAdmission.same_iff (left right : TenantAdmission) :
    left.same right = true ↔ ∀ gate, left.state gate = right.state gate := by
  simp only [same, List.all_eq_true, decide_eq_true_eq]
  exact ⟨fun every gate => every gate gate.mem_all, fun every gate _ => every gate⟩

/-- A decision leaves the other gates as they are. -/
theorem applyTenantAdmissionDecision_other (admission : TenantAdmission) {gateId gate : Gate}
    (decision : Decision) (decidedAt : Time) (other : gate ≠ gateId) :
    (applyTenantAdmissionDecision admission gateId decision decidedAt).state gate =
      admission.state gate := if_pos other

/-- A decision sets the state of its own gate. -/
theorem applyTenantAdmissionDecision_same (admission : TenantAdmission) (gateId : Gate)
    (decision : Decision) (decidedAt : Time) :
    (applyTenantAdmissionDecision admission gateId decision decidedAt).state gateId =
      decision.state decidedAt := if_neg fun other => other rfl

end Vasi.Admission
