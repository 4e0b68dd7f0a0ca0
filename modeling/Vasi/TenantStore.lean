import Vasi.AtomicCommits
import Vasi.EngineRows
import Vasi.StoreCounts

/-!
# Tenants, their members and their quotas

The rows that the quotas of a tenant count, the count itself, and the operations
on the members of a tenant. A pointer and the revision it names are one row
here, and so are a tenant's memberships of one principal and its grants to one
e-mail. Row columns that nothing reads, the list of tenants that is shown and the
profile without its quotas are left out.

PostgreSQL's lower is a parameter. An insert that finds its row inserted by a
transaction that has not committed waits for it, as every statement does for a
lock: it runs when that transaction is over.
-/
namespace Vasi.TenantStore

open JsValue IsoTime ReadCommitted
open EngineRows (Uuid Status)

/-! ## Rows -/

/-- TENANT_ROLES -/
inductive TenantRole where
  | owner
  | manager
  | author
  | auditor
deriving DecidableEq

inductive Permission where
  | artifactManage
  | artifactRead
  | dataRequestReview
  | integrationManage
  | lifecycleManage
  | lifecycleRead
  | memberManage
  | quotaRead
  | recordRead
  | requestManage
  | tenantConfigure
  | workflowManage
deriving DecidableEq

/-- ROLE_PERMISSIONS -/
def TenantRole.permissions : TenantRole → List Permission
  | owner => [.artifactManage, .artifactRead, .dataRequestReview, .integrationManage,
      .lifecycleManage, .lifecycleRead, .memberManage, .quotaRead, .recordRead, .requestManage,
      .tenantConfigure, .workflowManage]
  | manager => [.artifactManage, .artifactRead, .dataRequestReview, .lifecycleManage,
      .lifecycleRead, .quotaRead, .recordRead, .requestManage, .workflowManage]
  | author => [.artifactManage, .artifactRead, .quotaRead, .workflowManage]
  | auditor => [.artifactRead, .lifecycleRead, .quotaRead, .recordRead]

def hasTenantPermission (roles : List TenantRole) (permission : Permission) : Bool :=
  permission ∈ roles.flatMap TenantRole.permissions

/-- The status of a membership, of a grant and of an integration binding. -/
inductive ActiveStatus where
  | active
  | disabled
deriving DecidableEq

inductive MembershipSource where
  | direct
  | installationProvisioning
  | emailGrant
deriving DecidableEq

/-- A tenant_membership row. -/
structure Membership where
  roles : List TenantRole
  status : ActiveStatus
  email : Option JsString
  source : MembershipSource
  validFrom : Time
  expiresAt : Option Time

/-- A tenant_membership_grant row. -/
structure MembershipGrant where
  roles : List TenantRole
  status : ActiveStatus

inductive WorkflowStatus where
  | draft
  | active
  | archived
deriving DecidableEq

/-- A workflow_definition row. -/
structure WorkflowDefinition where
  tenantId : Uuid
  status : WorkflowStatus

/-- A request_instance row. -/
structure RequestInstance where
  tenantId : Uuid
  status : Status

/-- A document_artifact row. -/
structure DocumentArtifact where
  tenantId : Uuid
  expectedByteLength : ℕ

/-- The quotas of a validated tenant profile. -/
structure Quotas where
  maxActiveRequests : ℕ
  maxArtifactBytes : ℕ
  maxArtifactBytesPerArtifact : ℕ
  maxIntegrations : ℕ
  maxMembers : ℕ
  maxWorkflows : ℕ
  members_positive : 1 ≤ maxMembers
deriving DecidableEq

/-- A tenant_profile_pointer row with the revision it names. -/
structure ProfilePointer where
  revision : ℕ
  quotas : Quotas

/-- INTEGRATION_CAPABILITIES -/
inductive Capability where
  | documentMalwareScan
  | notificationDelivery
deriving DecidableEq

/-- An integration_binding_pointer row with the revision it names. -/
structure IntegrationBinding where
  revision : ℕ
  status : ActiveStatus

inductive Key where
  | profile (tenantId : Uuid)
  | membership (tenantId : Uuid) (principalId : JsString)
  | grant (tenantId : Uuid) (email : JsString)
  | workflow (id : Uuid)
  | request (id : Uuid)
  | artifact (id : Uuid)
  | integration (tenantId : Uuid) (capability : Capability)
deriving DecidableEq

abbrev Row : Key → Type
  | .profile _ => ProfilePointer
  | .membership _ _ => Membership
  | .grant _ _ => MembershipGrant
  | .workflow _ => WorkflowDefinition
  | .request _ => RequestInstance
  | .artifact _ => DocumentArtifact
  | .integration _ _ => IntegrationBinding

abbrev TenantRows := Store Row

abbrev TenantChanges := Changes Row

abbrev profileAt (store : TenantRows) (tenantId : Uuid) : Option ProfilePointer :=
  store.lookup (Key.profile tenantId)

abbrev membershipAt (store : TenantRows) (tenantId : Uuid) (principalId : JsString) :
    Option Membership :=
  store.lookup (Key.membership tenantId principalId)

abbrev grantAt (store : TenantRows) (tenantId : Uuid) (email : JsString) :
    Option MembershipGrant :=
  store.lookup (Key.grant tenantId email)

/-- The memberships of a tenant with their principals. -/
def memberships (store : TenantRows) (tenantId : Uuid) : List (JsString × Membership) :=
  store.entries.filterMap fun
    | ⟨.membership tenant principalId, row⟩ =>
        if tenant = tenantId then some (principalId, row) else none
    | _ => none

/-- The grants of a tenant with their e-mails. -/
def grants (store : TenantRows) (tenantId : Uuid) : List (JsString × MembershipGrant) :=
  store.entries.filterMap fun
    | ⟨.grant tenant email, row⟩ => if tenant = tenantId then some (email, row) else none
    | _ => none

theorem mem_memberships {store : TenantRows} {tenantId : Uuid} {principalId : JsString}
    {row : Membership} :
    (principalId, row) ∈ memberships store tenantId ↔
      membershipAt store tenantId principalId = some row := by
  unfold memberships
  rw [List.mem_filterMap, membershipAt, ← Option.mem_def, AList.mem_lookup_iff]
  constructor
  · rintro ⟨⟨key, found⟩, member, selected⟩
    cases key with
    | membership tenant principal =>
        simp only [Option.ite_none_right_eq_some, Option.some.injEq, Prod.mk.injEq] at selected
        obtain ⟨rfl, rfl, rfl⟩ := selected
        exact member
    | profile | grant | workflow | request | artifact | integration => cases selected
  · intro member
    exact ⟨_, member, by simp⟩

/-! ## Usage -/

/-- The resources of a quota. -/
inductive Resource where
  | activeRequests
  | artifactBytes
  | integrations
  | members
  | workflows
deriving DecidableEq

/-- The identity as which a row counts among the members of a tenant. -/
def memberIdentity (lower : JsString → JsString) (tenantId : Uuid) : Sigma Row → Option JsString
  | ⟨.membership tenant principalId, row⟩ =>
      if tenant = tenantId ∧ row.status = .active then
        some ((row.email.map lower).getD principalId)
      else none
  | ⟨.grant tenant email, row⟩ =>
      if tenant = tenantId ∧ row.status = .active then some (lower email) else none
  | _ => none

/-- What a row adds to the use of a resource other than the members. -/
def resourceWeight (tenantId : Uuid) : Resource → Sigma Row → ℕ
  | .activeRequests, ⟨.request _, row⟩ =>
      if row.tenantId = tenantId ∧ row.status.active = true then 1 else 0
  | .artifactBytes, ⟨.artifact _, row⟩ =>
      if row.tenantId = tenantId then row.expectedByteLength else 0
  | .integrations, ⟨.integration tenant _, row⟩ =>
      if tenant = tenantId ∧ row.status = .active then 1 else 0
  | .workflows, ⟨.workflow _, row⟩ =>
      if row.tenantId = tenantId ∧ row.status ≠ .archived then 1 else 0
  | _, _ => 0

/-- tenantUsage: what a tenant uses of a resource. -/
def tenantUsage (lower : JsString → JsString) (store : TenantRows) (tenantId : Uuid) :
    Resource → ℕ
  | .members => distinctLabels (memberIdentity lower tenantId) store
  | resource => total (resourceWeight tenantId resource) store

/-- The limit of a resource. -/
def Quotas.limit (quotas : Quotas) : Resource → ℕ
  | .activeRequests => quotas.maxActiveRequests
  | .artifactBytes => quotas.maxArtifactBytes
  | .integrations => quotas.maxIntegrations
  | .members => quotas.maxMembers
  | .workflows => quotas.maxWorkflows

/-! ## Programs -/

/-- What a statement takes from outside the rows. -/
structure Outside where
  databaseClock : Time
  uuid : Uuid

/-- An actor as the gateway identifies it; an administrator of the installation has
the role "admin". -/
structure Actor where
  principalId : JsString
  email : Option JsString
  admin : Bool

/-- A validated membership command. -/
structure MembershipInput where
  email : JsString
  roles : List TenantRole
  status : ActiveStatus
  tenantId : Uuid

/-- A validated provisioning command. -/
structure ProvisionInput where
  ownerEmail : Option JsString
  quotas : Quotas

/-- The transactions, with what identifies them: a change of a member says whether
the e-mail was known, so that its capacity was not checked, and a provisioning
whether it grants an owner. -/
inductive TransactionName where
  | setMember (input : MembershipInput) (known : Bool)
  | claimMembershipGrants (principalId email : JsString) (grants : List (Uuid × List TenantRole))
  | provisionTenant (input : ProvisionInput) (ownerGrantCreated : Bool)
  | createWorkflow
  | issueRequest
  | requestAction
  | createArtifact
  | updateIntegration
  | updateTenantProfile
  | moveRequest

inductive Point where
  | statement
  | commit (transaction : TransactionName)

inductive Outcome where
  | done
  | tenants (roles : List (Uuid × List TenantRole))
  | refused (code : JsString)

abbrev Program := Transaction Row Outside Point Outcome

abbrev TenantGuard := Guard Row Outside Point

def require (condition : Bool) (code : JsString) : Program Unit :=
  if condition then pure () else finish (.refused code)

/-- The membership is valid at an instant. -/
def Membership.valid (row : Membership) (now : Time) : Bool :=
  row.status = .active && decide (row.validFrom ≤ now) && row.expiresAt.all (now < ·)

def requirePermission (actor : Actor) (tenantId : Uuid) (permission : Permission) :
    Program Unit := do
  let permitted ← readRows .statement fun input view =>
    (membershipAt view tenantId actor.principalId).any fun row =>
      row.valid input.databaseClock && hasTenantPermission row.roles permission
  require permitted (js "forbidden")

/-- The active profile of a tenant, whose pointer is locked for update. -/
def lockTenantProfile (tenantId : Uuid) : Program ProfilePointer :=
  query .statement fun _ view =>
    (profileAt view tenantId).map fun row => ([(.profile tenantId, .update)], row)

def quotaExceeded : Resource → JsString
  | .activeRequests => js "tenant_quota_activeRequests_exceeded"
  | .artifactBytes => js "tenant_quota_artifactBytes_exceeded"
  | .integrations => js "tenant_quota_integrations_exceeded"
  | .members => js "tenant_quota_members_exceeded"
  | .workflows => js "tenant_quota_workflows_exceeded"

variable (lower : JsString → JsString)

def assertTenantCapacity (tenantId : Uuid) (resource : Resource) (increment : ℕ) :
    Program Unit := do
  let profile ← lockTenantProfile tenantId
  let used ← readRows .statement fun _ view => tenantUsage lower view tenantId resource
  require (used + increment ≤ profile.quotas.limit resource) (quotaExceeded resource)

/-- An active grant or membership with the e-mail. -/
def memberKnown (view : TenantRows) (tenantId : Uuid) (email : JsString) : Bool :=
  ((grants view tenantId).any fun found =>
    lower found.1 = email && found.2.status = .active) ||
  (memberships view tenantId).any fun found =>
    found.2.email.map lower = some email && found.2.status = .active

/-- Insert a row, or update the row that is there. -/
def upsertRow (key : Key) (row : Outside → Option (Row key) → Row key) : Program Unit := do
  let written ← query .statement fun input view =>
    match view.lookup key with
    | some found => some ([(key, .update)], true, row input (some found))
    | none => some ([], false, row input none)
  stageChanges fun changes =>
    if written.1 then changes.updateRow key written.2 else changes.insertRow key written.2

/-- The memberships of a tenant with the e-mail. -/
def membershipsOf (view : TenantRows) (tenantId : Uuid) (email : JsString) :
    List (JsString × Membership) :=
  (memberships view tenantId).filter fun found => found.2.email.map lower = some email

/-- An active membership with the owner role. -/
def Membership.owns (row : Membership) : Bool := row.status = .active && .owner ∈ row.roles

/-- Refuse a new member above the quota; an e-mail that is known is no new member. -/
def assertMemberCapacity (input : MembershipInput) : Program Bool := do
  let known ← readRows .statement fun _ view =>
    memberKnown lower view input.tenantId input.email
  if known then return true
  else
    assertTenantCapacity lower input.tenantId .members 1
    return false

/-- The update statement on the memberships with the e-mail. -/
def updateMemberships (input : MembershipInput) : Program Unit := do
  let changed ← query .statement fun _ view =>
    let rows := membershipsOf lower view input.tenantId input.email
    some (rows.map fun found => (Key.membership input.tenantId found.1, LockMode.update), rows)
  stageChanges fun changes => changed.foldl (fun changes found =>
    changes.updateRow (.membership input.tenantId found.1)
      { found.2 with roles := input.roles, status := input.status }) changes

/-- The count of the owners that the transaction sees. -/
def assertOwner (tenantId : Uuid) : Program Unit := do
  let owners ← readRows .statement fun _ view =>
    (memberships view tenantId).countP fun found => found.2.owns
  require (¬ owners < 1) (js "last_owner_required")

def setMember (actor : Actor) (input : MembershipInput) : Program Outcome := do
  requirePermission actor input.tenantId .memberManage
  let known ← (if input.status = .active then assertMemberCapacity lower input else pure false)
  upsertRow (.grant input.tenantId input.email) fun _ _ =>
    { roles := input.roles, status := input.status }
  updateMemberships lower input
  assertOwner input.tenantId
  commitChanges (.commit (.setMember input known))
  return .done

/-- The active grants to an e-mail with their tenants. -/
def grantsOf (view : TenantRows) (email : JsString) : List (Uuid × List TenantRole) :=
  view.entries.filterMap fun
    | ⟨.grant tenantId granted, row⟩ =>
        if lower granted = email ∧ row.status = .active then some (tenantId, row.roles) else none
    | _ => none

/-- Another principal has a membership with the e-mail. -/
def emailTaken (view : TenantRows) (tenantId : Uuid) (principalId email : JsString) : Bool :=
  (memberships view tenantId).any fun found =>
    found.1 ≠ principalId && found.2.email.map lower = some (lower email)

/-- The loop of claimMembershipGrants. The e-mails of a tenant's memberships are
unique, so the insert fails when another principal has the actor's. -/
def claimGrants (principalId email : JsString) : List (Uuid × List TenantRole) → Program Unit
  | [] => pure ()
  | (tenantId, roles) :: rest => do
      query .statement fun _ view =>
        if emailTaken lower view tenantId principalId email then none else some ([], ())
      upsertRow (.membership tenantId principalId) fun input found => match found with
        | some row => { row with roles, status := .active, email := some email
                                 source := .emailGrant }
        | none =>
            { roles, status := .active, email := some email, source := .emailGrant
              validFrom := input.databaseClock, expiresAt := none }
      claimGrants principalId email rest

/-- The valid memberships of a principal. -/
def tenantsOf (view : TenantRows) (principalId : JsString) (now : Time) :
    List (Uuid × List TenantRole) :=
  view.entries.filterMap fun
    | ⟨.membership tenantId principal, row⟩ =>
        if principal = principalId ∧ row.valid now = true then some (tenantId, row.roles) else none
    | _ => none

/-- listTenants, which claims the grants of the actor first. -/
def listTenants (actor : Actor) : Program Outcome :=
  match actor.email with
  | none => finish (.refused (js "forbidden"))
  | some email => do
      let claimed ← readRows .statement fun _ view => grantsOf lower view email
      claimGrants lower actor.principalId email claimed
      let tenants ← readRows .statement fun input view =>
        tenantsOf view actor.principalId input.databaseClock
      commitChanges (.commit (.claimMembershipGrants actor.principalId email claimed))
      return .tenants tenants

/-! ## The operations that use the other resources -/

/-- randomUUID() -/
def randomUUID : Program Uuid := fromOutside .statement Outside.uuid

/-- Insert a row; a row with its key makes the statement fail. -/
def insertNew (key : Key) (row : Row key) : Program Unit := do
  query .statement fun _ view => if (view.lookup key).isNone then some ([], ()) else none
  stageChanges fun changes => changes.insertRow key row

def commitDone (name : TransactionName) : Program Outcome := do
  commitChanges (.commit name)
  return .done

/-- provisionTenant without the replay of its command. The initial integrations are
disabled; toLowerCase is JavaScript's. -/
def provisionTenant (toLowerCase : JsString → JsString) (actor : Actor) (input : ProvisionInput) :
    Program Outcome := do
  require actor.admin (js "forbidden")
  let tenantId ← randomUUID
  let now ← fromOutside .statement Outside.databaseClock
  insertNew (.membership tenantId actor.principalId)
    { roles := [.owner], status := .active, email := actor.email
      source := .installationProvisioning, validFrom := now, expiresAt := none }
  let ownerGrant := input.ownerEmail.filter fun email =>
    decide (some email ≠ actor.email.map toLowerCase)
  match ownerGrant with
  | some email => insertNew (.grant tenantId email) { roles := [.owner], status := .active }
  | none => pure ()
  insertNew (.profile tenantId) { revision := 1, quotas := input.quotas }
  insertNew (.integration tenantId .notificationDelivery) { revision := 1, status := .disabled }
  insertNew (.integration tenantId .documentMalwareScan) { revision := 1, status := .disabled }
  commitDone (.provisionTenant input ownerGrant.isSome)

def createWorkflow (actor : Actor) (tenantId : Uuid) : Program Outcome := do
  requirePermission actor tenantId .workflowManage
  assertTenantCapacity lower tenantId .workflows 1
  let definitionId ← randomUUID
  insertNew (.workflow definitionId) { tenantId, status := .draft }
  commitDone .createWorkflow

/-- The capacity check and the insertion that issuing a request comes to. -/
def issueNew (tenantId : Uuid) (scheduled : Bool) : Program Unit := do
  assertTenantCapacity lower tenantId .activeRequests 1
  let requestId ← randomUUID
  insertNew (.request requestId)
    { tenantId, status := if scheduled then .scheduled else .issued }

def issueRequest (actor : Actor) (tenantId : Uuid) (scheduled : Bool) : Program Outcome := do
  requirePermission actor tenantId .requestManage
  issueNew lower tenantId scheduled
  commitDone .issueRequest

/-- The reissue of requestAction: the old request is revoked, then a new one issued. -/
def reissue (actor : Actor) (tenantId requestId : Uuid) (scheduled : Bool) : Program Outcome := do
  requirePermission actor tenantId .requestManage
  let request ← query .statement fun _ view =>
    (view.lookup (Key.request requestId)).bind fun row =>
      if row.tenantId = tenantId then some ([(Key.request requestId, .update)], row) else none
  require request.status.active (js "request_state_conflict")
  stageChanges fun changes =>
    changes.updateRow (.request requestId) { request with status := .revoked }
  issueNew lower tenantId scheduled
  commitDone .requestAction

/-- A request that is opened, completed, revoked or expires; only one that can still
be answered moves. -/
def moveRequest (requestId : Uuid) (status : Status) : Program Outcome := do
  let request ← query .statement fun _ view =>
    (view.lookup (Key.request requestId)).map fun row =>
      ([(Key.request requestId, LockMode.update)], row)
  require request.status.active (js "request_state_conflict")
  stageChanges fun changes => changes.updateRow (.request requestId) { request with status }
  commitDone .moveRequest

def assertArtifactCapacity (tenantId : Uuid) (expectedByteLength : ℕ) : Program Unit := do
  let profile ← lockTenantProfile tenantId
  require (expectedByteLength ≤ profile.quotas.maxArtifactBytesPerArtifact)
    (js "tenant_quota_artifact_size_exceeded")
  let used ← readRows .statement fun _ view => tenantUsage lower view tenantId .artifactBytes
  require (used + expectedByteLength ≤ profile.quotas.limit .artifactBytes)
    (quotaExceeded .artifactBytes)

def createArtifact (actor : Actor) (tenantId : Uuid) (expectedByteLength : ℕ) :
    Program Outcome := do
  requirePermission actor tenantId .artifactManage
  assertArtifactCapacity lower tenantId expectedByteLength
  let artifactId ← randomUUID
  insertNew (.artifact artifactId) { tenantId, expectedByteLength }
  commitDone .createArtifact

/-- The active binding of a capability, whose pointer is locked for update if there is one. -/
def lockIntegration (tenantId : Uuid) (capability : Capability) :
    Program (Option IntegrationBinding) :=
  query .statement fun _ view =>
    let found := view.lookup (Key.integration tenantId capability)
    some (found.toList.map fun _ => (Key.integration tenantId capability, LockMode.update), found)

def updateIntegration (actor : Actor) (tenantId : Uuid) (capability : Capability)
    (status : ActiveStatus) (expectedRevision : ℕ) : Program Outcome := do
  requirePermission actor tenantId .integrationManage
  let pointer ← lockIntegration tenantId capability
  let currentRevision := pointer.elim 0 IntegrationBinding.revision
  require (currentRevision = expectedRevision) (js "integration_revision_conflict")
  if status = .active ∧ pointer.map IntegrationBinding.status ≠ some .active then
    assertTenantCapacity lower tenantId .integrations 1
  else pure ()
  upsertRow (.integration tenantId capability) fun _ _ =>
    { revision := currentRevision + 1, status }
  commitDone .updateIntegration

def updateTenantProfile (actor : Actor) (tenantId : Uuid) (quotas : Quotas)
    (expectedRevision : ℕ) : Program Outcome := do
  requirePermission actor tenantId .tenantConfigure
  let current ← lockTenantProfile tenantId
  require (current.revision = expectedRevision) (js "tenant_profile_revision_conflict")
  require (actor.admin || current.quotas = quotas)
    (js "tenant_quota_changes_require_administrator")
  stageChanges fun changes =>
    changes.updateRow (.profile tenantId) { revision := current.revision + 1, quotas }
  commitDone .updateTenantProfile

end Vasi.TenantStore
