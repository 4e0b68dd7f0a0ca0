import Vasi.PilotAdmission

/-!
# Admissions that carry pilot evidence

The runs of the configuration store in which the gates of a tenant are approved
with the evidence of their manifests. What a gate of the active admission holds is
what the last decision on that gate put there, and it was decided before the
revision was created; so the admission that is exported passes against the
manifests, whatever was decided, revoked or decided again on the way.
-/
namespace Vasi.PilotAdmission

open JsValue IsoTime Admission EvidenceEvents Productization StoredConfiguration
  ConfigurationStore ReadinessDossier
open CanonicalJson (readBack readBackMembers)
open PilotGate (AdmissionEvidence Manifest validatePilotGateManifest pilotGateAdmissionEvidence
  opaqueReference isFilenameUnit)
open Validation (Checked bind_ok isTokenUnit isLowerLetter isUpperLetter isDigit)

section Runs

variable (platform : TextPlatform) (env : Environment) (tenantId : JsString)

/-- A decision on a gate of the tenant, with the payload that asks for it. -/
structure Decided where
  gateId : Gate
  decision : Decision
  decidedAt : Time
  payload : Value

/-- The decision that a command makes on the tenant. -/
def decisionOf : Command → Option Decided
  | .updateTenantAdmission payload now =>
      match validateTenantAdmissionDecisionCommand platform payload with
      | .ok input =>
          if input.tenantId = tenantId then some ⟨input.gateId, input.decision, now, payload⟩
          else none
      | .error _ => none
  | .stopTenantProduction payload stoppedAt =>
      match validateTenantProductionStopCommand platform payload with
      | .ok input =>
          if input.tenantId = tenantId then some ⟨input.gateId, .pending, stoppedAt, payload⟩
          else none
      | .error _ => none
  | _ => none

/-- The payload and the time of an approval. -/
def Decided.approval (decided : Decided) : Option (Value × Time) :=
  match decided.decision with
  | .pending => none
  | .approved _ _ _ => some (decided.payload, decided.decidedAt)

/-- The approvals that stand after a command: the last decision on a gate counts. -/
def record (approvals : Gate → Option (Value × Time)) (command : Command) :
    Gate → Option (Value × Time) :=
  match decisionOf platform tenantId command with
  | none => approvals
  | some decided => fun gate => if gate = decided.gateId then decided.approval else approvals gate

/-- The time that a command reads before it writes. -/
def commandTime : Command → Option Time
  | .updateTenantAdmission _ now => some now
  | .stopTenantProduction _ stoppedAt => some stoppedAt
  | _ => none

/-- The tenant of a store. -/
def tenantOf (store : Configuration) : Option TenantRow :=
  store.tenants.find? fun tenant => tenant.id = tenantId

/-- The admission revisions of the tenant, newest first. -/
def admissionsOf (store : Configuration) : List RevisionRow :=
  ((tenantOf tenantId store).map TenantRow.admissions).getD []

/-- The store with the time at which the tenant's active admission was created, the
clock, and the approvals that stand. -/
structure Run where
  store : Configuration
  createdAt : Time
  clock : Time
  approvals : Gate → Option (Value × Time)

/-- A command that is accepted. A revision is created when the command writes it, on a
clock that does not run backwards. -/
structure Step (before : Run) (command : Command) (writtenAt : Time) (after : Run) : Prop where
  performed : perform platform env command before.store = .ok after.store
  forward : before.clock ≤ writtenAt
  inside : ∀ time, commandTime command = some time → before.clock ≤ time ∧ time ≤ writtenAt
  clock : after.clock = writtenAt
  kept : admissionsOf tenantId after.store = admissionsOf tenantId before.store →
    after.createdAt = before.createdAt
  written : admissionsOf tenantId after.store ≠ admissionsOf tenantId before.store →
    after.createdAt = writtenAt
  approvals : after.approvals = record platform tenantId before.approvals command

/-- A store in which the tenant has no admission yet. -/
structure Unopened (run : Run) : Prop where
  admissions : admissionsOf tenantId run.store = []
  approvals : ∀ gate, run.approvals gate = none

/-- A sequence of accepted commands. -/
def Leads : Run → Run → Prop :=
  Relation.ReflTransGen fun before after =>
    ∃ command writtenAt, Step platform env tenantId before command writtenAt after

/-- The admission of a dossier, as exportTenantReadiness writes it. -/
def exportedMembers (admissionHash : JsString) (admission : TenantAdmission) (revision : ℕ)
    (createdAt : Time) : Members := [
  (js "admissionHash", .string admissionHash),
  (js "gates", .array (Gate.all.map fun gate => gateValue gate (admission.state gate))),
  (js "revision", Productization.wholeNumber revision), (js "revisionCreatedAt", .string (isoText createdAt)),
  (js "schema", .string TENANT_ADMISSION_SCHEMA),
  (js "status", .string (admissionStatus admission))]

/-- An export of the tenant that begins after the run. -/
structure Exported (run : Run) (exported : Value) : Prop where
  admission : ∃ tenant admission revision admissionHash,
    tenantOf tenantId run.store = some tenant ∧
    tenantAdmissionProjection platform env tenant = .ok (admission, revision) ∧
    exportedAdmission exported =
      .object (exportedMembers admissionHash admission revision run.createdAt)
  captured : ∃ capturedAt, exported.get (js "capturedAt") = .string (isoText capturedAt) ∧
    run.clock ≤ capturedAt

/-- The gate was last approved with the evidence of its manifest, and not before the
review. -/
structure Evidenced (sha256Hex : JsString → JsString) (run : Run) (gate : Gate)
    (manifest : Manifest) : Prop where
  own : manifest.gateId = .string (gateName gate)
  approved : ∃ document evidence payload decidedAt,
    validatePilotGateManifest sha256Hex document = .ok manifest ∧
    pilotGateAdmissionEvidence sha256Hex document = .ok evidence ∧
    run.approvals gate = some (payload, decidedAt) ∧
    payload.get (js "evidenceDigest") = .string evidence.evidenceDigest ∧
    payload.get (js "evidenceReference") = .string evidence.evidenceReference ∧
    payload.get (js "reviewerReference") = .string evidence.reviewerReference ∧
    readTime manifest.reviewedAt ≤ decidedAt

end Runs

/-! ## Admissions that are written as they are -/

section Written

variable {platform : TextPlatform} {env : Environment} {tenantId : JsString}

theorem readBack_gateValue (gate : Gate) (state : GateState) :
    readBack id (gateValue gate state) = gateValue gate state := by
  cases state <;> simp [gateValue, readBack, readBackMembers, Value.isUndefined]

theorem readBack_admissionValue (admission : TenantAdmission) :
    readBack id (admissionValue admission) = admissionValue admission := by
  have defined (gate : Gate) : (gateValue gate (admission.state gate)).isUndefined = false := by
    cases admission.state gate <;> rfl
  simp only [admissionValue, readBack, readBackMembers, Value.isUndefined, Bool.false_eq_true,
    if_false, id_eq, readBackItems_map id Gate.all _ defined, readBack_gateValue]

/-- A settled admission is written as it is, and read back so. -/
theorem createTenantAdmissionRevision_settled {admission : TenantAdmission} {revision : ℕ}
    {row : RevisionRow} (settled : SettledAdmission platform admission)
    (created : createTenantAdmissionRevision platform env admission revision = .ok row) :
    validateTenantAdmission platform row.document = .ok admission := by
  obtain ⟨normalized, accepted, written⟩ := bind_ok created
  have unchanged : validateTenantAdmission platform (readBack id (admissionValue admission)) =
      .ok admission := validateTenantAdmission_settled (fun _ => .refl _) settled
  rw [readBack_admissionValue, accepted] at unchanged
  have same : normalized = admission := Except.ok.inj unchanged
  subst same
  obtain ⟨documentHash, -, stored⟩ := bind_ok written
  have whole : row = ⟨revision, readBack env.order (admissionValue normalized), documentHash⟩ :=
    (Except.ok.inj stored).symm
  rw [whole]
  exact validateTenantAdmission_settled env.rearranges settled

theorem tenantAdmissionProjection_ok {tenant : TenantRow} {current : TenantAdmission × ℕ}
    (read : tenantAdmissionProjection platform env tenant = .ok current) :
    ∃ row rest, tenant.admissions = row :: rest ∧
      validateTenantAdmission platform row.document = .ok current.1 := by
  unfold tenantAdmissionProjection at read
  cases rows : tenant.admissions with
  | nil =>
      rw [rows] at read
      cases read
  | cons row rest =>
      rw [rows] at read
      refine ⟨row, rest, rfl, ?_⟩
      obtain ⟨accepted, validated, read⟩ := bind_ok read
      obtain ⟨_, -, read⟩ := bind_ok read
      split at read
      · cases read
      · obtain rfl := Except.ok.inj read
        exact mapError_ok validated

/-! ## What a command does to the admissions -/

/-- The evidence of an approval is settled. -/
def SettledDecision (platform : TextPlatform) (decision : Decision) : Prop :=
  ∀ decidedAt approval, decision.state decidedAt = .approved approval →
    SettledApproval platform approval

theorem applyTenantAdmissionDecision_settled {admission : TenantAdmission} {gateId : Gate}
    {decision : Decision} (decidedAt : Time) (settled : SettledAdmission platform admission)
    (evidence : SettledDecision platform decision) :
    SettledAdmission platform
      (applyTenantAdmissionDecision admission gateId decision decidedAt) := by
  intro gate approval state
  by_cases same : gate = gateId
  · subst same
    rw [applyTenantAdmissionDecision_same] at state
    exact evidence decidedAt approval state
  · rw [applyTenantAdmissionDecision_other admission decision decidedAt same] at state
    exact settled gate approval state

theorem sha256_ok {value : Value} {field text : JsString}
    (accepted : Productization.sha256 value field = .ok text) :
    value = .string text ∧ isDigest text = true := by
  cases value with
  | string own =>
      simp only [Productization.sha256] at accepted
      split at accepted
      case isTrue digest =>
        obtain rfl := Except.ok.inj accepted
        exact ⟨rfl, digest⟩
      case isFalse => cases accepted
  | _ => cases accepted

/-- What an accepted decision command decides. -/
structure Decides (platform : TextPlatform) (payload : Value) (evidenceDigest evidenceReference
    reviewerReference : JsString) : Prop where
  evidenceDigest : payload.get (js "evidenceDigest") = .string evidenceDigest ∧
    isDigest evidenceDigest = true
  evidenceReference : admissionReference platform (payload.get (js "evidenceReference"))
    (js "evidenceReference") = .ok evidenceReference
  reviewerReference : admissionReference platform (payload.get (js "reviewerReference"))
    (js "reviewerReference") = .ok reviewerReference

theorem validateTenantAdmissionDecisionCommand_ok {payload : Value}
    {input : TenantAdmissionDecisionCommand}
    (accepted : validateTenantAdmissionDecisionCommand platform payload = .ok input) :
    input.decision = .pending ∨ ∃ evidenceDigest evidenceReference reviewerReference,
      input.decision = .approved evidenceDigest evidenceReference reviewerReference ∧
      Decides platform payload evidenceDigest evidenceReference reviewerReference := by
  obtain ⟨members, read, checked⟩ := bind_ok accepted
  have whole := strictObject_object read
  obtain ⟨decision, -, checked⟩ := bind_ok checked
  split at checked
  · cases checked
  obtain ⟨id, -, checked⟩ := bind_ok checked
  split at checked
  · cases checked
  obtain ⟨_, -, checked⟩ := bind_ok checked
  obtain ⟨_, -, checked⟩ := bind_ok checked
  split at checked
  · obtain ⟨digest, digested, checked⟩ := bind_ok checked
    obtain ⟨evidence, referred, checked⟩ := bind_ok checked
    obtain ⟨reviewer, reviewed, checked⟩ := bind_ok checked
    rw [← Except.ok.inj checked]
    subst whole
    exact Or.inr ⟨digest, evidence, reviewer, rfl, sha256_ok digested, referred, reviewed⟩
  · split at checked
    · cases checked
    · rw [← Except.ok.inj checked]
      exact Or.inl rfl

theorem Decides.settled {payload : Value} {evidenceDigest evidenceReference
    reviewerReference : JsString} (decides : Decides platform payload evidenceDigest
      evidenceReference reviewerReference) :
    SettledDecision platform (.approved evidenceDigest evidenceReference reviewerReference) := by
  intro decidedAt approval state
  obtain rfl := GateState.approved.inj state
  exact ⟨decides.evidenceDigest.2, patternString_ok decides.evidenceReference,
    patternString_ok decides.reviewerReference⟩

/-- What a command does to the admission revisions of the tenant. -/
inductive Effect (platform : TextPlatform) (tenantId : JsString) (command : Command) :
    List RevisionRow → List RevisionRow → Prop where
  | kept (rows : List RevisionRow) (undecided : ∀ decided,
      decisionOf platform tenantId command = some decided → decided.approval = none) :
      Effect platform tenantId command rows rows
  | opened (row : RevisionRow) (undecided : decisionOf platform tenantId command = none) :
      Effect platform tenantId command [] [row]
  | written (decided : Decided) (row next : RevisionRow) (rest : List RevisionRow)
      (admission : TenantAdmission)
      (decides : decisionOf platform tenantId command = some decided)
      (before : validateTenantAdmission platform row.document = .ok admission)
      (after : validateTenantAdmission platform next.document = .ok
        (applyTenantAdmissionDecision admission decided.gateId decided.decision
          decided.decidedAt)) :
      Effect platform tenantId command (row :: rest) (next :: row :: rest)

/-- A decision writes the changed admission of the tenant, or leaves it. -/
theorem decideAdmission_writes {expectedRevision : ℕ} {gateId : Gate} {decision : Decision}
    {decidedAt : Time} {unchanged : TenantRow → Checked TenantRow} {tenant after : TenantRow}
    (decided : decideAdmission platform env expectedRevision gateId decision decidedAt unchanged
      tenant = .ok after)
    (settled : SettledDecision platform decision) :
    unchanged tenant = .ok after ∨ ∃ row next rest admission,
      tenant.admissions = row :: rest ∧
      after = { tenant with admissions := next :: row :: rest } ∧
      validateTenantAdmission platform row.document = .ok admission ∧
      validateTenantAdmission platform next.document =
        .ok (applyTenantAdmissionDecision admission gateId decision decidedAt) := by
  obtain ⟨current, read, decided⟩ := bind_ok decided
  obtain ⟨row, rest, rows, valid⟩ := tenantAdmissionProjection_ok read
  split at decided
  · cases decided
  dsimp only at decided
  obtain ⟨_, -, decided⟩ := bind_ok decided
  obtain ⟨_, -, decided⟩ := bind_ok decided
  split at decided
  · exact Or.inl decided
  · obtain ⟨next, created, decided⟩ := bind_ok decided
    have changed := createTenantAdmissionRevision_settled
      (applyTenantAdmissionDecision_settled decidedAt (validateTenantAdmission_ok valid) settled)
      created
    refine Or.inr ⟨row, next, rest, current.1, rows, ?_, valid, changed⟩
    rw [← Except.ok.inj decided, rows]

/-- A change that keeps the id of a tenant is found on the tenant that it names. -/
theorem changeTenant_find {changedId missing : JsString} {change : TenantRow → Checked TenantRow}
    {tenants after : List TenantRow} (tenantId : JsString)
    (changed : changeTenant changedId missing change tenants = .ok after)
    (R : TenantRow → TenantRow → Prop)
    (keeps : ∀ before next, change before = .ok next → next.id = before.id ∧ R before next) :
    (changedId ≠ tenantId → after.find? (fun tenant => tenant.id = tenantId) =
        tenants.find? fun tenant => tenant.id = tenantId) ∧
      (changedId = tenantId → ∃ tenant next,
        tenants.find? (fun tenant => tenant.id = tenantId) = some tenant ∧
          R tenant next ∧ after.find? (fun tenant => tenant.id = tenantId) = some next) := by
  induction tenants generalizing after with
  | nil => cases changed
  | cons first rest inductionHypothesis =>
      rw [changeTenant] at changed
      split at changed
      case isTrue own =>
        obtain ⟨next, done, changed⟩ := bind_ok changed
        obtain rfl := Except.ok.inj changed
        obtain ⟨same, related⟩ := keeps first next done
        constructor
        · intro other
          have away : first.id ≠ tenantId := own ▸ other
          simp [same, away]
        · intro here
          have found : first.id = tenantId := own.trans here
          exact ⟨first, next, by simp [found], related, by simp [same, found]⟩
      case isFalse away =>
        obtain ⟨later, done, changed⟩ := bind_ok changed
        obtain rfl := Except.ok.inj changed
        obtain ⟨elsewhere, here⟩ := inductionHypothesis done
        constructor
        · intro other
          rw [List.find?_cons, List.find?_cons, elsewhere other]
        · intro same
          have skipped : first.id ≠ tenantId := same ▸ away
          simpa [List.find?_cons, skipped] using here same

/-- A decision has its effect on the tenant that it names. -/
theorem decideAdmission_effect {command : Command} (decided : Decided)
    {changedId missing : JsString} {expectedRevision : ℕ}
    {unchanged : TenantRow → Checked TenantRow} {store : Configuration} {tenants : List TenantRow}
    (changed : changeTenant changedId missing (decideAdmission platform env expectedRevision
      decided.gateId decided.decision decided.decidedAt unchanged) store.tenants = .ok tenants)
    (same : ∀ tenant after, unchanged tenant = .ok after →
      after = tenant ∧ decided.approval = none)
    (decides : decisionOf platform tenantId command =
      if changedId = tenantId then some decided else none)
    (settled : SettledDecision platform decided.decision) :
    Effect platform tenantId command (admissionsOf tenantId store)
      (admissionsOf tenantId { store with tenants }) := by
  have keeps : ∀ before next, decideAdmission platform env expectedRevision decided.gateId
      decided.decision decided.decidedAt unchanged before = .ok next → next.id = before.id := by
    intro before next done
    rcases decideAdmission_writes done settled with left | ⟨_, _, _, _, -, rfl, -⟩
    · rw [(same _ _ left).1]
    · rfl
  obtain ⟨elsewhere, here⟩ := changeTenant_find tenantId changed
    (fun before next => decideAdmission platform env expectedRevision decided.gateId
      decided.decision decided.decidedAt unchanged before = .ok next)
    fun before next done => ⟨keeps before next done, done⟩
  by_cases own : changedId = tenantId
  · rw [if_pos own] at decides
    obtain ⟨tenant, next, found, done, after⟩ := here own
    simp only [admissionsOf, tenantOf, found, after, Option.map_some, Option.getD_some]
    rcases decideAdmission_writes done settled with
      left | ⟨row, written, rest, admission, rows, rfl, valid, applied⟩
    · obtain ⟨rfl, revoked⟩ := same _ _ left
      refine .kept _ fun other found => ?_
      rw [decides] at found
      rw [← Option.some.inj found]
      exact revoked
    · rw [rows]
      exact .written decided row written rest admission decides valid applied
  · rw [if_neg own] at decides
    simp only [admissionsOf, tenantOf, elsewhere own]
    exact .kept _ fun other found => by cases decides.symm.trans found

/-- A tenant keeps its admissions, or gets its first one. -/
structure Opens (before after : TenantRow) : Prop where
  id : after.id = before.id
  admissions : after.admissions = before.admissions ∨
    before.admissions = [] ∧ ∃ row, after.admissions = [row]

theorem Opens.trans {first second third : TenantRow} (left : Opens first second)
    (right : Opens second third) : Opens first third := by
  refine ⟨right.id.trans left.id, ?_⟩
  rcases right.admissions with same | ⟨empty, opened⟩
  · rw [same]
    exact left.admissions
  · rcases left.admissions with same | ⟨_, _, some⟩
    · exact Or.inr ⟨same ▸ empty, opened⟩
    · cases some.symm.trans empty

theorem ensureTenantAdmission_opens {tenant after : TenantRow}
    (ensured : ensureTenantAdmission platform env tenant = .ok after) : Opens tenant after := by
  unfold ensureTenantAdmission at ensured
  split at ensured
  · obtain ⟨_, -, same⟩ := bind_ok ensured
    rw [← Except.ok.inj same]
    exact ⟨rfl, Or.inl rfl⟩
  case isFalse none =>
    obtain ⟨row, -, opened⟩ := bind_ok ensured
    rw [← Except.ok.inj opened]
    exact ⟨rfl, Or.inr ⟨not_not.mp none, row, rfl⟩⟩

theorem migrateTenant_opens {tenant after : TenantRow}
    (migrated : migrateTenant platform env tenant = .ok after) : Opens tenant after := by
  unfold migrateTenant at migrated
  split at migrated
  · rw [← Except.ok.inj migrated]
    exact ⟨rfl, Or.inl rfl⟩
  · obtain ⟨_, -, migrated⟩ := bind_ok migrated
    obtain ⟨row, -, migrated⟩ := bind_ok migrated
    have opens := ensureTenantAdmission_opens migrated
    exact ⟨opens.id, opens.admissions⟩

/-- The admissions of the tenant in a list. -/
theorem mapM_find {visit : TenantRow → Checked TenantRow} {tenants after : List TenantRow}
    (tenantId : JsString) (opens : ∀ before next, visit before = .ok next → Opens before next)
    (visited : tenants.mapM visit = .ok after) :
    (tenants.find? (fun tenant => tenant.id = tenantId) = none ∧
        after.find? (fun tenant => tenant.id = tenantId) = none) ∨
      ∃ tenant next, tenants.find? (fun tenant => tenant.id = tenantId) = some tenant ∧
        Opens tenant next ∧ after.find? (fun tenant => tenant.id = tenantId) = some next := by
  induction tenants generalizing after with
  | nil =>
      obtain rfl := Except.ok.inj visited
      exact Or.inl ⟨rfl, rfl⟩
  | cons first rest inductionHypothesis =>
      rw [List.mapM_cons] at visited
      obtain ⟨next, done, visited⟩ := bind_ok visited
      obtain ⟨later, others, visited⟩ := bind_ok visited
      obtain rfl := Except.ok.inj visited
      have opened := opens first next done
      by_cases own : first.id = tenantId
      · have same : next.id = tenantId := opened.id.trans own
        exact Or.inr ⟨first, next, by simp [own], opened, by simp [same]⟩
      · have away : next.id ≠ tenantId := fun same => own (opened.id.symm.trans same)
        simpa [List.find?_cons, own, away] using inductionHypothesis others

theorem Opens.effect {command : Command} {before after : TenantRow} (opens : Opens before after)
    (undecided : decisionOf platform tenantId command = none) :
    Effect platform tenantId command before.admissions after.admissions := by
  rcases opens.admissions with same | ⟨empty, row, opened⟩
  · rw [same]
    exact .kept _ fun decided found => by cases undecided.symm.trans found
  · rw [empty, opened]
    exact .opened row undecided

theorem initializeStore_effect {legacy : Option (List JsString × List JsString)}
    {store after : Configuration} (done : initializeStore platform env legacy store = .ok after) :
    Effect platform tenantId (.initializeStore legacy) (admissionsOf tenantId store)
      (admissionsOf tenantId after) := by
  obtain ⟨installed, ensured, done⟩ := bind_ok done
  obtain ⟨migrated, first, done⟩ := bind_ok done
  obtain ⟨tenants, second, done⟩ := bind_ok done
  obtain rfl := Except.ok.inj done
  have same : installed.tenants = store.tenants := by
    unfold ensureInstallationProfile at ensured
    split at ensured
    · rw [Except.ok.inj ensured]
    · obtain ⟨_, -, ensured⟩ := bind_ok ensured
      obtain ⟨_, -, ensured⟩ := bind_ok ensured
      rw [← Except.ok.inj ensured]
  rw [same] at first
  have undecided : decisionOf platform tenantId (.initializeStore legacy) = none := rfl
  rcases mapM_find tenantId (fun _ _ => migrateTenant_opens) first with
    ⟨none, missing⟩ | ⟨tenant, next, found, opened, moved⟩ <;>
  rcases mapM_find tenantId (fun _ _ => ensureTenantAdmission_opens) second with
    ⟨absent, still⟩ | ⟨other, last, present, ensured, reached⟩
  · simp only [admissionsOf, tenantOf, none, still]
    exact .kept _ fun decided found => by cases undecided.symm.trans found
  · cases missing.symm.trans present
  · cases absent.symm.trans moved
  · obtain rfl := Option.some.inj (moved.symm.trans present)
    simp only [admissionsOf, tenantOf, found, reached, Option.map_some, Option.getD_some]
    exact (opened.trans ensured).effect undecided

theorem provisionTenant_effect {id : JsString} {payload : Value} {store after : Configuration}
    (done : provisionTenant platform env id payload store = .ok after) :
    Effect platform tenantId (.provisionTenant id payload) (admissionsOf tenantId store)
      (admissionsOf tenantId after) := by
  obtain ⟨input, -, done⟩ := bind_ok done
  obtain ⟨installation, -, done⟩ := bind_ok done
  split at done
  · cases done
  split at done
  · cases done
  obtain ⟨profile, -, done⟩ := bind_ok done
  obtain ⟨tenant, ensured, done⟩ := bind_ok done
  obtain rfl := Except.ok.inj done
  have opens := ensureTenantAdmission_opens ensured
  have undecided : decisionOf platform tenantId (.provisionTenant id payload) = none := rfl
  have kept : Effect platform tenantId (.provisionTenant id payload)
      (admissionsOf tenantId store) (admissionsOf tenantId store) :=
    .kept _ fun decided found => by cases undecided.symm.trans found
  cases found : store.tenants.find? fun tenant => tenant.id = tenantId with
  | some own =>
      simpa only [admissionsOf, tenantOf, List.find?_append, found, Option.some_or] using kept
  | none =>
      by_cases same : tenant.id = tenantId
      · have effect := opens.effect undecided
        simpa [admissionsOf, tenantOf, List.find?_append, found, same] using effect
      · simpa [admissionsOf, tenantOf, List.find?_append, found, same] using kept

theorem updateTenantProfile_effect {payload : Value} {administrator : Bool}
    {retentionProfiles : List JsString} {store after : Configuration}
    (done : updateTenantProfile platform env payload administrator retentionProfiles store =
      .ok after) :
    admissionsOf tenantId after = admissionsOf tenantId store := by
  obtain ⟨input, -, done⟩ := bind_ok done
  obtain ⟨tenants, changed, done⟩ := bind_ok done
  obtain rfl := Except.ok.inj done
  have found := changeTenant_find tenantId changed
    (fun before next => next.admissions = before.admissions) fun before next changes => ?_
  · obtain ⟨elsewhere, here⟩ := found
    by_cases own : input.tenantId = tenantId
    · obtain ⟨tenant, next, found, same, reached⟩ := here own
      simp only [admissionsOf, tenantOf, found, reached, Option.map_some, Option.getD_some]
      exact same
    · simp only [admissionsOf, tenantOf, elsewhere own]
  · obtain ⟨current, -, changes⟩ := bind_ok changes
    split at changes
    · cases changes
    obtain ⟨_, -, changes⟩ := bind_ok changes
    obtain ⟨_, -, changes⟩ := bind_ok changes
    split at changes
    · cases changes
    split at changes
    · cases changes
    obtain ⟨_, -, changes⟩ := bind_ok changes
    rw [← Except.ok.inj changes]
    exact ⟨rfl, rfl⟩

theorem perform_effect (tenantId : JsString) {command : Command} {store after : Configuration}
    (done : perform platform env command store = .ok after) :
    Effect platform tenantId command (admissionsOf tenantId store)
      (admissionsOf tenantId after) := by
  cases command with
  | initializeStore legacy => exact initializeStore_effect done
  | provisionTenant id payload => exact provisionTenant_effect done
  | updateTenantProfile payload administrator retentionProfiles =>
      rw [updateTenantProfile_effect done]
      exact .kept _ fun decided found => by cases found
  | updateInstallationProfile payload =>
      obtain ⟨input, -, done⟩ := bind_ok done
      obtain ⟨current, -, done⟩ := bind_ok done
      split at done
      · cases done
      obtain ⟨next, -, done⟩ := bind_ok done
      rw [← Except.ok.inj done]
      exact .kept _ fun decided found => by cases found
  | updateTenantAdmission payload now =>
      obtain ⟨input, accepted, done⟩ := bind_ok done
      obtain ⟨tenants, changed, done⟩ := bind_ok done
      rw [← Except.ok.inj done]
      refine decideAdmission_effect ⟨input.gateId, input.decision, now, payload⟩
        changed (fun _ _ impossible => by cases impossible) ?_ ?_
      · simp only [decisionOf, accepted]
      · rcases validateTenantAdmissionDecisionCommand_ok accepted with
          pending | ⟨_, _, _, approved, decides⟩
        · rw [pending]
          exact fun _ _ impossible => by cases impossible
        · rw [approved]
          exact decides.settled
  | stopTenantProduction payload stoppedAt =>
      obtain ⟨input, accepted, done⟩ := bind_ok done
      obtain ⟨tenants, changed, done⟩ := bind_ok done
      rw [← Except.ok.inj done]
      refine decideAdmission_effect ⟨input.gateId, .pending, stoppedAt, payload⟩
        changed (fun _ _ same => ⟨(Except.ok.inj same).symm, rfl⟩) ?_ ?_
      · simp only [decisionOf, accepted]
      · exact fun _ _ impossible => by cases impossible

/-- An approval comes from an accepted payload, at the time of its command. -/
theorem decisionOf_approved {command : Command} {decided : Decided}
    (found : decisionOf platform tenantId command = some decided) {approval : Value × Time}
    (approved : decided.approval = some approval) :
    approval = (decided.payload, decided.decidedAt) ∧
      commandTime command = some decided.decidedAt ∧
      ∃ evidenceDigest evidenceReference reviewerReference,
        decided.decision = .approved evidenceDigest evidenceReference reviewerReference ∧
        Decides platform decided.payload evidenceDigest evidenceReference reviewerReference := by
  cases command with
  | updateTenantAdmission payload now =>
      simp only [decisionOf] at found
      cases accepted : validateTenantAdmissionDecisionCommand platform payload with
      | error failure =>
          rw [accepted] at found
          cases found
      | ok input =>
          simp only [accepted] at found
          split at found
          case isFalse => cases found
          case isTrue =>
            obtain rfl := Option.some.inj found
            rcases validateTenantAdmissionDecisionCommand_ok accepted with
              pending | ⟨digest, evidence, reviewer, same, decides⟩
            · simp [Decided.approval, pending] at approved
            · simp only [Decided.approval, same, Option.some.injEq] at approved
              exact ⟨approved.symm, rfl, digest, evidence, reviewer, same, decides⟩
  | stopTenantProduction payload stoppedAt =>
      simp only [decisionOf] at found
      cases accepted : validateTenantProductionStopCommand platform payload with
      | error failure =>
          rw [accepted] at found
          cases found
      | ok input =>
          simp only [accepted] at found
          split at found
          case isFalse => cases found
          case isTrue =>
            obtain rfl := Option.some.inj found
            cases approved
  | _ => cases found

/-! ## Runs -/

/-- The active admission holds the approvals that stand, each decided before its
revision was created, and the clock is past that. -/
structure Tracked (platform : TextPlatform) (tenantId : JsString) (run : Run) : Prop where
  ordered : admissionsOf tenantId run.store ≠ [] → run.createdAt ≤ run.clock
  approvals : ∀ gate payload decidedAt, run.approvals gate = some (payload, decidedAt) →
    decidedAt ≤ run.createdAt ∧ ∃ row rest admission evidenceDigest evidenceReference
      reviewerReference, admissionsOf tenantId run.store = row :: rest ∧
        validateTenantAdmission platform row.document = .ok admission ∧
        admission.state gate = .approved
          ⟨decidedAt, evidenceDigest, evidenceReference, reviewerReference⟩ ∧
        Decides platform payload evidenceDigest evidenceReference reviewerReference

theorem unopened_tracked {run : Run} (unopened : Unopened tenantId run) :
    Tracked platform tenantId run := by
  constructor
  · exact fun written => absurd unopened.admissions written
  · intro gate payload decidedAt approved
    cases (unopened.approvals gate).symm.trans approved

theorem step_tracked {before after : Run} {command : Command} {writtenAt : Time}
    (step : Step platform env tenantId before command writtenAt after)
    (tracked : Tracked platform tenantId before) : Tracked platform tenantId after := by
  have effect := perform_effect tenantId step.performed
  have recorded := step.approvals
  generalize earlier : admissionsOf tenantId before.store = rows at effect
  generalize later : admissionsOf tenantId after.store = others at effect
  cases effect with
  | kept rows undecided =>
      have same := step.kept (later.trans earlier.symm)
      constructor
      · intro written
        rw [same, step.clock]
        exact (tracked.ordered (by rwa [earlier, ← later])).trans step.forward
      · intro gate payload decidedAt approved
        have stood : before.approvals gate = some (payload, decidedAt) := by
          rw [recorded] at approved
          cases found : decisionOf platform tenantId command with
          | none =>
              simp only [record, found] at approved
              exact approved
          | some decided =>
              simp only [record, found] at approved
              split at approved
              · cases (undecided decided found).symm.trans approved
              · exact approved
        rw [same, later, ← earlier]
        exact tracked.approvals gate payload decidedAt stood
  | opened row undecided =>
      have created := step.written (by simp [earlier, later])
      constructor
      · intro _
        rw [created, step.clock]
      · intro gate payload decidedAt approved
        rw [recorded, record, undecided] at approved
        obtain ⟨-, _, _, _, _, _, _, some, -⟩ := tracked.approvals gate payload decidedAt approved
        cases earlier.symm.trans some
  | written decided row next rest admission decides valid applied =>
      have created := step.written (by simp [earlier, later])
      constructor
      · intro _
        rw [created, step.clock]
      · intro gate payload decidedAt approved
        rw [recorded, record, decides] at approved
        rw [created, later]
        by_cases own : gate = decided.gateId
        · subst own
          simp only [if_true] at approved
          obtain ⟨same, time, digest, evidence, reviewer, state, carried⟩ :=
            decisionOf_approved decides approved
          obtain ⟨rfl, rfl⟩ := Prod.mk.inj same
          refine ⟨(step.inside _ time).2, next, _, _, digest, evidence, reviewer, rfl, applied, ?_,
            carried⟩
          rw [applyTenantAdmissionDecision_same, state]
          rfl
        · simp only [own, if_false] at approved
          obtain ⟨decidedBefore, first, _, current, digest, evidence, reviewer, rows, held, state,
            carried⟩ := tracked.approvals gate payload decidedAt approved
          obtain ⟨rfl, -⟩ := List.cons.inj (earlier.symm.trans rows)
          obtain rfl := Except.ok.inj (valid.symm.trans held)
          have opened := tracked.ordered (by simp [earlier])
          refine ⟨decidedBefore.trans (opened.trans step.forward), next, _, _, digest, evidence,
            reviewer, rfl, applied, ?_, carried⟩
          rw [applyTenantAdmissionDecision_other _ _ _ own, state]

theorem leads_tracked {start run : Run} (leads : Leads platform env tenantId start run)
    (tracked : Tracked platform tenantId start) : Tracked platform tenantId run := by
  induction leads with
  | refl => exact tracked
  | tail _ last inductionHypothesis =>
      obtain ⟨command, writtenAt, step⟩ := last
      exact step_tracked step inductionHypothesis

theorem isTokenUnit_graphic {unit : CodeUnit} (token : isTokenUnit unit = true) :
    isGraphic unit = true := by
  simp only [isTokenUnit, isLowerLetter, isUpperLetter, isDigit, isGraphic, Bool.or_eq_true,
    Bool.and_eq_true, decide_eq_true_eq, List.mem_cons, List.not_mem_nil, or_false] at token ⊢
  omega

/-- A reference of a manifest is accepted as it is. -/
theorem admissionReference_opaqueReference {text : JsString}
    (reference : opaqueReference text = true) (field : JsString) :
    admissionReference platform (.string text) field = .ok text := by
  cases text with
  | nil => cases reference
  | cons first rest =>
      simp only [opaqueReference, isFilenameUnit, Bool.and_eq_true, decide_eq_true_eq] at reference
      obtain ⟨⟨start, short⟩, every⟩ := reference
      have later : rest.all isTokenUnit = true := every
      have tokens : isToken (first :: rest) = true := by
        rw [isToken, List.all_cons, later, Bool.and_true, isTokenUnit, start, Bool.true_or]
      refine patternString_settled ⟨graphic_settled (fun unit member => ?_) ?_, tokens⟩ _ _
      · exact isTokenUnit_graphic (List.all_eq_true.mp tokens unit member)
      · simp only [List.length_cons]
        omega

/-- What an approval with the evidence of a manifest left in the admission. -/
theorem Decides.manifest {payload : Value} {digest evidence reviewer : JsString}
    {sha256Hex : JsString → JsString} {manifest : Manifest}
    (decides : Decides platform payload digest evidence reviewer)
    (checked : CheckedManifest sha256Hex manifest)
    (digested : payload.get (js "evidenceDigest") = .string manifest.packageDigest)
    (referred : payload.get (js "evidenceReference") = .string manifest.evidenceReference)
    (reviewed : payload.get (js "reviewerReference") = .string manifest.reviewerReference) :
    digest = manifest.packageDigest ∧ evidence = manifest.evidenceReference ∧
      reviewer = manifest.reviewerReference := by
  have first := decides.evidenceDigest.1
  have second := decides.evidenceReference
  have third := decides.reviewerReference
  rw [digested] at first
  rw [referred, admissionReference_opaqueReference checked.evidenceReference] at second
  rw [reviewed, admissionReference_opaqueReference checked.reviewerReference] at third
  exact ⟨(Value.string.inj first).symm, (Except.ok.inj second).symm, (Except.ok.inj third).symm⟩

/-- The admission records the evidence of a gate that was last approved with it. -/
theorem evidenced_recorded {sha256Hex : JsString → JsString} {run : Run}
    {admission : TenantAdmission} {gate : Gate} {manifest : Manifest} {row : RevisionRow}
    {rest : List RevisionRow} (tracked : Tracked platform tenantId run)
    (active : admissionsOf tenantId run.store = row :: rest)
    (held : validateTenantAdmission platform row.document = .ok admission)
    (evidenced : Evidenced sha256Hex run gate manifest) :
    (admission.state gate).isApproved = true ∧ isCanonicalTimestamp manifest.reviewedAt = true ∧
      ∃ decidedAt, Recorded (gateValue gate (admission.state gate)) gate manifest decidedAt ∧
        readTime manifest.reviewedAt ≤ decidedAt ∧ decidedAt ≤ run.createdAt := by
  obtain ⟨document, evidence, payload, decidedAt, validated, offered, approved, digested, referred,
    reviewed, ordered⟩ := evidenced.approved
  have checked := validatePilotGateManifest_ok validated
  rw [pilotGateAdmissionEvidence, validated] at offered
  obtain rfl := Except.ok.inj offered
  obtain ⟨decided, first, _, current, digest, reference, reviewer, rows, valid, state, decides⟩ :=
    tracked.approvals gate payload decidedAt approved
  obtain ⟨rfl, -⟩ := List.cons.inj (active.symm.trans rows)
  obtain rfl := Except.ok.inj (held.symm.trans valid)
  obtain ⟨rfl, rfl, rfl⟩ := decides.manifest checked digested referred reviewed
  rw [state]
  exact ⟨rfl, checked.reviewedAt, decidedAt, ⟨rfl, rfl, rfl, rfl, rfl, rfl⟩, ordered, decided⟩

/-- Every set that passes is honest. -/
def AcceptedSetsAreHonest (setting : Setting) : Prop :=
  ∀ (expectedDigest expectedKeyFingerprint : Value) (dossier : List Utf8.Byte)
    (entries : List Entry) (result : EvidenceVerification),
    verifyPilotAdmissionEvidenceSet setting expectedDigest expectedKeyFingerprint dossier entries =
        .ok result →
      ∃ exported verification gates manifest scope revisionCreatedAt capturedAt,
        verifiedReadinessExport setting expectedDigest expectedKeyFingerprint dossier =
            .ok (exported, verification) ∧
          HonestSet setting entries exported gates manifest scope revisionCreatedAt capturedAt

/-- What is exported after a run that approved each gate with its manifest, all of one
scope, passes against the manifests. -/
def HonestRunsPass (setting : Setting) (platform : TextPlatform) (env : Environment)
    (tenantId : JsString) : Prop :=
  ∀ (start run : Run) (exported : Value) (manifest : Gate → Manifest) (scope : JsString),
    Unopened tenantId start → Leads platform env tenantId start run →
    (∀ gate, Evidenced setting.tools.sha256Hex run gate (manifest gate) ∧
      (manifest gate).scopeReference = scope) →
    Exported platform env tenantId run exported →
    verifyAdmissionBindings setting exported (Gate.all.map manifest) = .ok ()

theorem honestRunsPass (setting : Setting) (platform : TextPlatform) (env : Environment)
    (tenantId : JsString) : HonestRunsPass setting platform env tenantId := by
  intro start run exported manifest scope unopened leads evidenced written
  have tracked := leads_tracked leads (unopened_tracked unopened)
  obtain ⟨⟨tenant, admission, revision, admissionHash, found, read, whole⟩,
    ⟨capturedAt, captured, later⟩⟩ := written
  obtain ⟨row, rest, rows, held⟩ := tenantAdmissionProjection_ok read
  have active : admissionsOf tenantId run.store = row :: rest := by
    simp only [admissionsOf, found, Option.map_some, Option.getD_some, rows]
  have opened := tracked.ordered (by simp [active])
  have recorded := fun gate => evidenced_recorded tracked active held (evidenced gate).1
  have admitted : admission.admitted = true :=
    admission.admitted_iff.mpr fun gate => (recorded gate).1
  have status : admissionStatus admission = js "admitted" := by
    simp only [admissionStatus, admitted, if_true]
  have each : ∀ gate, verifyGateBinding setting run.createdAt capturedAt gate
      (gateValue gate (admission.state gate)) (manifest gate) = .ok () := by
    intro gate
    obtain ⟨-, canonical, decidedAt, stands, after, before⟩ := recorded gate
    exact verifyGateBinding_recorded setting stands (evidenced gate).1.own canonical
      ⟨after, before, before.trans (opened.trans later)⟩
  have scopes : (Gate.all.map manifest).map Manifest.scopeReference =
      List.replicate Gate.all.length scope := by
    rw [List.map_map]
    exact List.map_eq_replicate_iff.mpr fun gate _ => (evidenced gate).2
  have single : (List.replicate Gate.all.length scope).dedup.length = 1 := by
    simp [Gate.all]
  have gates : (exportedAdmission exported).get (js "gates") =
      .array (Gate.all.map fun gate => gateValue gate (admission.state gate)) := by
    rw [whole]
    rfl
  have revised : (exportedAdmission exported).get (js "revisionCreatedAt") =
      .string (isoText run.createdAt) := by
    rw [whole]
    rfl
  have state : (exportedAdmission exported).get (js "status") = .string (js "admitted") := by
    rw [whole, ← status]
    rfl
  have inTime : ¬capturedAt < run.createdAt := not_lt.mpr (opened.trans later)
  simp only [verifyAdmissionBindings, gates, revised, state, captured, timestamp_isoText,
    isText_iff.mpr, List.length_map, beq_self_eq_true, Bool.and_self, ReadinessDossier.check,
    if_true, bind, Except.bind, scopes, single, inTime, not_false_eq_true, decide_true]
  exact verifyGateBindings_map setting each Gate.all

end Written

end Vasi.PilotAdmission
