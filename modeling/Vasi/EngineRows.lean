import Vasi.Admission
import Vasi.CanonicalJson
import Vasi.HashChain
import Vasi.ReadCommitted
import Vasi.Workflow

/-!
# Rows of the engine database

The rows that requests, their evidence and their notifications live in, and the
values the engine takes from outside the database.

Issuing inserts a request with one assignment, and every transaction that
changes either locks both. They are kept together here as one case, with what is
only reached through that lock: the activities with their responses, the events
with the head of their chain, and the manifest with its seals. Columns that no
modelled operation reads (titles, purposes, client context, quota and profile
snapshots, display data) are left out, and so are columns that repeat another
row and `interaction_session` rows that are over. Participant data requests are
another component; their status is taken from outside where a job depends on it.
-/
namespace Vasi.EngineRows

open JsValue IsoTime Admission Activities Workflow ReadCommitted

/-- An identifier made by randomUUID. -/
abbrev Uuid := BitVec 128

/-- Lowercase hexadecimal digits of the given width. -/
def hexDigits : ℕ → ℕ → JsString
  | 0, _ => []
  | width + 1, value => hexDigits width (value / 16) ++ [hexDigit (value % 16)]

/-- The text of an identifier, with its dashes. -/
def Uuid.text (id : Uuid) : JsString :=
  let digits := hexDigits 32 id.toNat
  digits.take 8 ++ js "-" ++ (digits.drop 8).take 4 ++ js "-" ++ (digits.drop 12).take 4 ++
    js "-" ++ (digits.drop 16).take 4 ++ js "-" ++ digits.drop 20

/-- The status of a request_instance and of a participant_assignment. -/
inductive Status where
  | scheduled
  | issued
  | inProgress
  | completed
  | revoked
  | expired
deriving DecidableEq

def Status.text : Status → JsString
  | scheduled => js "scheduled"
  | issued => js "issued"
  | inProgress => js "in_progress"
  | completed => js "completed"
  | revoked => js "revoked"
  | expired => js "expired"

/-- The statuses from which a request can still be answered. -/
def Status.active : Status → Bool
  | scheduled | issued | inProgress => true
  | completed | revoked | expired => false

/-- A published workflow revision: its snapshot is a validated draft. -/
structure PublishedWorkflow where
  revisionId : Uuid
  snapshot : WorkflowDocument
  validated : ∃ platform value, validateWorkflowDraft platform value = .ok snapshot

/-- A request_instance row; a request without a published workflow is a terms response. -/
structure RequestRow where
  tenantId : Uuid
  status : Status
  scheduledFor : Option Time
  dueAt : Option Time
  expiresAt : Time
  workflow : Option PublishedWorkflow
  reissuedFromRequestId : Option Uuid

/-- The interaction_session row of an assignment that is not over. -/
structure Interaction where
  id : Uuid
  gatewaySessionId : JsString
  startedAt : Time

/-- A participant_assignment row, with its open interaction. -/
structure AssignmentRow where
  id : Uuid
  status : Status
  intendedEmail : JsString
  principalId : Option JsString
  interaction : Option Interaction

inductive ActivityStatus where
  | pending
  | available
  | completed
  | skipped
deriving DecidableEq

inductive ResponseState where
  | saved
  | submitted
deriving DecidableEq

/-- An activity_response_revision row. -/
structure ResponseRevision where
  id : Uuid
  state : ResponseState
  response : ActivityResponse
  recordedAt : Time

/-- An activity_response row. -/
structure RecordedResponse where
  id : Uuid
  response : ActivityResponse
  respondedAt : Time

/-- An activity_instance row with its response rows. -/
structure ActivityInstance where
  definition : Activity
  status : ActivityStatus
  openedAt : Option Time
  revisions : List ResponseRevision
  responses : List RecordedResponse

/-- An evidence_event row. -/
abbrev EvidenceEvent := HashChain.Link Value JsString

/-- An evidence_chain_head row with the events of the assignment in order. -/
structure ChainRow where
  lastSequence : ℕ
  lastHash : JsString
  events : List EvidenceEvent

/-- A seal as the signing provider gives it, with the time it was made. -/
structure Seal where
  algorithm : JsString
  certificate : Value
  certificateChain : Value
  createdAt : JsString
  keyId : JsString
  manifestHash : JsString
  profile : JsString
  publicJWK : Value
  role : JsString
  signature : JsString
  validationScope : Value

/-- An evidence_seal row: the certificate and its scope are in the metadata column. -/
structure SealRow where
  profile : JsString
  algorithm : JsString
  keyId : JsString
  publicJwk : Value
  signature : JsString
  sealRole : JsString
  certificateChain : Option Value
  metadata : Option (Value × Value)
  createdAt : Time

/-- An evidence_manifest row with its seals. -/
structure ManifestRow where
  id : Uuid
  manifest : Value
  manifestHash : JsString
  createdAt : Time
  seals : List SealRow

/-- A request with its assignment and all that belongs to it. -/
structure Case where
  requestId : Uuid
  request : RequestRow
  assignment : AssignmentRow
  activities : List ActivityInstance
  chain : ChainRow
  manifest : Option ManifestRow

inductive JobStatus where
  | pending
  | participantPending
  | running
  | completed
  | failed
deriving DecidableEq

/-- The job is over. -/
def JobStatus.settled : JobStatus → Bool
  | completed | failed => true
  | pending | participantPending | running => false

/-- The job can be claimed. -/
def JobStatus.waiting : JobStatus → Bool
  | pending | participantPending => true
  | running | completed | failed => false

/-- What a delivery came to. -/
inductive DeliveryOutcome where
  | delivered
  | failed
  | suppressed
deriving DecidableEq

/-- The result column of a job. -/
structure JobResult where
  adapter : JsString
  outcome : DeliveryOutcome
  reason : Option JsString
deriving DecidableEq

/-- An outbox_job row. The payload is none once it is redacted. -/
structure JobRow where
  tenantId : Uuid
  requestId : Option Uuid
  participantDataRequestId : Option Uuid
  notificationType : Option JsString
  idempotencyKey : JsString
  payload : Option Value
  payloadHash : JsString
  status : JobStatus
  attempts : ℕ
  maxAttempts : ℕ
  availableAt : Time
  createdAt : Time
  lockedAt : Option Time
  lastErrorCode : Option JsString
  completedAt : Option Time
  result : Option JobResult

/-- What a delivery attempt reports. -/
structure Delivery where
  adapter : JsString
  outcome : DeliveryOutcome
  errorCode : Option JsString
deriving DecidableEq

/-- A notification_delivery_attempt row. -/
structure AttemptRow where
  delivery : Delivery
  startedAt : Time
  completedAt : Time

/-- An integration_gateway_attempt row. -/
structure GatewayAttemptRow where
  tenantId : Uuid
  requestHash : JsString
  delivery : Delivery
  startedAt : Time
  completedAt : Time

/-- The tenant_admission_pointer row with the revision it points to. -/
structure AdmissionRow where
  revision : ℕ
  admission : TenantAdmission

/-- The rows by what identifies them. An attempt is identified by its job and number. -/
inductive Key where
  | admission (tenantId : Uuid)
  | request (id : Uuid)
  | job (id : Uuid)
  | attempt (jobId : Uuid) (attempt : ℕ)
  | gatewayAttempt (jobId : Uuid) (attempt : ℕ)
deriving DecidableEq

abbrev Row : Key → Type
  | .admission _ => AdmissionRow
  | .request _ => Case
  | .job _ => JobRow
  | .attempt _ _ => AttemptRow
  | .gatewayAttempt _ _ => GatewayAttemptRow

abbrev EngineStore := Store Row

abbrev EngineChanges := Changes Row

/-! ## Single rows -/

abbrev admissionAt (store : EngineStore) (tenantId : Uuid) : Option AdmissionRow :=
  store.lookup (Key.admission tenantId)

/-- The case of the request whose identifier column has the value. -/
def caseAt (store : EngineStore) (requestId : Uuid) : Option Case :=
  (store.lookup (Key.request requestId)).filter fun (record : Case) => record.requestId = requestId

abbrev jobAt (store : EngineStore) (id : Uuid) : Option JobRow :=
  store.lookup (Key.job id)

abbrev attemptAt (store : EngineStore) (jobId : Uuid) (attempt : ℕ) : Option AttemptRow :=
  store.lookup (Key.attempt jobId attempt)

abbrev gatewayAttemptAt (store : EngineStore) (jobId : Uuid) (attempt : ℕ) :
    Option GatewayAttemptRow :=
  store.lookup (Key.gatewayAttempt jobId attempt)

/-! ## Rows of one kind -/

/-- The request_instance rows with what belongs to them. -/
def cases (store : EngineStore) : List Case :=
  store.entries.filterMap fun
    | ⟨.request id, record⟩ => if (record : Case).requestId = id then some record else none
    | _ => none

/-- The outbox_job rows. -/
def jobRows (store : EngineStore) : List (Uuid × JobRow) :=
  store.entries.filterMap fun
    | ⟨.job id, row⟩ => some (id, row)
    | _ => none

/-- The notification_delivery_attempt rows of a job. -/
def attemptRows (store : EngineStore) (jobId : Uuid) : List (ℕ × AttemptRow) :=
  store.entries.filterMap fun
    | ⟨.attempt id number, row⟩ => if id = jobId then some (number, row) else none
    | _ => none

/-- A row is an entry of the store exactly when its key looks it up. -/
theorem mem_entries {store : EngineStore} {key : Key} {row : Row key} :
    ⟨key, row⟩ ∈ store.entries ↔ store.lookup key = some row :=
  AList.mem_lookup_iff.symm

theorem caseAt_eq_some {store : EngineStore} {requestId : Uuid} {record : Case} :
    caseAt store requestId = some record ↔
      store.lookup (Key.request requestId) = some record ∧ record.requestId = requestId := by
  simp only [caseAt, Option.filter_eq_some_iff, decide_eq_true_eq]

theorem mem_cases {store : EngineStore} {record : Case} :
    record ∈ cases store ↔ caseAt store record.requestId = some record := by
  rw [caseAt_eq_some, cases, List.mem_filterMap]
  constructor
  · rintro ⟨⟨key, value⟩, member, same⟩
    cases key with
    | request id =>
        obtain ⟨named, result⟩ := Option.ite_none_right_eq_some.mp same
        obtain rfl : value = record := Option.some.inj result
        have stored : ∀ key, key = id → store.lookup (Key.request key) = some (value : Case) := by
          rintro _ rfl
          exact mem_entries.mp member
        exact ⟨stored _ named, rfl⟩
    | _ => cases same
  · rintro ⟨found, _⟩
    exact ⟨⟨.request record.requestId, record⟩, mem_entries.mpr found, if_pos rfl⟩

/-- A case is one row. -/
theorem cases_distinct (store : EngineStore) : ((cases store).map Case.requestId).Nodup := by
  rw [List.Nodup, List.pairwise_map]
  refine List.Pairwise.filterMap _ ?_ (List.nodupKeys_iff_pairwise.mp store.nodupKeys)
  rintro ⟨first, firstRow⟩ ⟨second, secondRow⟩ apart record found other otherFound same
  cases first with
  | request firstId =>
      cases second with
      | request secondId =>
          obtain ⟨firstNamed, found⟩ := Option.ite_none_right_eq_some.mp found
          obtain ⟨secondNamed, otherFound⟩ := Option.ite_none_right_eq_some.mp otherFound
          obtain rfl := Option.some.inj found
          obtain rfl := Option.some.inj otherFound
          exact apart (congrArg Key.request (firstNamed.symm.trans (same.trans secondNamed)))
      | _ => cases otherFound
  | _ => cases found

theorem mem_jobRows {store : EngineStore} {id : Uuid} {row : JobRow} :
    (id, row) ∈ jobRows store ↔ jobAt store id = some row := by
  refine Iff.trans ?_ (@mem_entries store (.job id) row)
  rw [jobRows, List.mem_filterMap]
  constructor
  · rintro ⟨⟨key, value⟩, member, same⟩
    cases key <;> cases same
    exact member
  · exact fun member => ⟨_, member, rfl⟩

/-- A job is one row. -/
theorem jobRows_distinct (store : EngineStore) : ((jobRows store).map Prod.fst).Nodup := by
  rw [List.Nodup, List.pairwise_map]
  refine List.Pairwise.filterMap _ ?_ (List.nodupKeys_iff_pairwise.mp store.nodupKeys)
  rintro ⟨first, firstRow⟩ ⟨second, secondRow⟩ apart job found other otherFound same
  cases first <;> cases found
  cases second <;> cases otherFound
  exact apart (congrArg Key.job same)

theorem mem_attemptRows {store : EngineStore} {jobId : Uuid} {number : ℕ} {row : AttemptRow} :
    (number, row) ∈ attemptRows store jobId ↔ attemptAt store jobId number = some row := by
  refine Iff.trans ?_ (@mem_entries store (.attempt jobId number) row)
  rw [attemptRows, List.mem_filterMap]
  constructor
  · rintro ⟨⟨key, value⟩, member, same⟩
    cases key with
    | attempt id other =>
        obtain ⟨rfl, result⟩ := Option.ite_none_right_eq_some.mp same
        cases result
        exact member
    | _ => cases same
  · exact fun member => ⟨_, member, if_pos rfl⟩

/-! ## Values from outside the database -/

/-- The status of a participant data request and of its scope for a tenant. -/
structure DataRequestStatus where
  requestStatus : JsString
  scopeStatus : Option JsString

/-- The built-in adapters for notification delivery. -/
inductive Adapter where
  | disabled
  | microsoftGraph
  | smtp
  | webhook
deriving DecidableEq

def Adapter.id : Adapter → JsString
  | disabled => js "disabled"
  | microsoftGraph => js "microsoft_graph"
  | smtp => js "smtp"
  | webhook => js "webhook"

/-- What the gateway uses of a validated integration binding. -/
structure Binding where
  adapterId : Adapter
  active : Bool

/-- What one statement takes from outside the modelled rows: the clock of the
process, the clock of the database, a generated identifier, the identifier of
the row that a query comes to first, the status of a participant data request
if the job has one, the integration binding of a tenant or the code of the error
that loading it throws, and the code of the error that a call to another service
throws (empty when it has none, absent when the call succeeds). -/
structure Outside where
  clock : Time
  databaseClock : Time
  uuid : Uuid
  first : Uuid
  dataRequest : Option DataRequestStatus
  binding : Except JsString Binding
  thrown : Option JsString

end Vasi.EngineRows
