import Vasi.AtomicCommits
import Vasi.EngineRows
import Vasi.Utf8

/-!
# Participant data requests

A participant's request for their data has one scope for each tenant with
matching assignments. Each tenant reviews its scope, a worker prepares one
export from the approved scopes, another expires requests and exports, and the
participant reads the export in chunks. A request, each of its scopes and its
export are rows of their own, and a worker that joins two of them finds the row
it does not lock as it was when the query began.

The matching assignments, the data of a record and the text of a payload come
from outside. Permissions, authentication assurance, replayed commands, the
audit events and what the operations return are left out: they only refuse or
report. The status cancelled is allowed by the schema and set by nothing.
-/
namespace Vasi.DataRequests

open JsValue IsoTime ReadCommitted
open EngineRows (Uuid)
open Utf8 (Byte)

/-! ## Rows -/

inductive RequestStatus where
  | pendingReview
  | approved
  | partiallyApproved
  | preparationFailed
  | denied
  | ready
  | expired
deriving DecidableEq

inductive ScopeStatus where
  | pendingReview
  | approved
  | denied
deriving DecidableEq

/-- A participant_data_request row. -/
structure DataRequest where
  status : RequestStatus
  requestedAt : Time
  reviewCompletedAt : Option Time
  expiresAt : Time
  updatedAt : Time

/-- A participant_data_request_scope row; of the review policy it holds what differs. -/
structure Scope where
  matchedAssignmentIds : List Uuid
  status : ScopeStatus
  includeTechnicalTelemetry : Option Bool
  reviewedAt : Option Time

/-- The records of one tenant in an export. -/
structure ExportScope where
  tenantId : Uuid
  records : List (Uuid × Value)

/-- A participant_data_export row with its chunks. -/
structure DataExport where
  id : Uuid
  scopes : List ExportScope
  chunkCount : ℕ
  createdAt : Time
  expiresAt : Time
  contentDeletedAt : Option Time
  chunks : List (List Byte)

/-- The rows by what identifies them: the export of a request is unique. -/
inductive Key where
  | request (id : Uuid)
  | scope (requestId tenantId : Uuid)
  | artifact (requestId : Uuid)
deriving DecidableEq

abbrev Row : Key → Type
  | .request _ => DataRequest
  | .scope _ _ => Scope
  | .artifact _ => DataExport

abbrev DataRows := Store Row

abbrev DataChanges := Changes Row

abbrev requestAt (store : DataRows) (id : Uuid) : Option DataRequest :=
  store.lookup (Key.request id)

abbrev scopeAt (store : DataRows) (requestId tenantId : Uuid) : Option Scope :=
  store.lookup (Key.scope requestId tenantId)

abbrev exportAt (store : DataRows) (requestId : Uuid) : Option DataExport :=
  store.lookup (Key.artifact requestId)

/-- The scopes of a request with their tenants, in no order. -/
def scopesOf (store : DataRows) (requestId : Uuid) : List (Uuid × Scope) :=
  store.entries.filterMap fun
    | ⟨.scope request tenantId, row⟩ => if request = requestId then some (tenantId, row) else none
    | _ => none

/-! ## Programs -/

/-- What a statement takes from outside the rows. -/
structure Outside where
  clock : Time
  databaseClock : Time
  uuid : Uuid
  first : Uuid
  assignments : List (Uuid × Uuid)
  load : Uuid → Uuid → Bool → Option Value

/-- The settings of the store and its workers, and the encoding of a payload. -/
structure Settings where
  reviewDays : ℕ
  deliveryDays : ℕ
  maxBytes : ℕ
  chunkBytes : ℕ
  encode : Uuid → DataRequest → Time → List ExportScope → Option (List Byte)

/-- The points of the programs: the commit of a read with the chunk of an export that
it returns and the clock reading the expiry was checked against, and the rest. -/
inductive Point where
  | statement
  | commit
  | returnChunk (requestId exportId : Uuid) (now : Time) (bytes : List Byte)

inductive Outcome where
  | done
  | refused (code : JsString)
  | opened (exportId : Uuid)

abbrev Program := Transaction Row Outside Point Outcome

def require (condition : Bool) (code : JsString) : Program Unit :=
  if condition then pure () else finish (.refused code)

def clock : Program Time := fromOutside .statement Outside.clock

def randomUUID : Program Uuid := fromOutside .statement Outside.uuid

def plusDays (value : Time) (days : ℕ) : Time := value + days * 86400000

def commitDone : Program Outcome := do
  commitChanges .commit
  return .done

/-- The row of a request, locked. -/
def lockRequest (requestId : Uuid) (condition : DataRequest → Bool) : Program DataRequest :=
  query .statement fun _ view => ((requestAt view requestId).filter condition).map
    fun request => ([(.request requestId, .update)], request)

/-- A row that must be new. -/
def insertNew (key : Key) (row : Row key) : Program Unit := do
  query .statement fun _ view => if (view.lookup key).isNone then some ([], ()) else none
  stageChanges fun changes => changes.insertRow key row

/-! ## The participant's request -/

/-- The assignments of a tenant with one more. -/
def addAssignment (row : Uuid × Uuid) : List (Uuid × List Uuid) → List (Uuid × List Uuid)
  | [] => [(row.2, [row.1])]
  | (tenantId, assignmentIds) :: rest =>
      if tenantId = row.2 then (tenantId, assignmentIds ++ [row.1]) :: rest
      else (tenantId, assignmentIds) :: addAssignment row rest

/-- The assignments of each tenant, in the order in which the tenants occur. -/
def groupAssignments (rows : List (Uuid × Uuid)) : List (Uuid × List Uuid) :=
  rows.foldl (fun grouped row => addAssignment row grouped) []

def newScope (matchedAssignmentIds : List Uuid) : Scope where
  matchedAssignmentIds := matchedAssignmentIds
  status := .pendingReview
  includeTechnicalTelemetry := none
  reviewedAt := none

/-- Insert a scope for each tenant. -/
def insertScopes (requestId : Uuid) : List (Uuid × List Uuid) → Program Unit
  | [] => pure ()
  | (tenantId, assignmentIds) :: rest => do
      insertNew (.scope requestId tenantId) (newScope assignmentIds)
      insertScopes requestId rest

def newRequest (settings : Settings) (now : Time) (scopes : List (Uuid × List Uuid)) :
    DataRequest where
  status := if scopes.isEmpty then .approved else .pendingReview
  requestedAt := now
  reviewCompletedAt := none
  expiresAt := plusDays now settings.reviewDays
  updatedAt := now

def createParticipantDataRequest (settings : Settings) : Program Outcome := do
  let now ← clock
  let assignments ← fromOutside .statement Outside.assignments
  let requestId ← randomUUID
  let scopes := groupAssignments assignments
  insertNew (.request requestId) (newRequest settings now scopes)
  insertScopes requestId scopes
  commitDone

/-! ## The review -/

/-- A tenant's decision on its scope. -/
structure ReviewCommand where
  requestId : Uuid
  tenantId : Uuid
  approve : Bool
  includeTechnicalTelemetry : Bool

/-- The scope after the decision. -/
def ReviewCommand.review (command : ReviewCommand) (scope : Scope) (now : Time) : Scope :=
  { scope with
    status := if command.approve then .approved else .denied
    includeTechnicalTelemetry :=
      if command.approve then some command.includeTechnicalTelemetry else none
    reviewedAt := some now }

/-- The status that the counts of the scopes give. -/
def reviewedStatus (statuses : List ScopeStatus) : RequestStatus :=
  let pending := statuses.count .pendingReview
  let approved := statuses.count .approved
  let denied := statuses.count .denied
  if pending ≠ 0 then .pendingReview
  else if approved ≠ 0 ∧ denied ≠ 0 then .partiallyApproved
  else if approved ≠ 0 then .approved
  else .denied

/-- The statuses of the scopes of a request. -/
def statusesOf (store : DataRows) (requestId : Uuid) : List ScopeStatus :=
  (scopesOf store requestId).map fun scope => scope.2.status

/-- The request after a review that leaves its scopes with these statuses. -/
def afterReview (request : DataRequest) (statuses : List ScopeStatus) (now : Time) : DataRequest :=
  { request with
    status := reviewedStatus statuses
    reviewCompletedAt := if statuses.count .pendingReview = 0 then some now else none
    updatedAt := now }

def reviewDataRequest (command : ReviewCommand) : Program Outcome := do
  let (request, scope) ← query .statement fun _ view => do
    let request ← requestAt view command.requestId
    let scope ← scopeAt view command.requestId command.tenantId
    some ([(.scope command.requestId command.tenantId, .update),
      (.request command.requestId, .update)], (request, scope))
  require (scope.status = .pendingReview) (js "data_request_already_reviewed")
  let now ← clock
  require (now < request.expiresAt && request.status ≠ .expired) (js "data_request_expired")
  stageChanges fun changes =>
    changes.updateRow (.scope command.requestId command.tenantId) (command.review scope now)
  let statuses ← readRows .statement fun _ view => statusesOf view command.requestId
  stageChanges fun changes =>
    changes.updateRow (.request command.requestId) (afterReview request statuses now)
  commitDone

/-! ## The preparation -/

/-- The records of a scope; a record that is not there is refused. -/
def exportScope (load : Uuid → Uuid → Bool → Option Value) (scope : Uuid × Scope) :
    Option ExportScope := do
  let assignmentIds := scope.2.matchedAssignmentIds.insertionSort
    fun left right => left.toNat ≤ right.toNat
  let records ← assignmentIds.mapM fun assignmentId =>
    (load scope.1 assignmentId (scope.2.includeTechnicalTelemetry ≠ some false)).map
      (assignmentId, ·)
  return ⟨scope.1, records⟩

/-- The records of the approved scopes, tenant by tenant. -/
def buildParticipantDataExport (scopes : List (Uuid × Scope))
    (load : Uuid → Uuid → Bool → Option Value) : Option (List ExportScope) :=
  ((scopes.filter fun scope => scope.2.status = .approved).insertionSort
    fun left right => left.1.toNat ≤ right.1.toNat).mapM (exportScope load)

/-- The export that is stored, with its bytes in chunks. -/
def persistedExport (settings : Settings) (request : DataRequest) (scopes : List ExportScope)
    (bytes : List Byte) (now : Time) (id : Uuid) : DataExport where
  id := id
  scopes := scopes
  chunkCount := (bytes.toChunks settings.chunkBytes).length
  createdAt := now
  expiresAt := min (plusDays now settings.deliveryDays) request.expiresAt
  contentDeletedAt := none
  chunks := bytes.toChunks settings.chunkBytes

/-- The export of a request is stored once, and expires after it was made. -/
def persistParticipantDataExport (settings : Settings) (requestId : Uuid) (request : DataRequest)
    (scopes : List ExportScope) (bytes : List Byte) (now : Time) : Program Unit := do
  let id ← randomUUID
  let artifact := persistedExport settings request scopes bytes now id
  require (artifact.createdAt < artifact.expiresAt) (js "check_violation")
  insertNew (.artifact requestId) artifact

/-- The export of an approved request, or the failure to prepare it. The query
finds no export for the request it selects, and checks the locked row again. -/
def prepareOne (settings : Settings) : Program Outcome := do
  let now ← clock
  let requestId ← query .statement fun input view =>
    if (exportAt view input.first).isNone then some ([], input.first) else none
  let request ← lockRequest requestId fun request =>
    (request.status = .approved || request.status = .partiallyApproved) && now < request.expiresAt
  let scopes ← readRows .statement fun _ view => scopesOf view requestId
  let load ← fromOutside .statement Outside.load
  match buildParticipantDataExport scopes load with
  | none => finish (.refused (js "not_found"))
  | some exported =>
      match settings.encode requestId request now exported with
      | none => finish (.refused (js "canonical_json"))
      | some bytes =>
          if bytes = [] ∨ settings.maxBytes < bytes.length then do
            stageChanges fun changes => changes.updateRow (.request requestId)
              { request with status := .preparationFailed, updatedAt := now }
            commitDone
          else do
            persistParticipantDataExport settings requestId request exported bytes now
            stageChanges fun changes => changes.updateRow (.request requestId)
              { request with status := .ready, updatedAt := now }
            commitDone

/-! ## The expiry -/

/-- A request that is expired. -/
def expire (request : DataRequest) (now : Time) : DataRequest :=
  { request with status := .expired, updatedAt := now }

/-- An export whose content is deleted. -/
def deleteContent (artifact : DataExport) (now : Time) : DataExport :=
  { artifact with contentDeletedAt := some now, chunks := [] }

/-- The content of an expired export is deleted, and its request expires. -/
def expireParticipantDataExport (requestId : Uuid) (request : DataRequest) :
    Program Outcome := do
  let (artifact, now) ← query .statement fun input view => (exportAt view requestId).map
    fun artifact => ([(.artifact requestId, .update)], (artifact, input.databaseClock))
  if artifact.contentDeletedAt.isSome then commitDone
  else do
    require (artifact.expiresAt ≤ now) (js "participant data export is not expired")
    stageChanges fun changes =>
      (changes.updateRow (.artifact requestId) (deleteContent artifact now)).updateRow
        (.request requestId) (expire request now)
    commitDone

/-- A request or its export is expired. The export is the one that the query found
when it began; the locked request is checked again. -/
def expireOneParticipantDataRequest : Program Outcome := do
  let now ← clock
  let (requestId, artifact) ← readRows .statement fun input view =>
    (input.first, exportAt view input.first)
  let request ← lockRequest requestId fun request =>
    request.status ≠ .expired && (artifact.elim request.expiresAt DataExport.expiresAt) ≤ now
  if artifact.any fun artifact => artifact.contentDeletedAt.isNone then
    expireParticipantDataExport requestId request
  else do
    stageChanges fun changes => changes.updateRow (.request requestId) (expire request now)
    commitDone

/-! ## The export reads -/

/-- Why a request has no export to open. -/
def dataRequestExportable (request : DataRequest) (now : Time) : Except JsString Unit :=
  if request.status = .expired ∨ request.expiresAt ≤ now then .error (js "data_request_expired")
  else match request.status with
    | .pendingReview => .error (js "data_request_review_pending")
    | .denied => .error (js "data_request_denied")
    | .approved | .partiallyApproved => .error (js "participant_data_export_preparing")
    | .preparationFailed => .error (js "participant_data_export_preparation_failed")
    | .ready | .expired => .ok ()

def openParticipantDataExport (requestId : Uuid) : Program Outcome := do
  let now ← clock
  let request ← lockRequest requestId fun _ => true
  match dataRequestExportable request now with
  | .error code => finish (.refused code)
  | .ok () => do
      let artifact ← readRows .statement fun _ view => exportAt view requestId
      match artifact with
      | none => finish (.refused (js "participant_data_export_unavailable"))
      | some artifact => do
          require (artifact.contentDeletedAt.isNone && now < artifact.expiresAt)
            (js "participant_data_export_expired")
          commitChanges .commit
          return .opened artifact.id

/-- A command to read a chunk of an export. -/
structure ChunkCommand where
  requestId : Uuid
  exportId : Uuid
  sequence : ℕ

def readParticipantDataExportChunk (command : ChunkCommand) : Program Outcome := do
  let now ← clock
  let found ← readRows .statement fun _ view => (requestAt view command.requestId).isSome
  require found (js "not_found")
  let artifact ← readRows .statement fun _ view =>
    (exportAt view command.requestId).filter fun artifact => artifact.id = command.exportId
  match artifact with
  | none => finish (.refused (js "not_found"))
  | some artifact => do
      require (artifact.contentDeletedAt.isNone && now < artifact.expiresAt)
        (js "participant_data_export_expired")
      require (command.sequence < artifact.chunkCount) (js "not_found")
      let chunk ← readRows .statement fun _ view =>
        (exportAt view command.requestId).bind fun artifact => artifact.chunks[command.sequence]?
      match chunk with
      | none => finish (.refused (js "not_found"))
      | some bytes => do
          commitChanges (.returnChunk command.requestId command.exportId now bytes)
          return .done

inductive Operation where
  | createParticipantDataRequest
  | reviewDataRequest (command : ReviewCommand)
  | prepareOne
  | expireOneParticipantDataRequest
  | openParticipantDataExport (requestId : Uuid)
  | readParticipantDataExportChunk (command : ChunkCommand)

/-- The program of an operation. -/
def program (settings : Settings) : Operation → Program Outcome
  | .createParticipantDataRequest => createParticipantDataRequest settings
  | .reviewDataRequest command => reviewDataRequest command
  | .prepareOne => prepareOne settings
  | .expireOneParticipantDataRequest => expireOneParticipantDataRequest
  | .openParticipantDataExport requestId => openParticipantDataExport requestId
  | .readParticipantDataExportChunk command => readParticipantDataExportChunk command

def start (settings : Settings) (operation : Operation) :
    Script Row Outside Point Outcome := (program settings operation).script

abbrev DataState := State Row Outside Point Outcome

end Vasi.DataRequests
