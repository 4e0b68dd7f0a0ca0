import Vasi.TenantStore
import Vasi.Utf8

/-!
# Document artifacts

The upload of a document in chunks, its inspection and its publication. The
engine holds the row of an artifact for update while it reads the chunks,
waits for the malware scanner and decides. The integration gateway, which sends
the chunks to the scanner meanwhile, reads the committed rows as every statement
does, so its statements stand where the engine waits for it; it writes only the
attempts it records, and those are left out.

Commands are validated and their data decoded. The digest, the built-in
inspection of a document, the limits, the binding the gateway loads and the
replies of gateway and scanner are the platform's or come from outside.
-/
namespace Vasi.Artifacts

open JsValue IsoTime ReadCommitted
open EngineRows (Uuid)
open TenantStore (ActiveStatus Actor Membership Permission ProfilePointer hasTenantPermission)
open Utf8 (Byte)

/-! ## Rows -/

inductive ArtifactStatus where
  | quarantined
  | published
  | rejected
deriving DecidableEq

inductive InspectionStatus where
  | pending
  | passed
  | rejected
deriving DecidableEq

inductive Verdict where
  | clean
  | malicious
  | suspicious
deriving DecidableEq

/-- How an external scan ended. -/
inductive ScanOutcome where
  | completed (verdict : Verdict)
  | failed (errorCode : JsString)

/-- What the engine learns of an external scan. -/
structure ExternalScan where
  adapter : JsString
  adapterVersion : JsString
  outcome : ScanOutcome

/-- The result of the built-in inspection; it passes without a rejection code. -/
structure Inspection where
  adapter : JsString
  adapterVersion : JsString
  rejectionCode : Option JsString

inductive InspectionResult where
  | builtIn (inspection : Inspection)
  | refused (adapter rejectionCode : JsString)
  | pipeline (builtIn : Inspection) (external : ExternalScan) (rejectionCode : Option JsString)

def InspectionResult.rejectionCode : InspectionResult → Option JsString
  | builtIn inspection => inspection.rejectionCode
  | refused _ code => some code
  | pipeline _ _ code => code

/-- A document_artifact row. -/
structure DocumentArtifact where
  tenantId : Uuid
  familyId : Uuid
  revision : ℕ
  role : JsString
  status : ArtifactStatus
  originalFilename : JsString
  mediaType : JsString
  expectedByteLength : ℕ
  byteLength : Option ℕ
  chunkCount : Option ℕ
  sha256 : Option JsString
  sourceArtifactId : Option Uuid
  replacesArtifactId : Option Uuid
  inspectionStatus : InspectionStatus
  inspectionProfile : Option JsString
  inspectionResult : Option InspectionResult
  retentionPolicy : JsString
  createdByPrincipalId : JsString
  createdAt : Time
  publishedAt : Option Time
  rejectedAt : Option Time

/-- A document_artifact_chunk row with the checks of its table. -/
structure ArtifactChunk where
  byteLength : ℕ
  sha256 : JsString
  bytes : List Byte
  measured : byteLength = bytes.length
  nonempty : 0 < byteLength

/-- A tenant's pointer to its malware scanner with the revision it names. -/
structure ScannerBinding where
  adapterId : JsString
  adapterVersion : JsString
  status : ActiveStatus

inductive Key where
  | artifact (id : Uuid)
  | chunk (artifactId : Uuid) (sequence : ℕ)
  | membership (tenantId : Uuid) (principalId : JsString)
  | profile (tenantId : Uuid)
  | scanner (tenantId : Uuid)
deriving DecidableEq

abbrev Row : Key → Type
  | .artifact _ => DocumentArtifact
  | .chunk _ _ => ArtifactChunk
  | .membership _ _ => Membership
  | .profile _ => ProfilePointer
  | .scanner _ => ScannerBinding

abbrev ArtifactRows := Store Row

abbrev ArtifactChanges := Changes Row

abbrev artifactAt (store : ArtifactRows) (id : Uuid) : Option DocumentArtifact :=
  store.lookup (Key.artifact id)

abbrev chunkAt (store : ArtifactRows) (artifactId : Uuid) (sequence : ℕ) : Option ArtifactChunk :=
  store.lookup (Key.chunk artifactId sequence)

/-- The chunks of an artifact with their sequence numbers, in no order. -/
def chunksOf (store : ArtifactRows) (artifactId : Uuid) : List (ℕ × ArtifactChunk) :=
  store.entries.filterMap fun
    | ⟨.chunk artifact sequence, row⟩ =>
        if artifact = artifactId then some (sequence, row) else none
    | _ => none

/-- The expected bytes of a tenant's artifacts. -/
def artifactBytes (tenantId : Uuid) : Sigma Row → ℕ
  | ⟨.artifact _, row⟩ => if row.tenantId = tenantId then row.expectedByteLength else 0
  | _ => 0

/-- The revisions of a tenant's family of artifacts. -/
def familyRevisions (store : ArtifactRows) (tenantId familyId : Uuid) : List ℕ :=
  store.entries.filterMap fun
    | ⟨.artifact _, row⟩ =>
        if row.tenantId = tenantId ∧ row.familyId = familyId then some row.revision else none
    | _ => none

/-! ## Statements -/

/-- The binding that the gateway loads. -/
structure GatewayBinding where
  adapterId : JsString
  adapterVersion : JsString
  active : Bool

structure VerdictBody where
  schema : JsString
  scannedSha256 : JsString
  verdict : JsString

/-- The scanner's response; a body that is no object of the known members is absent. -/
structure ScannerResponse where
  statusCode : ℕ
  jsonContent : Bool
  body : Option VerdictBody

/-- What a statement takes from outside the rows. The gateway's failure is what
the engine's client makes of it. -/
structure Outside where
  clock : Time
  uuid : Uuid
  gatewayFailure : Option JsString
  binding : Except JsString GatewayBinding
  response : Except JsString ScannerResponse

/-- The bytes that went to the scanner, and its response. -/
structure ScanExchange where
  streamed : List Byte
  response : ScannerResponse

/-- The transactions, with what identifies them: a publication carries the scanner
binding that was seen and the exchange with the scanner. -/
inductive TransactionName where
  | createArtifact
  | appendChunk
  | publishArtifact (binding : Option ScannerBinding) (exchange : Option ScanExchange)
  | pendingArtifact
  | rejectArtifact
  | changeTenant

inductive Point where
  | statement
  | commit (transaction : TransactionName)

inductive Outcome where
  | artifact (id : Uuid) (row : DocumentArtifact)
  | chunk (artifactId : Uuid) (sequence byteLength : ℕ) (sha256 : JsString)
  | refused (code : JsString)
  | rejected (code : JsString)
  | changed

abbrev Program := Transaction Row Outside Point Outcome

/-- The digest, the built-in inspection of chunks of a media type, and documentLimits. -/
structure Platform where
  sha256 : List Byte → JsString
  inspect : JsString → List (List Byte) → Inspection
  chunkBytes : ℕ
  maxChunks : ℕ

variable (platform : Platform)

def notFound : Outcome := .refused (js "not_found")

def require (condition : Bool) (code : JsString) : Program Unit :=
  if condition then pure () else finish (.refused code)

def requireArtifactPermission (actor : Actor) (tenantId : Uuid) : Program Unit := do
  let permitted ← readRows .statement fun input view =>
    (view.lookup (Key.membership tenantId actor.principalId)).any fun row =>
      row.valid input.clock && hasTenantPermission row.roles .artifactManage
  require permitted (js "forbidden")

/-- The artifact of a tenant, locked for update. -/
def lockArtifact (tenantId artifactId : Uuid) : Program DocumentArtifact := do
  let found ← query .statement fun _ view =>
    match artifactAt view artifactId with
    | some row =>
        if row.tenantId = tenantId then some ([(.artifact artifactId, .update)], some row)
        else some ([], none)
    | none => some ([], none)
  match found with
  | some row => return row
  | none => finish notFound

/-- Update the artifact; the guard of its table refuses one that is not quarantined. -/
def updateArtifact (artifactId : Uuid) (change : Outside → DocumentArtifact → DocumentArtifact) :
    Program DocumentArtifact := do
  let changed ← query .statement fun input view =>
    match artifactAt view artifactId with
    | some row =>
        if row.status = .quarantined then
          some ([(.artifact artifactId, .update)], change input row)
        else none
    | none => none
  stageChanges fun changes => changes.updateRow (.artifact artifactId) changed
  return changed

/-- Insert the chunk; the guard of its table wants a quarantined artifact. -/
def insertChunk (artifactId : Uuid) (sequence : ℕ) (chunk : ArtifactChunk) : Program Unit := do
  query .statement fun _ view =>
    if (artifactAt view artifactId).any fun row => row.status = .quarantined then some ([], ())
    else none
  stageChanges fun changes => changes.insertRow (.chunk artifactId sequence) chunk

/-! ## Creation and upload -/

/-- A validated artifact command. -/
structure ArtifactInput where
  tenantId : Uuid
  expectedByteLength : ℕ
  mediaType : JsString
  originalFilename : JsString
  role : JsString
  retentionPolicy : JsString
  replacesArtifactId : Option Uuid
  sourceArtifactId : Option Uuid

/-- A validated chunk command. -/
structure ChunkInput where
  tenantId : Uuid
  artifactId : Uuid
  sequence : ℕ
  bytes : List Byte

/-- A validated reference to an artifact. -/
structure ArtifactReference where
  tenantId : Uuid
  artifactId : Uuid

def randomUUID : Program Uuid := fromOutside .statement Outside.uuid

def assertArtifactCapacity (tenantId : Uuid) (expectedByteLength : ℕ) : Program Unit := do
  let profile ← query .statement fun _ view =>
    (view.lookup (Key.profile tenantId)).map fun row => ([(.profile tenantId, .update)], row)
  require (expectedByteLength ≤ profile.quotas.maxArtifactBytesPerArtifact)
    (js "tenant_quota_artifact_size_exceeded")
  let used ← readRows .statement fun _ view => total (artifactBytes tenantId) view
  require (used + expectedByteLength ≤ profile.quotas.maxArtifactBytes)
    (js "tenant_quota_artifactBytes_exceeded")

def publishedArtifact (tenantId artifactId : Uuid) : Program DocumentArtifact := do
  let found ← readRows .statement fun _ view =>
    (artifactAt view artifactId).filter fun row =>
      row.tenantId = tenantId && row.status = .published
  match found with
  | some row => return row
  | none => finish notFound

/-- The family of a new artifact and its revision in it. -/
def familyOf (input : ArtifactInput) : Program (Uuid × ℕ) := do
  let familyId ← randomUUID
  match input.replacesArtifactId with
  | none => return (familyId, 1)
  | some replacedId =>
      let replaced ← publishedArtifact input.tenantId replacedId
      let revision ← readRows .statement fun _ view =>
        (familyRevisions view input.tenantId replaced.familyId).foldr max 0 + 1
      return (replaced.familyId, revision)

/-- The source of an artifact, if it has one, is published. -/
def checkSource (input : ArtifactInput) : Program Unit :=
  match input.sourceArtifactId with
  | none => pure ()
  | some sourceId => do
      let _source ← publishedArtifact input.tenantId sourceId
      return ()

/-- Insert the artifact of a command. -/
def insertArtifact (actor : Actor) (input : ArtifactInput) (family : Uuid × ℕ) :
    Program Outcome := do
  let artifactId ← randomUUID
  let createdAt ← fromOutside .statement Outside.clock
  let row : DocumentArtifact :=
    { tenantId := input.tenantId, familyId := family.1, revision := family.2, role := input.role
      status := .quarantined, originalFilename := input.originalFilename
      mediaType := input.mediaType, expectedByteLength := input.expectedByteLength
      byteLength := none, chunkCount := none, sha256 := none
      sourceArtifactId := input.sourceArtifactId, replacesArtifactId := input.replacesArtifactId
      inspectionStatus := .pending, inspectionProfile := none, inspectionResult := none
      retentionPolicy := input.retentionPolicy, createdByPrincipalId := actor.principalId
      createdAt, publishedAt := none, rejectedAt := none }
  stageChanges fun changes => changes.insertRow (.artifact artifactId) row
  commitChanges (.commit .createArtifact)
  return .artifact artifactId row

def createArtifact (actor : Actor) (input : ArtifactInput) : Program Outcome := do
  requireArtifactPermission actor input.tenantId
  assertArtifactCapacity input.tenantId input.expectedByteLength
  let family ← familyOf input
  checkSource input
  insertArtifact actor input family

def appendChunk (actor : Actor) (input : ChunkInput) : Program Outcome :=
  if refused : input.bytes.length = 0 ∨ platform.chunkBytes < input.bytes.length then
    finish (.refused (js "artifact_chunk_too_large"))
  else do
    requireArtifactPermission actor input.tenantId
    let artifact ← lockArtifact input.tenantId input.artifactId
    require (artifact.status = .quarantined) (js "artifact_finalized")
    let progress ← readRows .statement fun _ view =>
      let chunks := chunksOf view input.artifactId
      (chunks.length, (chunks.map fun found => found.2.byteLength).sum)
    require (input.sequence = progress.1) (js "artifact_chunk_sequence_conflict")
    require (progress.2 + input.bytes.length ≤ artifact.expectedByteLength)
      (js "artifact_length_exceeded")
    let sha256 := platform.sha256 input.bytes
    insertChunk input.artifactId input.sequence
      ⟨input.bytes.length, sha256, input.bytes, rfl, by omega⟩
    commitChanges (.commit .appendChunk)
    return .chunk input.artifactId input.sequence input.bytes.length sha256

/-! ## The scan -/

/-- The command of the engine's client. -/
structure ScanCommand where
  artifactId : Uuid
  byteLength : ℕ
  mediaType : JsString
  sha256 : JsString
  tenantId : Uuid

/-- The digest and the length of a chunk are those of its bytes. -/
def intact (chunk : ArtifactChunk) : Bool :=
  platform.sha256 chunk.bytes = chunk.sha256 && chunk.bytes.length = chunk.byteLength

/-- A chunk at a sequence number or later. -/
def extraChunk (artifactId : Uuid) (sequence : ℕ) : Program Bool :=
  readRows .statement fun _ view =>
    (chunksOf view artifactId).any fun found => sequence ≤ found.1

/-- The loop of streamArtifactChunks; none when a chunk is missing or not as recorded. -/
def streamChunks (command : ScanCommand) (sequence : ℕ) (streamed : List Byte) :
    Program (Option (ℕ × List Byte)) :=
  if _short : streamed.length < command.byteLength then do
    let found ← readRows .statement fun _ view => chunkAt view command.artifactId sequence
    match found with
    | none => return none
    | some chunk =>
        if intact platform chunk ∧ streamed.length + chunk.bytes.length ≤ command.byteLength then
          streamChunks command (sequence + 1) (streamed ++ chunk.bytes)
        else return none
  else return some (sequence, streamed)
termination_by command.byteLength - streamed.length
decreasing_by
  have measured := chunk.measured
  have nonempty := chunk.nonempty
  rw [List.length_append]
  omega

def streamArtifactChunks (command : ScanCommand) : Program (Option (List Byte)) := do
  let sent ← streamChunks platform command 0 []
  match sent with
  | none => return none
  | some (sequence, streamed) =>
      let extra ← extraChunk command.artifactId sequence
      return if extra || platform.sha256 streamed ≠ command.sha256 then none else some streamed

def SCAN_VERDICT_SCHEMA : JsString := js "vasi-malware-scan-verdict/v1"

def readVerdict (verdict : JsString) : Option Verdict :=
  if verdict = js "clean" then some .clean
  else if verdict = js "malicious" then some .malicious
  else if verdict = js "suspicious" then some .suspicious
  else none

def validateScannerResponse (response : ScannerResponse) (expectedSha256 : JsString) :
    Except JsString Verdict :=
  if response.statusCode ≠ 200 then .error (js "scanner_status")
  else if ¬ response.jsonContent then .error (js "scanner_content_type")
  else match response.body with
    | none => .error (js "scanner_invalid_response")
    | some body =>
        if body.schema ≠ SCAN_VERDICT_SCHEMA ∨ body.scannedSha256 ≠ expectedSha256 then
          .error (js "scanner_invalid_response")
        else (readVerdict body.verdict).elim (.error (js "scanner_invalid_response")) .ok

/-- What came of a scan, and what was exchanged with the scanner. -/
structure ScanReport where
  result : Except JsString ExternalScan
  exchange : Option ScanExchange

def scanArtifactWithHTTPS (binding : GatewayBinding) (command : ScanCommand) :
    Program (Except JsString Verdict × Option ScanExchange) :=
  if ¬ binding.active ∨ binding.adapterId ≠ js "https_malware_scanner" then
    return (.error (js "scanner_binding_inactive"), none)
  else do
    let sent ← streamArtifactChunks platform command
    match sent with
    | none => return (.error (js "artifact_scan_source_integrity_failure"), none)
    | some streamed =>
        let replied ← fromOutside .statement Outside.response
        match replied with
        | .error code => return (.error code, none)
        | .ok response =>
            return (validateScannerResponse response command.sha256, some ⟨streamed, response⟩)

/-- A code of at most 64 lower-case letters, digits and underscores. -/
def isErrorCode (code : JsString) : Bool :=
  0 < code.length && code.length ≤ 64 && code.all fun unit =>
    (97 ≤ unit.val && unit.val ≤ 122) || (48 ≤ unit.val && unit.val ≤ 57) || unit.val = 95

def boundedErrorCode (code fallback : JsString) : JsString :=
  if isErrorCode code then code else fallback

def failedScan (binding : GatewayBinding) (code : JsString) : ExternalScan :=
  ⟨binding.adapterId, binding.adapterVersion,
    .failed (boundedErrorCode code (js "scan_failed"))⟩

def unavailableBinding : GatewayBinding := ⟨js "unavailable", js "0", false⟩

/-- The gateway's scan of an artifact. -/
def scan (command : ScanCommand) : Program ScanReport := do
  let found ← readRows .statement fun _ view =>
    (artifactAt view command.artifactId).filter fun row => row.tenantId = command.tenantId
  match found with
  | none => return ⟨.error (js "integration_gateway_rejected"), none⟩
  | some source =>
      let loaded ← fromOutside .statement Outside.binding
      let binding := loaded.toOption.getD unavailableBinding
      if source.status ≠ .quarantined ∨ source.mediaType ≠ command.mediaType ∨
          source.expectedByteLength ≠ command.byteLength then
        return ⟨.ok (failedScan binding (js "artifact_scan_source_mismatch")), none⟩
      else match loaded with
        | .error code => return ⟨.ok (failedScan binding code), none⟩
        | .ok known =>
            let scanned ← scanArtifactWithHTTPS platform known command
            match scanned.1 with
            | .error code => return ⟨.ok (failedScan known code), scanned.2⟩
            | .ok verdict =>
                return ⟨.ok ⟨known.adapterId, known.adapterVersion, .completed verdict⟩, scanned.2⟩

/-- The engine's client of the gateway, which may not hear of the scan. -/
def scanArtifact (command : ScanCommand) : Program ScanReport := do
  let report ← scan platform command
  let failure ← fromOutside .statement Outside.gatewayFailure
  match failure with
  | some code => return ⟨.error code, report.exchange⟩
  | none => return report

/-! ## Finalization -/

/-- A profile text: adapter and version. -/
def profileText (adapter adapterVersion : JsString) : JsString :=
  adapter ++ js "/" ++ adapterVersion

def rejectArtifact (artifactId : Uuid) (profile : JsString) (result : InspectionResult) :
    Program DocumentArtifact := do
  let row ← updateArtifact artifactId fun input row =>
    { row with status := .rejected, inspectionStatus := .rejected
               inspectionProfile := some profile, inspectionResult := some result
               rejectedAt := some input.clock }
  commitChanges (.commit .rejectArtifact)
  return row

/-- Reject on the finding of an adapter of the engine. -/
def refuseArtifact (artifactId : Uuid) (adapter code : JsString) : Program DocumentArtifact :=
  rejectArtifact artifactId (profileText adapter (js "1")) (.refused adapter code)

def BOUNDED_INSPECTOR : JsString := js "vasi-bounded-document-inspector"

/-- The loop of finalizeArtifact over the chunks; none when one is not as recorded. -/
def readChunks (artifactId : Uuid) : ℕ → List ArtifactChunk → Program (Option (List ArtifactChunk))
  | 0, read => return some read
  | remaining + 1, read => do
      let found ← readRows .statement fun _ view => chunkAt view artifactId read.length
      match found with
      | none => return some read
      | some chunk =>
          if intact platform chunk then readChunks artifactId remaining (read ++ [chunk])
          else return none

/-- The active binding of a tenant's malware scanner. -/
def activeExternalScanBinding (tenantId : Uuid) : Program (Option ScannerBinding) :=
  readRows .statement fun _ view =>
    (view.lookup (Key.scanner tenantId)).filter fun row => row.status = .active

/-- The scan as it is recorded; without the gateway's answer it has failed. -/
def recordedScan (binding : ScannerBinding) : Except JsString ExternalScan → ExternalScan
  | .ok external => external
  | .error code => ⟨binding.adapterId, binding.adapterVersion,
      .failed (boundedErrorCode code (js "integration_gateway_unavailable"))⟩

/-- The chunks that finalizeArtifact has read are published. -/
def publishArtifact (artifactId : Uuid) (chunks : List ArtifactChunk) (profile : JsString)
    (result : InspectionResult) (binding : Option ScannerBinding)
    (exchange : Option ScanExchange) : Program Outcome := do
  let bytes := chunks.flatMap ArtifactChunk.bytes
  let row ← updateArtifact artifactId fun input row =>
    { row with status := .published, byteLength := some bytes.length
               chunkCount := some chunks.length, sha256 := some (platform.sha256 bytes)
               inspectionStatus := .passed, inspectionProfile := some profile
               inspectionResult := some result, publishedAt := some input.clock }
  commitChanges (.commit (.publishArtifact binding exchange))
  return .artifact artifactId row

/-- The decision on an artifact that has passed the built-in inspection. -/
def decideArtifact (artifactId : Uuid) (artifact : DocumentArtifact) (chunks : List ArtifactChunk)
    (inspection : Inspection) : Program Outcome := do
  let bytes := chunks.flatMap ArtifactChunk.bytes
  let builtIn := profileText inspection.adapter inspection.adapterVersion
  let externalBinding ← activeExternalScanBinding artifact.tenantId
  match externalBinding with
  | none => publishArtifact platform artifactId chunks builtIn (.builtIn inspection) none none
  | some binding =>
      let report ← scanArtifact platform
        { artifactId, byteLength := bytes.length, mediaType := artifact.mediaType
          sha256 := platform.sha256 bytes, tenantId := artifact.tenantId }
      let external := recordedScan binding report.result
      match external.outcome with
      | .failed _ =>
          let row ← updateArtifact artifactId fun _ row =>
            { row with
              inspectionProfile := some (builtIn ++ js "+" ++
                profileText binding.adapterId binding.adapterVersion)
              inspectionResult := some (.pipeline inspection external none) }
          commitChanges (.commit .pendingArtifact)
          return .artifact artifactId row
      | .completed verdict =>
          let profile := builtIn ++ js "+" ++ profileText external.adapter external.adapterVersion
          if verdict ≠ .clean then
            let code := if verdict = .malicious then js "external_malware_detected"
              else js "external_scan_suspicious"
            let _row ← rejectArtifact artifactId profile
              (.pipeline inspection external (some code))
            return .rejected code
          else
            publishArtifact platform artifactId chunks profile
              (.pipeline inspection external none) externalBinding report.exchange

/-- The finalization of an artifact that is quarantined. -/
def inspectArtifact (artifactId : Uuid) (artifact : DocumentArtifact) : Program Outcome := do
  let read ← readChunks platform artifactId platform.maxChunks []
  match read with
  | none =>
      let code := js "artifact_chunk_integrity_failure"
      let _row ← refuseArtifact artifactId BOUNDED_INSPECTOR code
      return .rejected code
  | some chunks =>
      let extra ← extraChunk artifactId platform.maxChunks
      if extra ∨ chunks.isEmpty ∨
          (chunks.flatMap ArtifactChunk.bytes).length ≠ artifact.expectedByteLength then
        let code := js "artifact_length_mismatch"
        let _row ← refuseArtifact artifactId BOUNDED_INSPECTOR code
        return .rejected code
      else
        let inspection := platform.inspect artifact.mediaType (chunks.map ArtifactChunk.bytes)
        match inspection.rejectionCode with
        | some code =>
            let _row ← rejectArtifact artifactId
              (profileText inspection.adapter inspection.adapterVersion) (.builtIn inspection)
            return .rejected code
        | none => decideArtifact platform artifactId artifact chunks inspection

def finalizeArtifact (actor : Actor) (input : ArtifactReference) : Program Outcome := do
  requireArtifactPermission actor input.tenantId
  let artifact ← lockArtifact input.tenantId input.artifactId
  match artifact.status with
  | .published => return .artifact input.artifactId artifact
  | .rejected =>
      return .rejected ((artifact.inspectionResult.bind InspectionResult.rejectionCode).getD
        (js "artifact_rejected"))
  | .quarantined => inspectArtifact platform input.artifactId artifact

def abortArtifact (actor : Actor) (input : ArtifactReference) : Program Outcome := do
  requireArtifactPermission actor input.tenantId
  let artifact ← lockArtifact input.tenantId input.artifactId
  if artifact.status = .quarantined then
    let rejected ← refuseArtifact input.artifactId (js "gateway-upload") (js "upload_aborted")
    return .artifact input.artifactId rejected
  else return .artifact input.artifactId artifact

/-! ## Calls -/

/-- A change of one of a tenant's other rows, made by any other part of the system. -/
inductive TenantChange where
  | membership (tenantId : Uuid) (principalId : JsString) (row : Membership)
  | profile (tenantId : Uuid) (row : ProfilePointer)
  | scanner (tenantId : Uuid) (row : ScannerBinding)

def TenantChange.entry : TenantChange → Sigma Row
  | membership tenantId principalId row => ⟨.membership tenantId principalId, row⟩
  | profile tenantId row => ⟨.profile tenantId, row⟩
  | scanner tenantId row => ⟨.scanner tenantId, row⟩

def changeTenant (change : TenantChange) : Program Outcome := do
  let there ← query .statement fun _ view =>
    let found := (view.lookup change.entry.1).isSome
    some (if found then [(change.entry.1, .update)] else [], found)
  stageChanges fun changes =>
    if there then changes.updateRow change.entry.1 change.entry.2
    else changes.insertRow change.entry.1 change.entry.2
  commitChanges (.commit .changeTenant)
  return .changed

inductive Call where
  | createArtifact (actor : Actor) (input : ArtifactInput)
  | appendChunk (actor : Actor) (input : ChunkInput)
  | finalizeArtifact (actor : Actor) (input : ArtifactReference)
  | abortArtifact (actor : Actor) (input : ArtifactReference)
  | changeTenant (change : TenantChange)

def start : Call → Script Row Outside Point Outcome
  | .createArtifact actor input => (createArtifact actor input).script
  | .appendChunk actor input => (appendChunk platform actor input).script
  | .finalizeArtifact actor input => (finalizeArtifact platform actor input).script
  | .abortArtifact actor input => (abortArtifact actor input).script
  | .changeTenant change => (changeTenant change).script

end Vasi.Artifacts
