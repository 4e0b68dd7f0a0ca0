import Vasi.JsonStringify
import Mathlib.Data.List.Lex
import Mathlib.Order.Defs.LinearOrder

/-!
# Tenant archives

The tenant transfer script: a table is read page by page in its declared order,
each row becomes one line of JSON, and the lines are encrypted as one stream.
The reader decrypts the file, splits the text where readline does, and counts
the rows; the import inserts all tables in one transaction.

The platform supplies the cipher, the digest, the credential envelopes and what
the destination's constraints accept. A file that does not decrypt yields no
row here, since the caller keeps none of the rows read before the failure.
-/
namespace Vasi.TenantTransfer

open JsValue JsonText

abbrev Byte := Utf8.Byte

/-- One exported table: the columns its query fixes, the columns it orders by,
and a primary key or unique constraint of the table. -/
structure Specification where
  table : String
  scope : List String
  order : List String
  key : List String
deriving DecidableEq

def TABLES : List Specification :=
  [⟨"tenant", ["id"], ["id"], ["id"]⟩,
   ⟨"tenant_profile_revision", ["tenantId"], ["revision"], ["tenantId", "revision"]⟩,
   ⟨"tenant_profile_pointer", ["tenantId"], ["tenantId"], ["tenantId"]⟩,
   ⟨"tenant_admission_revision", ["tenantId"], ["revision"], ["tenantId", "revision"]⟩,
   ⟨"tenant_admission_pointer", ["tenantId"], ["tenantId"], ["tenantId"]⟩,
   ⟨"tenant_membership", ["tenantId"], ["principalId"], ["tenantId", "principalId"]⟩,
   ⟨"tenant_membership_grant", ["tenantId"], ["createdAt", "id"], ["id"]⟩,
   ⟨"retention_policy_revision", ["tenantId"], ["name", "revision"],
     ["tenantId", "name", "revision"]⟩,
   ⟨"retention_policy_pointer", ["tenantId"], ["name"], ["tenantId", "name"]⟩,
   ⟨"workflow_definition", ["tenantId"], ["createdAt", "id"], ["id"]⟩,
   ⟨"workflow_draft", ["tenantId"], ["definitionId"], ["definitionId"]⟩,
   ⟨"workflow_revision", ["tenantId"], ["publishedAt", "revision", "id"], ["id"]⟩,
   ⟨"document_artifact", ["tenantId"], ["createdAt", "revision", "id"], ["id"]⟩,
   ⟨"document_artifact_chunk", [], ["artifactId", "sequence"], ["artifactId", "sequence"]⟩,
   ⟨"workflow_artifact_binding", ["tenantId"], ["workflowRevisionId", "activityId", "artifactId"],
     ["workflowRevisionId", "activityId", "artifactId"]⟩,
   ⟨"external_media_descriptor", ["tenantId"], ["boundAt", "id"], ["id"]⟩,
   ⟨"request_instance", ["tenantId"], ["issuedAt", "id"], ["id"]⟩,
   ⟨"participant_assignment", ["tenantId"], ["issuedAt", "id"], ["id"]⟩,
   ⟨"interaction_session", [], ["startedAt", "id"], ["id"]⟩,
   ⟨"activity_instance", ["tenantId"], ["ordinal", "id"], ["id"]⟩,
   ⟨"participant_context_snapshot", ["tenantId"], ["receivedAt", "id"], ["id"]⟩,
   ⟨"activity_interaction_event_batch", ["tenantId"], ["receivedAt", "id"], ["id"]⟩,
   ⟨"activity_interaction_event", ["tenantId"], ["receivedAt", "batchId", "sequence", "id"],
     ["batchId", "id"]⟩,
   ⟨"activity_interaction_summary_revision", ["tenantId"], ["calculatedAt", "revision", "id"],
     ["id"]⟩,
   ⟨"participant_response", [], ["respondedAt", "id"], ["id"]⟩,
   ⟨"activity_response_revision", ["tenantId"], ["recordedAt", "revision", "id"], ["id"]⟩,
   ⟨"activity_response", ["tenantId"], ["respondedAt", "id"], ["id"]⟩,
   ⟨"external_media_metadata_snapshot", ["tenantId"], ["capturedAt", "id"], ["id"]⟩,
   ⟨"media_event_batch", ["tenantId"], ["receivedAt", "id"], ["id"]⟩,
   ⟨"media_event", ["tenantId"], ["receivedAt", "batchId", "sequence", "id"], ["batchId", "id"]⟩,
   ⟨"media_activity_summary_revision", ["tenantId"], ["calculatedAt", "revision", "id"], ["id"]⟩,
   ⟨"evidence_chain_head", [], ["assignmentId"], ["assignmentId"]⟩,
   ⟨"evidence_event", ["tenantId"], ["assignmentId", "sequence"], ["assignmentId", "sequence"]⟩,
   ⟨"evidence_manifest", ["tenantId"], ["createdAt", "id"], ["id"]⟩,
   ⟨"evidence_seal", [], ["createdAt", "id"], ["id"]⟩,
   ⟨"outbox_job", ["tenantId"], ["createdAt", "id"], ["id"]⟩,
   ⟨"notification_delivery_attempt", [], ["startedAt", "attempt", "id"], ["id"]⟩,
   ⟨"request_lifecycle_event", ["tenantId"], ["createdAt", "id"], ["id"]⟩,
   ⟨"document_artifact_access_event", ["tenantId"], ["createdAt", "id"], ["id"]⟩,
   ⟨"evidence_export_artifact", ["tenantId"], ["createdAt", "id"], ["id"]⟩,
   ⟨"evidence_export_chunk", [], ["exportArtifactId", "sequence"],
     ["exportArtifactId", "sequence"]⟩,
   ⟨"evidence_access_event", ["tenantId"], ["createdAt", "id"], ["id"]⟩,
   ⟨"record_lifecycle_state", ["tenantId"], ["assignmentId"], ["assignmentId"]⟩,
   ⟨"record_lifecycle_chain_head", [], ["assignmentId"], ["assignmentId"]⟩,
   ⟨"record_lifecycle_event", ["tenantId"], ["assignmentId", "sequence"],
     ["assignmentId", "sequence"]⟩,
   ⟨"legal_hold", ["tenantId"], ["placedAt", "id"], ["id"]⟩,
   ⟨"legal_hold_release", [], ["releasedAt", "id"], ["id"]⟩,
   ⟨"retention_purge_tombstone", ["tenantId"], ["purgedAt", "assignmentId"], ["assignmentId"]⟩,
   ⟨"product_configuration_chain_head", [], ["scopeType", "scopeId"], ["scopeType", "scopeId"]⟩,
   ⟨"product_configuration_event", ["tenantId"], ["createdAt", "scopeType", "scopeId", "sequence"],
     ["scopeType", "scopeId", "sequence"]⟩,
   ⟨"integration_binding_revision", ["tenantId"], ["capability", "revision"],
     ["tenantId", "capability", "revision"]⟩,
   ⟨"integration_binding_pointer", ["tenantId"], ["capability"], ["tenantId", "capability"]⟩,
   ⟨"document_artifact_scan_attempt", ["tenantId"], ["startedAt", "id"], ["id"]⟩,
   ⟨"integration_gateway_attempt", ["tenantId"], ["startedAt", "attempt", "id"], ["id"]⟩]

/-- Rows that agree on the fixed columns and on the order columns agree on the key. -/
theorem order_total : ∀ specification ∈ TABLES, ∀ column ∈ specification.key,
    column ∈ specification.scope ∨ column ∈ specification.order := by decide +kernel

/-- Node, PostgreSQL and the cryptography around the script. -/
structure Platform where
  Cell : Type
  [cellOrder : LinearOrder Cell]
  Key : Type
  Secret : Type
  tableKey : Key → String → Key
  encrypt : Key → List Byte → List Byte → List Byte × List Byte
  decrypt : Key → List Byte → List Byte → List Byte → Option (List Byte)
  decrypt_encrypt : ∀ key iv plain,
    decrypt key iv (encrypt key iv plain).2 (encrypt key iv plain).1 = some plain
  sha256 : List Byte → JsString
  sealEnvelope : Secret → ℕ → Value → Value
  openEnvelope : Secret → Value → Option Value
  open_seal : ∀ secret draw value, Json value →
    openEnvelope secret (sealEnvelope secret draw value) = some value
  accepts : (String → List Value) → String → List Value → Bool

attribute [instance] Platform.cellOrder

/-- A stored row: its column values and its to_jsonb record. -/
structure Row (platform : Platform) where
  cell : String → platform.Cell
  record : Members

section
variable (platform : Platform)

/-- The rows of one table in the exporting transaction. Constraints of the table
and of its query hold; records are JSON objects, and a binding's record has an
envelope that the source opens to JSON credentials. -/
structure Snapshot (secret : platform.Secret) (specification : Specification) where
  rows : List (Row platform)
  confined : ∀ left ∈ rows, ∀ right ∈ rows, ∀ column ∈ specification.scope,
    left.cell column = right.cell column
  unique : (rows.map fun row => specification.key.map row.cell).Nodup
  json : ∀ row ∈ rows, Json (.object row.record)
  columns : specification.table = "integration_binding_revision" → ∀ row ∈ rows,
    js "credentialEnvelope" ∈ row.record.map Prod.fst ∧
      js "transferCredentials" ∉ row.record.map Prod.fst ∧
      ∃ credentials, platform.openEnvelope secret
        (Value.member row.record (js "credentialEnvelope")) = some credentials ∧ Json credentials

variable {platform} {secret : platform.Secret} {specification : Specification}

/-- One ordering of the snapshot that the table's order columns allow. -/
structure Listing (snapshot : Snapshot platform secret specification) where
  rows : List (Row platform)
  perm : rows.Perm snapshot.rows
  sorted : rows.Pairwise fun left right =>
    specification.order.map left.cell ≤ specification.order.map right.cell

def PAGE_SIZE : ℕ := 100

/-- The page a query returns. -/
def page {snapshot : Snapshot platform secret specification} (listing : Listing snapshot)
    (offset : ℕ) : List (Row platform) := (listing.rows.drop offset).take PAGE_SIZE

/-- The rows exportTable reads, page after page until one is empty. Each query
may order the snapshot anew. -/
def readPages {snapshot : Snapshot platform secret specification}
    (listing : ℕ → Listing snapshot) (offset : ℕ) : List (Row platform) :=
  if _nonempty : page (listing offset) offset = [] then []
  else page (listing offset) offset ++
    readPages listing (offset + (page (listing offset) offset).length)
termination_by snapshot.rows.length - offset
decreasing_by
  have size := (listing offset).perm.length_eq
  have some := List.length_pos_iff.mpr _nonempty
  simp only [page, List.length_take, List.length_drop] at some ⊢
  omega

/-- The credentials of a binding travel opened. -/
def exportTransform (secret : platform.Secret) (table : String) (row : Members) :
    Option Members :=
  if table ≠ "integration_binding_revision" then some row
  else
    (platform.openEnvelope secret (Value.member row (js "credentialEnvelope"))).map
      fun credentials =>
        createMember (createMember row (js "credentialEnvelope") .null)
          (js "transferCredentials") credentials

/-- The destination seals them again. Only an object makes a record here. -/
def importTransform (secret : platform.Secret) (draw : ℕ) (table : String) (row : Value) :
    Option Value :=
  if table ≠ "integration_binding_revision" then some row
  else
    match row with
    | .object members =>
        some (.object (createMember
          (members.filter fun entry => entry.1 ≠ js "transferCredentials")
          (js "credentialEnvelope")
          (platform.sealEnvelope secret draw
            (Value.member members (js "transferCredentials")))))
    | _ => none

/-- What the manifest says about one table. -/
structure Metadata where
  ciphertextSha256 : JsString
  iv : List Byte
  rows : ℕ
  table : String
  tag : List Byte

/-- One row's line; a row always has a JSON text. -/
def rowLine (row : Members) : JsString := (stringify (.object row)).getD [] ++ [10]

/-- exportTable; none when an envelope does not open. -/
def exportTable {snapshot : Snapshot platform secret specification} (key : platform.Key)
    (iv : List Byte) (listing : ℕ → Listing snapshot) : Option (Metadata × List Byte) := do
  let rows ← (readPages listing 0).mapM fun row =>
    exportTransform secret specification.table row.record
  let plain := rows.flatMap fun row => Utf8.encode (rowLine row)
  let (ciphertext, tag) := platform.encrypt (platform.tableKey key specification.table) iv plain
  return (⟨platform.sha256 ciphertext, iv, rows.length, specification.table, tag⟩, ciphertext)

/-- readline's lines, after what stands on the current line. CR LF is one line
end, and text after the last line end is a line of its own. -/
def linesFrom (current : JsString) : JsString → List JsString
  | [] => if current = [] then [] else [current]
  | 13 :: 10 :: rest => current :: linesFrom [] rest
  | unit :: rest =>
      if unit = 10 ∨ unit = 13 ∨ unit = 0x2028 ∨ unit = 0x2029 then
        current :: linesFrom [] rest
      else linesFrom (current ++ [unit]) rest

/-- The rows of one encrypted table; none when it cannot be read whole. -/
def encryptedRows (platform : Platform) (key : platform.Key) (metadata : Metadata)
    (file : List Byte) : Option (List Value) := do
  guard (platform.sha256 file = metadata.ciphertextSha256)
  let plain ← platform.decrypt (platform.tableKey key metadata.table) metadata.iv metadata.tag file
  let rows ← ((linesFrom [] (Utf8.decode plain)).filter fun line => line ≠ []).mapM parse
  guard (rows.length = metadata.rows)
  return rows

/-- The rows of a file as the import inserts them. -/
def importedRows (secret : platform.Secret) (key : platform.Key) (metadata : Metadata)
    (file : List Byte) : Option (List Value) := do
  let rows ← encryptedRows platform key metadata file
  rows.zipIdx.mapM fun (row, draw) => importTransform secret draw metadata.table row

/-! ## The import -/

/-- The committed rows of the destination, table by table. -/
structure Database where
  rows : String → List Value

def Database.append (database : Database) (table : String) (rows : List Value) : Database :=
  ⟨fun other => if other = table then database.rows other ++ rows else database.rows other⟩

/-- Inserting some rows of one table; none when a constraint refuses them. -/
def insertRows (platform : Platform) (database : Database) (table : String)
    (rows : List Value) : Option Database :=
  if rows = [] then some database
  else if table ∉ TABLES.map Specification.table then none
  else if platform.accepts database.rows table rows then some (database.append table rows)
  else none

/-- Inserting a table in batches of one page. -/
def insertBatches (platform : Platform) (database : Database) (table : String)
    (rows : List Value) : Option Database :=
  if _nonempty : rows = [] then some database
  else (insertRows platform database table (rows.take PAGE_SIZE)).bind fun database =>
    insertBatches platform database table (rows.drop PAGE_SIZE)
termination_by rows.length
decreasing_by
  have some := List.length_pos_iff.mpr _nonempty
  simp only [List.length_drop, PAGE_SIZE]
  omega

/-- The tenant token a URL and an archive name may carry. -/
def requiredToken : Value → Option JsString
  | .string value =>
      let allowed (unit : CodeUnit) : Bool :=
        isDigit unit || (65 ≤ unit.val && unit.val ≤ 90) || (97 ≤ unit.val && unit.val ≤ 122) ||
          unit = 46 || unit = 95 || unit = 58 || unit = 45
      if value ≠ [] ∧ value.length ≤ 512 ∧ value.all allowed then some value else none
  | _ => none

/-- Whether a member of a row is the string. -/
def hasString (row : Value) (key : String) (text : JsString) : Bool :=
  match row.get (js key) with
  | .string value => value = text
  | _ => false

/-- The grant of the destination's owner: an existing grant for the address is
made an active owner grant, otherwise one is added. -/
def grantOwner (database : Database) (grantId tenantId email : JsString) : Database :=
  let table := "tenant_membership_grant"
  let same (row : Value) : Bool := hasString row "tenantId" tenantId && hasString row "email" email
  let promote (row : Value) : Value :=
    match row with
    | .object members =>
        .object (createMember (createMember members (js "roles") (.array [.string (js "owner")]))
          (js "status") (.string (js "active")))
    | other => other
  if (database.rows table).any same then
    ⟨fun other =>
      if other = table then
        (database.rows table).map fun row => if same row then promote row else row
      else database.rows other⟩
  else
    database.append table [.object [(js "id", .string grantId), (js "tenantId", .string tenantId),
      (js "email", .string email), (js "roles", .array [.string (js "owner")]),
      (js "status", .string (js "active")),
      (js "createdByPrincipalId", .string (js "vasi-tenant-import"))]]

/-- An authenticated archive: the tenant's fingerprint, and each table with its file. -/
structure Archive where
  tenantFingerprint : JsString
  tables : List (Metadata × List Byte)

/-- The transaction of importTenant; none rolls it back. -/
def importTransaction (secret : platform.Secret) (key : platform.Key) (archive : Archive)
    (grantId ownerEmail : JsString) (database : Database) : Option Database := do
  let root ← archive.tables.find? fun entry => entry.1.table = "tenant"
  let tenantRows ← importedRows secret key root.1 root.2
  let [tenant] := tenantRows | none
  let tenantId ← requiredToken (tenant.get (js "id"))
  guard (platform.sha256 (Utf8.encode tenantId) = archive.tenantFingerprint)
  let taken (row : Value) : Bool :=
    hasString row "id" tenantId ||
      match tenant.get (js "slug") with
      | .string slug => hasString row "slug" slug
      | _ => false
  guard ¬ (database.rows "tenant").any taken
  let database ← insertRows platform database "tenant" tenantRows
  let database ← (archive.tables.filter fun entry => entry.1.table ≠ "tenant").foldlM
    (fun database entry =>
      (importedRows secret key entry.1 entry.2).bind fun rows =>
        insertBatches platform database entry.1.table rows) database
  return grantOwner database grantId tenantId ownerEmail

/-- What importTenant leaves committed. -/
def importTenant (secret : platform.Secret) (key : platform.Key) (archive : Archive)
    (grantId ownerEmail : JsString) (database : Database) : Database :=
  (importTransaction secret key archive grantId ownerEmail database).getD database

/-- The rows an archive holds for a table, as they are imported. -/
def archivedRows (secret : platform.Secret) (key : platform.Key) (archive : Archive)
    (table : String) : List Value :=
  let entries := archive.tables.filter fun entry => entry.1.table = table
  (if table = "tenant" then entries.take 1 else entries).flatMap fun entry =>
    (importedRows secret key entry.1 entry.2).getD []

end

end Vasi.TenantTransfer
