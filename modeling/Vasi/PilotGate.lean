import Vasi.Coercion
import Vasi.FatalUtf8
import Vasi.IsoTime
import Vasi.PrettyJson
import Vasi.Productization

/-!
# Pilot gate manifests

The offline package for pilot gate evidence: a manifest lists the artifacts of
one admission gate and answers the gate's checklist with them. Its checks read a
parsed document, and the file that carries it must be the canonical text of what
they return.

The directory of the artifacts, the owner and mode of the files and the
descriptor tool are left out. The digest is a parameter.
-/
namespace Vasi.PilotGate

open JsValue Validation Coercion PrettyJson Utf8
open JsonText (parse)
open ReleaseArchive (decodeFatal lowerCase)
open Productization (isDigest)

/-! ## The contract -/

def DESCRIPTOR_SCHEMA : JsString := js "vasi-pilot-gate-evidence-descriptor/v1"
def MANIFEST_SCHEMA : JsString := js "vasi-pilot-gate-evidence-manifest/v1"
def VERIFICATION_SCHEMA : JsString := js "vasi-pilot-gate-evidence-verification/v1"
def MAXIMUM_MANIFEST_BYTES : ℕ := 1048576
def MAXIMUM_ARTIFACTS : ℕ := 64
def MAXIMUM_ARTIFACT_BYTES : ℕ := 16777216
def MAXIMUM_TOTAL_BYTES : ℕ := 134217728

def LIMITATIONS : List JsString := [
  js "This manifest proves the integrity and completeness of the indexed local files; it does not establish that a review was sufficient or correct.",
  js "VASI does not ingest, copy, upload, interpret, certify, or approve the indexed evidence artifacts.",
  js "Opaque references identify separately controlled scope, reviewer, and records; they do not prove identity, authority, independence, or legal capacity.",
  js "A satisfied checklist item or accepted exception records the review package assertion only; the accountable admission owner must make the gate decision.",
  js "The manifest SHA-256 detects changes to the canonical manifest and artifact digests; it is not a digital signature, trusted timestamp, or certificate opinion."]

def CHECKLISTS : List (JsString × List JsString) := [
  (js "accessibility", [js "automated_accessibility", js "keyboard_navigation",
    js "screen_reader", js "zoom_and_reflow", js "motion_and_animation",
    js "media_alternatives", js "supported_browser_device"]),
  (js "capacity_support", [js "pilot_owner_users_scenarios", js "concurrency_and_volume_limits",
    js "load_evidence", js "alert_destination_and_escalation", js "incident_contacts",
    js "support_hours", js "rollback_and_stop_criteria"]),
  (js "exact_release", [js "source_assurance", js "image_assurance",
    js "build_test_conformance", js "backup_settings_migrations", js "rollback_readiness"]),
  (js "identity_delivery", [js "approved_identity_providers", js "callback_and_origin_policy",
    js "mfa_or_conditional_access", js "authentication_mail", js "tenant_delivery_path",
    js "account_recovery_support"]),
  (js "isolation_integrity", [js "first_party_isolation_tamper", js "public_private_tenant_scope",
    js "independent_penetration_assessment", js "finding_disposition"]),
  (js "malware_content", [js "content_risk_classification",
    js "scanner_or_trusted_source_policy", js "external_media_policy",
    js "content_owner_acceptance", js "outage_and_retry_policy"]),
  (js "privacy_legal", [js "notice_and_consent_language", js "field_and_disclosure_inventory",
    js "data_request_process", js "retention_and_hold_policy", js "jurisdiction_analysis",
    js "electronic_act_analysis"]),
  (js "recovery_custody", [js "disposable_recovery_drill", js "rpo_and_rto",
    js "encrypted_off_host_custody", js "key_rotation_and_revocation", js "break_glass_process",
    js "certificate_tsa_hsm_decision"])]

def mediaExtensions : List (JsString × JsString) := [
  (js "application/json", js ".json"), (js "application/pdf", js ".pdf"),
  (js "application/zip", js ".zip"), (js "text/csv", js ".csv"), (js "text/html", js ".html"),
  (js "text/markdown", js ".md"), (js "text/plain", js ".txt")]

/-! ## Patterns -/

def isFilenameUnit (unit : CodeUnit) : Bool :=
  isLowerLetter unit || isUpperLetter unit || isDigit unit

/-- The pattern ^[A-Za-z0-9][A-Za-z0-9._-]\x7b0,127\x7d$ of artifactFilename. -/
def artifactFilename : JsString → Bool
  | [] => false
  | first :: rest => isFilenameUnit first && rest.length ≤ 127 &&
      rest.all fun unit => isFilenameUnit unit || unit.val ∈ [46, 95, 45]

/-- The pattern ^[A-Za-z0-9][A-Za-z0-9._:-]\x7b0,159\x7d$ of opaqueReference. -/
def opaqueReference : JsString → Bool
  | [] => false
  | first :: rest => isFilenameUnit first && rest.length ≤ 159 &&
      rest.all fun unit => isFilenameUnit unit || unit.val ∈ [46, 95, 58, 45]

/-- A point, an underscore or a hyphen. -/
def isBoundary (unit : CodeUnit) : Bool := unit.val ∈ [46, 95, 45]

/-- The parts of a text right after a boundary. -/
def afterBoundaries : JsString → List JsString
  | [] => []
  | unit :: rest => if isBoundary unit then rest :: afterBoundaries rest else afterBoundaries rest

def forbiddenWords : List JsString := [js "credential", js "credentials", js "env",
  js "private", js "secret", js "settings", js "token"]

/-- The pattern of forbiddenArtifactName, which ignores case. It is only put to
names of ASCII letters, digits, points, underscores and hyphens. -/
def forbiddenArtifactName (name : JsString) : Bool :=
  let lower := name.map lowerCase
  ((lower :: afterBoundaries lower).any fun suffix => forbiddenWords.any fun word =>
      word.isPrefixOf suffix && (suffix.drop word.length).head?.all isBoundary) ||
    lower.tails.any fun suffix => (js "vasi.settings").isPrefixOf suffix

/-- path.extname of a name without a slash: the text from the last point on, unless
that is the first character. -/
def extname (name : JsString) : JsString :=
  match name.reverse.findIdx? (· = 46) with
  | none => []
  | some fromEnd => if fromEnd + 1 = name.length then [] else name.drop (name.length - fromEnd - 1)

/-! ## Checks -/

/-- What the package throws: an error with a code, or the TypeError of a conversion
or of a missing method. -/
inductive Failure where
  | evidence (code : JsString)
  | typeError
deriving DecidableEq

abbrev Verified (α : Type) := Except Failure α

def fail {α : Type} (code : String) : Verified α := .error (.evidence (js code))

def check (holds : Bool) (code : String) : Verified Unit := if holds then .ok () else fail code

/-- The string conversion that a pattern or a property access makes. -/
def coerce (value : Value) : Verified JsString :=
  match toText value with
  | some text => .ok text
  | none => .error .typeError

/-- The sorted keys, joined by NUL. -/
def sortedKeys (keys : List JsString) : JsString := join [0] (keys.insertionSort (· ≤ ·))

/-- The members of an object with the expected keys. -/
def exactMembers (value : Value) (keys : List JsString) : Option Members :=
  match value with
  | .object members =>
      if sortedKeys (members.map Prod.fst) = sortedKeys keys then some members else none
  | _ => none

def exactObject (value : Value) (code : String) (keys : List JsString) : Verified Members :=
  match exactMembers value keys with
  | some members => .ok members
  | none => fail code

/-- The text of a string that passes a test. -/
def textWhere (holds : JsString → Bool) (value : Value) : Option JsString :=
  (stringText value).filter holds

def textOr (holds : JsString → Bool) (value : Value) (code : String) : Verified JsString :=
  match textWhere holds value with
  | some text => .ok text
  | none => fail code

def reference (value : Value) (code : String) : Verified JsString :=
  textOr opaqueReference value code

def canonicalTimestamp (value : Value) : Verified JsString :=
  textOr IsoTime.isCanonicalTimestamp value "invalid_reviewed_at"

def sha256 (value : Value) (code : String) : Verified JsString := textOr isDigest value code

/-- sameArray with a list of texts. -/
def sameArray (value : Value) (texts : List JsString) : Bool :=
  match value with
  | .array items => items.length == texts.length &&
      (items.zip texts).all fun pair => stringText pair.1 == some pair.2
  | _ => false

/-- Strict equality with a string, or with undefined for an item that is not there. -/
def isItem (value : Value) (expected : Option JsString) : Bool :=
  match expected with
  | some text => stringText value == some text
  | none => value.isUndefined

/-- The items of an array that is neither empty nor longer than the contract allows. -/
def boundedArray (value : Value) : Option (List Value) :=
  match value with
  | .array items => if items ≠ [] ∧ items.length ≤ MAXIMUM_ARTIFACTS then some items else none
  | _ => none

/-- A size between one byte and the largest artifact. -/
def artifactBytes (value : Value) : Option ℕ :=
  match value with
  | .number number =>
      let bytes := (number.toRat?.getD 0).num
      if number.isSafeInteger ∧ 1 ≤ bytes ∧ bytes ≤ MAXIMUM_ARTIFACT_BYTES then some bytes.toNat
      else none
  | _ => none

/-- Whether an array stands in the order that sorting it gives. -/
def inOrder (items : List Value) : Bool := joined [0] items == joined [0] (sorted items)

/-! ## The descriptor -/

structure DescriptorArtifact where
  id : Value
  mediaType : Value
  path : Value

inductive Outcome where
  | satisfied
  | acceptedException
deriving DecidableEq

def Outcome.text : Outcome → JsString
  | .satisfied => js "satisfied"
  | .acceptedException => js "accepted_exception"

structure ChecklistItem where
  artifactIds : List Value
  exceptionReference : Option JsString
  id : Value
  outcome : Outcome

/-- What a property of the checklists is: the list of an own gate, or what the
object inherits, which has at most a length. -/
structure Required where
  length : Option ℕ
  items : List JsString

/-- The members of Object.prototype with the length of those that are functions. -/
def inherited : List (JsString × Option ℕ) := [
  (js "constructor", some 1), (js "__proto__", none), (js "hasOwnProperty", some 1),
  (js "isPrototypeOf", some 1), (js "propertyIsEnumerable", some 1), (js "toLocaleString", some 0),
  (js "toString", some 0), (js "valueOf", some 0), (js "__defineGetter__", some 2),
  (js "__defineSetter__", some 2), (js "__lookupGetter__", some 1),
  (js "__lookupSetter__", some 1)]

/-- The property of PILOT_GATE_CHECKLISTS under a key. -/
def checklistOf (key : JsString) : Option Required :=
  match CHECKLISTS.lookup key with
  | some items => some ⟨some items.length, items⟩
  | none => (inherited.lookup key).map fun length => ⟨length, []⟩

def artifactKeys : List JsString := [js "bytes", js "id", js "mediaType", js "path", js "sha256"]

def descriptorArtifactKeys : List JsString := [js "id", js "mediaType", js "path"]

def checklistKeys : List JsString :=
  [js "artifactIds", js "exceptionReference", js "id", js "outcome"]

def descriptorKeys : List JsString := [js "artifacts", js "checklist", js "evidenceReference",
  js "gateId", js "reviewedAt", js "reviewerReference", js "schema", js "scopeReference"]

def manifestKeys : List JsString := [js "artifacts", js "checklist", js "evidenceReference",
  js "gateId", js "limitations", js "packageDigest", js "reviewedAt", js "reviewerReference",
  js "schema", js "scopeReference"]

/-- The extension of an own media type. -/
def mediaExtension (key : JsString) : Verified JsString :=
  match mediaExtensions.lookup key with
  | some extension => .ok extension
  | none => fail "unsupported_artifact_media_type"

/-- The conditions on a path whose characters are allowed. A value that is not a
string has no startsWith. -/
def checkPath (seenPaths : List JsString) (extension : JsString) (path : Value) :
    Verified JsString :=
  match path with
  | .string name => do
      check (!(js ".").isPrefixOf name && !forbiddenArtifactName name && !seenPaths.contains name &&
        (extname name).map lowerCase == extension) "invalid_artifact_path"
      return name
  | _ => .error .typeError

/-- One artifact of a descriptor, and its path. -/
def descriptorArtifact (seenIds : List Value) (seenPaths : List JsString) (entry : Value) :
    Verified (DescriptorArtifact × JsString) := do
  let artifact ← exactObject entry "invalid_descriptor_artifact" descriptorArtifactKeys
  let id := Value.member artifact (js "id")
  let mediaType := Value.member artifact (js "mediaType")
  let path := Value.member artifact (js "path")
  let idText ← coerce id
  check (isIdentifier idText && !has seenIds id) "invalid_artifact_id"
  let key ← coerce mediaType
  let extension ← mediaExtension key
  let pathText ← coerce path
  check (artifactFilename pathText) "invalid_artifact_path"
  let name ← checkPath seenPaths extension path
  return (⟨id, mediaType, path⟩, name)

def descriptorArtifacts (seenIds : List Value) (seenPaths : List JsString) :
    List Value → Verified (List DescriptorArtifact)
  | [] => .ok []
  | entry :: rest => do
      let (artifact, name) ← descriptorArtifact seenIds seenPaths entry
      let later ← descriptorArtifacts (add seenIds artifact.id) (name :: seenPaths) rest
      return artifact :: later

def validateDescriptorArtifacts (value : Value) : Verified (List DescriptorArtifact) :=
  match boundedArray value with
  | none => fail "invalid_artifacts"
  | some entries => do
      let artifacts ← descriptorArtifacts [] [] entries
      check (inOrder (artifacts.map DescriptorArtifact.id)) "noncanonical_artifact_order"
      return artifacts

/-- Whether every id passes the pattern and is an artifact's; the first that
cannot be converted throws. -/
def knownArtifacts (artifactIds : List Value) : List Value → Verified Bool
  | [] => .ok true
  | id :: rest => do
      let text ← coerce id
      if isIdentifier text && has artifactIds id then knownArtifacts artifactIds rest
      else return false

/-- The ids that a checklist item names. -/
def checklistArtifacts (artifactIds : List Value) (value : Value) : Verified (List Value) :=
  match boundedArray value with
  | none => fail "invalid_checklist_artifacts"
  | some ids => do
      let known ← knownArtifacts artifactIds ids
      check (known && (newSet ids).length == ids.length && inOrder ids)
        "invalid_checklist_artifacts"
      return ids

/-- The outcome that a value is. -/
def outcomeOf (value : Value) : Option Outcome :=
  [Outcome.satisfied, .acceptedException].find? fun outcome =>
    stringText value == some outcome.text

def checklistOutcome (value : Value) : Verified Outcome :=
  match outcomeOf value with
  | some outcome => .ok outcome
  | none => fail "invalid_checklist_outcome"

def exceptionReference (outcome : Outcome) (value : Value) : Verified (Option JsString) :=
  match outcome, value with
  | .acceptedException, value => (reference value "invalid_exception_reference").map some
  | .satisfied, .null => .ok none
  | .satisfied, _ => fail "unexpected_exception_reference"

def checklistItem (artifactIds : List Value) (required : Option JsString) (entry : Value) :
    Verified ChecklistItem := do
  let item ← exactObject entry "invalid_checklist_item" checklistKeys
  let id := Value.member item (js "id")
  check (isItem id required) "invalid_checklist_order"
  let ids ← checklistArtifacts artifactIds (Value.member item (js "artifactIds"))
  let outcome ← checklistOutcome (Value.member item (js "outcome"))
  let exceptionReference ← exceptionReference outcome (Value.member item (js "exceptionReference"))
  return ⟨ids, exceptionReference, id, outcome⟩

/-- The items of a checklist, each with the required id at its index. -/
def checklistItems (artifactIds : List Value) :
    List JsString → List Value → Verified (List ChecklistItem)
  | _, [] => .ok []
  | required, entry :: rest => do
      let item ← checklistItem artifactIds required.head? entry
      let later ← checklistItems artifactIds required.tail rest
      return item :: later

def validateChecklist (value : Value) (required : Required) (artifactIds : List Value) :
    Verified (List ChecklistItem) :=
  match value with
  | .array entries => do
      check (required.length == some entries.length) "incomplete_checklist"
      checklistItems artifactIds required.items entries
  | _ => fail "incomplete_checklist"

def requiredChecklist (gateId : Value) : Verified Required := do
  let key ← coerce gateId
  match checklistOf key with
  | some required => .ok required
  | none => fail "unsupported_gate"

structure Descriptor where
  artifacts : List DescriptorArtifact
  checklist : List ChecklistItem
  evidenceReference : JsString
  gateId : Value
  reviewedAt : JsString
  reviewerReference : JsString
  scopeReference : JsString

def validatePilotGateDescriptor (value : Value) : Verified Descriptor := do
  let descriptor ← exactObject value "invalid_descriptor" descriptorKeys
  check (stringText (Value.member descriptor (js "schema")) == some DESCRIPTOR_SCHEMA)
    "unsupported_descriptor_schema"
  let gateId := Value.member descriptor (js "gateId")
  let required ← requiredChecklist gateId
  let artifacts ← validateDescriptorArtifacts (Value.member descriptor (js "artifacts"))
  let artifactIds := newSet (artifacts.map DescriptorArtifact.id)
  let checklist ← validateChecklist (Value.member descriptor (js "checklist")) required artifactIds
  check ((newSet (checklist.flatMap ChecklistItem.artifactIds)).length == artifacts.length)
    "unreferenced_artifact"
  let evidenceReference ← reference (Value.member descriptor (js "evidenceReference"))
    "invalid_evidence_reference"
  let reviewedAt ← canonicalTimestamp (Value.member descriptor (js "reviewedAt"))
  let reviewerReference ← reference (Value.member descriptor (js "reviewerReference"))
    "invalid_reviewer_reference"
  let scopeReference ← reference (Value.member descriptor (js "scopeReference"))
    "invalid_scope_reference"
  return ⟨artifacts, checklist, evidenceReference, gateId, reviewedAt, reviewerReference,
    scopeReference⟩

/-! ## The manifest -/

structure Artifact where
  bytes : ℕ
  id : Value
  mediaType : Value
  path : Value
  sha256 : JsString

structure Manifest where
  artifacts : List Artifact
  checklist : List ChecklistItem
  evidenceReference : JsString
  gateId : Value
  packageDigest : JsString
  reviewedAt : JsString
  reviewerReference : JsString
  scopeReference : JsString

def textList (texts : List JsString) : Value := .array (texts.map .string)

def artifactValue (artifact : Artifact) : Value := .object [
  (js "bytes", .number (.finite artifact.bytes)), (js "id", artifact.id),
  (js "mediaType", artifact.mediaType), (js "path", artifact.path),
  (js "sha256", .string artifact.sha256)]

def checklistItemValue (item : ChecklistItem) : Value := .object [
  (js "artifactIds", .array item.artifactIds),
  (js "exceptionReference", (item.exceptionReference.map Value.string).getD .null),
  (js "id", item.id), (js "outcome", .string item.outcome.text)]

/-- The document that a manifest's digest covers. -/
def normalizedMembers (manifest : Manifest) : Members := [
  (js "artifacts", .array (manifest.artifacts.map artifactValue)),
  (js "checklist", .array (manifest.checklist.map checklistItemValue)),
  (js "evidenceReference", .string manifest.evidenceReference), (js "gateId", manifest.gateId),
  (js "limitations", textList LIMITATIONS), (js "reviewedAt", .string manifest.reviewedAt),
  (js "reviewerReference", .string manifest.reviewerReference),
  (js "schema", .string MANIFEST_SCHEMA),
  (js "scopeReference", .string manifest.scopeReference)]

def manifestValue (manifest : Manifest) : Value :=
  .object (normalizedMembers manifest ++ [(js "packageDigest", .string manifest.packageDigest)])

def totalBytes (artifacts : List Artifact) : ℕ := (artifacts.map Artifact.bytes).sum

def manifestArtifact (entry : Value) : Verified Artifact := do
  let artifact ← exactObject entry "invalid_manifest_artifact" artifactKeys
  match artifactBytes (Value.member artifact (js "bytes")) with
  | none => fail "invalid_artifact_size"
  | some bytes => do
      let digest ← sha256 (Value.member artifact (js "sha256")) "invalid_artifact_digest"
      return ⟨bytes, Value.member artifact (js "id"), Value.member artifact (js "mediaType"),
        Value.member artifact (js "path"), digest⟩

def manifestArtifactList : List Value → Verified (List Artifact)
  | [] => .ok []
  | entry :: rest => do
      let artifact ← manifestArtifact entry
      let later ← manifestArtifactList rest
      return artifact :: later

def manifestArtifacts (value : Value) : Verified (List Artifact) :=
  match boundedArray value with
  | none => fail "invalid_artifacts"
  | some entries => manifestArtifactList entries

/-- The descriptor that a manifest is checked as. -/
def descriptorMembers (manifest : Members) (artifacts : List Artifact) : Members := [
  (js "artifacts", .array (artifacts.map fun artifact => .object [(js "id", artifact.id),
    (js "mediaType", artifact.mediaType), (js "path", artifact.path)])),
  (js "checklist", Value.member manifest (js "checklist")),
  (js "evidenceReference", Value.member manifest (js "evidenceReference")),
  (js "gateId", Value.member manifest (js "gateId")),
  (js "reviewedAt", Value.member manifest (js "reviewedAt")),
  (js "reviewerReference", Value.member manifest (js "reviewerReference")),
  (js "schema", .string DESCRIPTOR_SCHEMA),
  (js "scopeReference", Value.member manifest (js "scopeReference"))]

section

variable (sha256Hex : JsString → JsString)

def validatePilotGateManifest (value : Value) : Verified Manifest := do
  let manifest ← exactObject value "invalid_manifest" manifestKeys
  check (stringText (Value.member manifest (js "schema")) == some MANIFEST_SCHEMA)
    "unsupported_manifest_schema"
  check (sameArray (Value.member manifest (js "limitations")) LIMITATIONS) "invalid_limitations"
  let artifacts ← manifestArtifacts (Value.member manifest (js "artifacts"))
  check (decide (totalBytes artifacts ≤ MAXIMUM_TOTAL_BYTES)) "evidence_size_exceeded"
  let descriptor ← validatePilotGateDescriptor (.object (descriptorMembers manifest artifacts))
  let packageDigest ← sha256 (Value.member manifest (js "packageDigest")) "invalid_package_digest"
  let normalized : Manifest := ⟨artifacts, descriptor.checklist, descriptor.evidenceReference,
    descriptor.gateId, packageDigest, descriptor.reviewedAt, descriptor.reviewerReference,
    descriptor.scopeReference⟩
  check (digestCanonical sha256Hex (.object (normalizedMembers normalized)) == packageDigest)
    "package_digest_mismatch"
  return normalized

def pilotGateManifestJSON (value : Value) : Verified JsString := do
  let manifest ← validatePilotGateManifest sha256Hex value
  return prettyCanonicalJSON (manifestValue manifest)

structure AdmissionEvidence where
  evidenceDigest : JsString
  evidenceReference : JsString
  reviewerReference : JsString
deriving DecidableEq

def pilotGateAdmissionEvidence (value : Value) : Verified AdmissionEvidence := do
  let manifest ← validatePilotGateManifest sha256Hex value
  return ⟨manifest.packageDigest, manifest.evidenceReference, manifest.reviewerReference⟩

def exceptions (checklist : List ChecklistItem) : ℕ :=
  (checklist.filter fun item => item.outcome = .acceptedException).length

structure Verification where
  artifacts : ℕ
  checklistItems : ℕ
  exceptions : ℕ
  gateId : Value
  packageSha256 : JsString
  totalBytes : ℕ

def verificationResult (manifest : Manifest) : Verification :=
  ⟨manifest.artifacts.length, manifest.checklist.length, exceptions manifest.checklist,
    manifest.gateId, manifest.packageDigest, totalBytes manifest.artifacts⟩

/-- The text of a file, decoded strictly and without NUL. -/
def decodedText (contents : List Byte) : Verified JsString :=
  match decodeFatal contents with
  | none => fail "invalid_json"
  | some text => do
      check (!text.contains 0) "invalid_json_encoding"
      return text

def parsedText (text : JsString) : Verified Value :=
  match parse text with
  | none => fail "invalid_json"
  | some value => .ok value

/-- readCanonicalJSONFile of a manifest, from the bytes of the file. -/
def readCanonicalManifest (contents : List Byte) : Verified Value := do
  check (decide (1 ≤ contents.length ∧ contents.length ≤ MAXIMUM_MANIFEST_BYTES))
    "invalid_physical_file"
  let text ← decodedText contents
  let value ← parsedText text
  let canonical ← pilotGateManifestJSON sha256Hex value
  check (canonical == text) "noncanonical_json"
  return value

/-- The offline verification of a manifest file: what it reports and what it hands
to the admission decision. -/
def verifyOffline (contents : List Byte) : Verified (Verification × AdmissionEvidence) := do
  let value ← readCanonicalManifest sha256Hex contents
  let manifest ← validatePilotGateManifest sha256Hex value
  let evidence ← pilotGateAdmissionEvidence sha256Hex value
  return (verificationResult manifest, evidence)

end

end Vasi.PilotGate
