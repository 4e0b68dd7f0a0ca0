import Vasi.Coercion
import Vasi.ConfigurationStore
import Vasi.PrettyJson
import Vasi.ReleaseArchive

/-!
# Readiness dossiers

What the offline package asks of a readiness export: the dossier with its
admission, installation, integrations, production stop and tenant, the hash that
covers it, and for a signed export the attestation and its seals. A file is the
printed export, or the page that embeds it.

The signatures, certificates and the page are parameters: a file is accepted
only when they are what the parameters say.
-/
namespace Vasi.ReadinessDossier

open JsValue Validation Coercion PrettyJson IsoTime Admission Productization
open CanonicalJson (hashCanonicalJSON)
open JsonText (parse stringify)
open Utf8 (Byte encode)
open ReleaseArchive (decodeFatal)

/-- What the package takes from elsewhere: text normalisation, SHA-256, the two seal
checks, and the page of an export. -/
structure Tools where
  platform : TextPlatform
  sha256Hex : JsString → JsString
  verifyDetachedIntegritySeal : Value → Value → Bool
  verifyCertificateSeal : Value → Value → Bool
  renderReadinessDossierHTML : Value → JsString

/-- A check that succeeds or fails with a code. -/
abbrev Verified (α : Type) := Except JsString α

def MAXIMUM_READINESS_DOSSIER_BYTES : ℕ := 2097152
def READINESS_ATTESTATION_SCHEMA : JsString := js "vasi-tenant-readiness-attestation/v1"
def READINESS_DOSSIER_SEAL_PROFILE : JsString := js "vasi-readiness-dossier-sealed/v1"
def SIGNED_READINESS_EXPORT_SCHEMA : JsString := js "vasi-tenant-readiness-export/v2"
def LEGACY_EXPORT_SCHEMA : JsString := js "vasi-tenant-readiness-export/v1"
def DOSSIER_SCHEMA : JsString := js "vasi-tenant-readiness-dossier/v1"

def READINESS_DOSSIER_LIMITATIONS : List JsString := [
  js "This dossier reports the VASI engine state observed at export; it is not a certification, legal opinion, or independent assessment.",
  js "Recorded gate approvals identify evidence and reviewers but do not establish that the underlying review was sufficient or correct.",
  js "Secrets, credentials, personal contact data, raw integration configuration, and destination allowlist values are deliberately omitted.",
  js "The dossier SHA-256 detects changes to these exported facts; it is not a digital signature or a certificate sealed.",
  js "External identity, delivery, custody, recovery, accessibility, legal, security, capacity, and support controls remain installation and customer responsibilities."]

/-- The capabilities of a built-in adapter. -/
def adapterCapabilities (id : JsString) : Option (List JsString) :=
  if id ∈ [js "disabled", js "microsoft_graph", js "smtp", js "webhook"] then
    some [js "notification.delivery"]
  else if id ∈ [js "scan_disabled", js "https_malware_scanner"] then
    some [js "document.malware_scan"]
  else none

def SUPPORTED_CAPABILITIES : List JsString :=
  [js "notification.delivery", js "document.malware_scan"]

/-- The resources with the quota that limits each. -/
def RESOURCE_QUOTAS : List (JsString × JsString) := [
  (js "activeRequests", js "maxActiveRequests"), (js "artifactBytes", js "maxArtifactBytes"),
  (js "integrations", js "maxIntegrations"), (js "members", js "maxMembers"),
  (js "workflows", js "maxWorkflows")]

/-- The quotas with their bounds. -/
def QUOTA_LIMITS : List (JsString × ℕ × ℕ) := [
  (js "maxActiveRequests", 1, 1000000), (js "maxArtifactBytes", 1048576, 10995116277760),
  (js "maxArtifactBytesPerArtifact", 1024, 1073741824), (js "maxIntegrations", 0, 100),
  (js "maxMembers", 1, 100000), (js "maxWorkflows", 1, 100000)]

/-! ## Fields -/

def fail {α : Type} (code : JsString) : Verified α := .error code

def invalidField {α : Type} (name : JsString) : Verified α := fail (js "invalid_" ++ name)

def check (holds : Bool) (code : String) : Verified Unit := if holds then .ok () else fail (js code)

def sortKeys (keys : List JsString) : List JsString := keys.insertionSort (· ≤ ·)

def exactObject (value : Value) (name : JsString) (keys : List JsString) : Verified Members :=
  match value with
  | .object members =>
      if sortKeys (members.map Prod.fst) = sortKeys keys then .ok members
      else invalidField (name ++ js "_fields")
  | _ => invalidField name

/-- A string that passes a test. -/
def textField (holds : JsString → Bool) (value : Value) (name : JsString) : Verified JsString :=
  match (stringText value).filter holds with
  | some text => .ok text
  | none => invalidField name

def hash (value : Value) (name : JsString) : Verified JsString := textField isDigest value name

def canonicalTimestamp (value : Value) (name : JsString) : Verified JsString :=
  textField isCanonicalTimestamp value name

/-- Whether a value is the given string. -/
def isText (value : Value) (text : JsString) : Bool := stringText value == some text

/-- Whether a value is one of the given strings. -/
def isOneOf (value : Value) (texts : List JsString) : Bool := texts.any (isText value)

def isTrue : Value → Bool
  | .bool value => value
  | _ => false

/-- Strict equality of two strings. -/
def sameText (left right : Value) : Bool :=
  (stringText left).isSome && stringText left == stringText right

/-- The value of a number that is an integer in range. -/
def boundedInteger (value : Value) (name : JsString) (minimum maximum : ℕ) : Verified ℕ :=
  match value with
  | .number number =>
      let integer := (number.toRat?.getD 0).num
      if number.isSafeInteger ∧ (minimum : ℤ) ≤ integer ∧ integer ≤ maximum then
        .ok integer.toNat
      else invalidField name
  | _ => invalidField name

def positiveInteger (value : Value) (name : JsString) : Verified ℕ :=
  boundedInteger value name 1 MAX_SAFE_INTEGER

def base64url (value : Value) (name : JsString) (minimum maximum : ℕ) : Verified JsString :=
  textField (fun text => minimum ≤ text.length && text.length ≤ maximum && text ≠ [] &&
    text.all fun unit => isLowerLetter unit || isUpperLetter unit || isDigit unit ||
      unit.val ∈ [95, 45]) value name

/-- sameArray with a list of texts. -/
def sameArray (value : Value) (texts : List JsString) : Bool :=
  match value with
  | .array items => items.length == texts.length &&
      (items.zip texts).all fun pair => isText pair.1 pair.2
  | _ => false

/-- Every value of a list passes a check. -/
def checkAll {α : Type} (visit : α → Verified Unit) : List α → Verified Unit
  | [] => .ok ()
  | item :: rest => do
      visit item
      checkAll visit rest

/-- hashCanonicalJSON; its TypeError carries a message. -/
def contentHash (tools : Tools) (value : Value) : Verified JsString :=
  hashCanonicalJSON tools.sha256Hex value

section Tools

variable (tools : Tools)

def safeString (value : Value) (name : JsString) (minimum maximum : ℕ) : Verified JsString :=
  textField (fun text => tools.platform.normalizeNFC text = text && trim text = text &&
    minimum ≤ text.length && text.length ≤ maximum && !text.any isControl) value name

def safeToken (value : Value) (name : JsString) (minimum maximum : ℕ) : Verified JsString := do
  let text ← safeString tools value name minimum maximum
  if text ≠ [] ∧ text.all isTokenUnit then return text else invalidField name

/-! ## The dossier -/

/-- The admission of a dossier, as its validator normalises it. -/
def validateAdmission (value : Value) : Verified TenantAdmission := do
  let admission ← exactObject value (js "admission") [js "admissionHash", js "gates",
    js "revision", js "revisionCreatedAt", js "schema", js "status"]
  let admissionHash ← hash (Value.member admission (js "admissionHash")) (js "admission_hash")
  let _ ← positiveInteger (Value.member admission (js "revision")) (js "admission_revision")
  let _ ← canonicalTimestamp (Value.member admission (js "revisionCreatedAt"))
    (js "admission_revision_created_at")
  let normalized ← (validateTenantAdmission tools.platform (.object [
    (js "gates", Value.member admission (js "gates")),
    (js "schema", Value.member admission (js "schema")),
    (js "status", Value.member admission (js "status"))])).mapError fun _ => js "invalid_admission"
  let actual ← contentHash tools (admissionValue normalized)
  check (actual == admissionHash) "admission_hash_mismatch"
  return normalized

/-- A version such as 1.20.3 or 1.20.3-rc.1. -/
def isEngineVersion (text : JsString) : Bool :=
  match text.splitOn 46 with
  | major :: minor :: last =>
      let tail := join [46] last
      let patch := tail.takeWhile isDigit
      let suffix := tail.dropWhile isDigit
      [major, minor, patch].all (fun part => part ≠ [] && part.all isDigit) &&
        (suffix = [] || (suffix.head? = some 45 && suffix.tail ≠ [] && suffix.tail.all fun unit =>
          isDigit unit || isLowerLetter unit || isUpperLetter unit || unit.val ∈ [46, 45])) &&
        text.length ≤ 64
  | _ => false

/-- The adapters that an installation allows. -/
def validateAdapterPolicy (value : Value) : Verified (List Value) := do
  let policy ← exactObject value (js "adapter_policy")
    [js "allowedAdapterIds", js "destinationAllowlistCounts"]
  match Value.member policy (js "allowedAdapterIds") with
  | .array ids => do
      check (ids ≠ [] && ids.length ≤ BUILT_IN_ADAPTERS.length &&
        (newSet ids).length == ids.length && ids.all fun id => isOneOf id BUILT_IN_ADAPTERS)
        "invalid_adapter_policy"
      let counts ← exactObject (Value.member policy (js "destinationAllowlistCounts"))
        (js "allowlist_counts") [js "malwareScannerHosts", js "microsoftGraphClientIds",
          js "microsoftGraphSenders", js "microsoftGraphTenantIds", js "smtpHosts",
          js "webhookHosts"]
      checkAll (fun entry : JsString × Value => do
        let _ ← boundedInteger entry.2 (js "allowlist_count") 0 1000000
        return ()) (propertyOrder counts)
      return ids
  | _ => fail (js "invalid_adapter_policy")

def validateInstallation (value : Value) : Verified (List Value) := do
  let installation ← exactObject value (js "installation") [js "adapterPolicy", js "deployment",
    js "engineVersion", js "organizationName", js "productName", js "profileHash",
    js "provisioning", js "revision"]
  let _ ← hash (Value.member installation (js "profileHash")) (js "installation_profile_hash")
  let _ ← positiveInteger (Value.member installation (js "revision")) (js "installation_revision")
  let _ ← safeString tools (Value.member installation (js "organizationName"))
    (js "organization_name") 2 120
  let _ ← safeString tools (Value.member installation (js "productName")) (js "product_name") 2 80
  check ((stringText (Value.member installation (js "engineVersion"))).any isEngineVersion)
    "invalid_engine_version"
  let deployment ← exactObject (Value.member installation (js "deployment")) (js "deployment")
    [js "engineDatabaseBoundary", js "mode", js "publicIngress"]
  check (isText (Value.member deployment (js "engineDatabaseBoundary")) (js "dedicated") &&
    isOneOf (Value.member deployment (js "mode")) [js "saas", js "self_hosted"] &&
    isText (Value.member deployment (js "publicIngress")) (js "gateway_only")) "invalid_deployment"
  let provisioning ← exactObject (Value.member installation (js "provisioning"))
    (js "provisioning") [js "maxTenants", js "mode"]
  check (isText (Value.member provisioning (js "mode")) (js "administrators_only"))
    "invalid_provisioning"
  let _ ← boundedInteger (Value.member provisioning (js "maxTenants")) (js "maximum_tenants")
    1 1000000
  validateAdapterPolicy (Value.member installation (js "adapterPolicy"))

/-- One binding after those of the given capabilities. -/
def validateIntegration (allowedAdapterIds : List Value) (capabilities : List JsString)
    (entry : Value) : Verified JsString := do
  let integration ← exactObject entry (js "integration") [js "adapterId", js "adapterVersion",
    js "capability", js "configHash", js "configurationWithheld", js "revision",
    js "revisionCreatedAt", js "status"]
  let adapterId := Value.member integration (js "adapterId")
  let capability := Value.member integration (js "capability")
  let supported := (stringText adapterId).bind adapterCapabilities
  check (supported.any (isOneOf capability) && has allowedAdapterIds adapterId &&
    !isOneOf capability capabilities) "invalid_integration_binding"
  let _ ← safeToken tools (Value.member integration (js "adapterVersion")) (js "adapter_version")
    1 64
  let _ ← hash (Value.member integration (js "configHash")) (js "integration_config_hash")
  check (isTrue (Value.member integration (js "configurationWithheld")) &&
    isOneOf (Value.member integration (js "status")) [js "active", js "disabled"])
    "invalid_integration_state"
  let _ ← positiveInteger (Value.member integration (js "revision")) (js "integration_revision")
  let _ ← canonicalTimestamp (Value.member integration (js "revisionCreatedAt"))
    (js "integration_revision_created_at")
  return (stringText capability).getD []

def validateIntegrationList (allowedAdapterIds : List Value) (capabilities : List JsString) :
    List Value → Verified Unit
  | [] => .ok ()
  | entry :: rest => do
      let capability ← validateIntegration tools allowedAdapterIds capabilities entry
      validateIntegrationList allowedAdapterIds (capability :: capabilities) rest

def validateIntegrations (value : Value) (allowedAdapterIds : List Value) : Verified Unit :=
  match value with
  | .array entries => do
      check (entries.length ≤ SUPPORTED_CAPABILITIES.length) "invalid_integrations"
      validateIntegrationList tools allowedAdapterIds [] entries
  | _ => fail (js "invalid_integrations")

def validateProductionStop (value : Value) : Verified Unit :=
  match value with
  | .null => .ok ()
  | _ => do
      let stop ← exactObject value (js "production_stop") [js "effects", js "eventHash",
        js "gateId", js "reasonCode", js "resultingAdmissionRevision",
        js "resultingAdmissionStatus", js "stoppedAt"]
      let _ ← hash (Value.member stop (js "eventHash")) (js "production_stop_event_hash")
      check (isOneOf (Value.member stop (js "gateId")) (Gate.all.map gateName) &&
        isOneOf (Value.member stop (js "reasonCode")) TENANT_PRODUCTION_STOP_REASONS &&
        isOneOf (Value.member stop (js "resultingAdmissionStatus")) [js "admitted", js "pending"])
        "invalid_production_stop"
      let _ ← positiveInteger (Value.member stop (js "resultingAdmissionRevision"))
        (js "production_stop_admission_revision")
      let _ ← canonicalTimestamp (Value.member stop (js "stoppedAt"))
        (js "production_stop_timestamp")
      let effects ← exactObject (Value.member stop (js "effects")) (js "production_stop_effects")
        [js "revokedAssignmentCount", js "revokedRequestCount", js "suppressedNotificationCount"]
      checkAll (fun entry : JsString × Value => do
        let _ ← boundedInteger entry.2 (js "production_stop_count") 0 1000000000
        return ()) (propertyOrder effects)

/-- The names of the gates in one of the two states. -/
def gatesWhere (admission : TenantAdmission) (approved : Bool) : List JsString :=
  (Gate.all.filter fun gate => (admission.state gate).isApproved == approved).map gateName

def validateReadiness (value : Value) (admission : TenantAdmission) : Verified Unit := do
  let readiness ← exactObject value (js "readiness") [js "approvedGateIds", js "classification",
    js "externalReviewRequired", js "pendingGateIds", js "technicalAdmissionStatus"]
  check (isText (Value.member readiness (js "classification"))
      (js "recorded_evidence_not_certification") &&
    isTrue (Value.member readiness (js "externalReviewRequired")) &&
    isText (Value.member readiness (js "technicalAdmissionStatus")) (admissionStatus admission))
    "invalid_readiness_state"
  check (sameArray (Value.member readiness (js "approvedGateIds")) (gatesWhere admission true) &&
    sameArray (Value.member readiness (js "pendingGateIds")) (gatesWhere admission false))
    "inconsistent_readiness_gates"

/-- The pattern of a UUID in either case. -/
def isUuidText (text : JsString) : Bool :=
  text.length == 36 && text.zipIdx.all fun entry =>
    if entry.2 ∈ [8, 13, 18, 23] then entry.1 = 45
    else if entry.2 = 14 then 49 ≤ entry.1.val && entry.1.val ≤ 56
    else if entry.2 = 19 then asciiLower entry.1 ∈ [56, 57, 97, 98]
    else isLowerHex (asciiLower entry.1)

/-- The measure of one resource against its quota. -/
def validateResource (resources : Members) (limit : ℕ) (resource : JsString) : Verified Unit := do
  let measure ← exactObject (Value.member resources resource) (js "tenant_resource")
    [js "available", js "limit", js "used"]
  let used ← boundedInteger (Value.member measure (js "used")) (js "resource_used") 0
    MAX_SAFE_INTEGER
  let exactly (value : Value) (expected : ℕ) : Bool :=
    match value with
    | .number number => number.toRat? = some (expected : ℚ)
    | _ => false
  check (exactly (Value.member measure (js "limit")) limit &&
    exactly (Value.member measure (js "available")) (limit - used)) "tenant_resource_mismatch"

/-- The values of the quotas, each in its range. -/
def validateQuotas (quotas : Members) : List (JsString × ℕ × ℕ) →
    Verified (List (JsString × ℕ))
  | [] => .ok []
  | (name, minimum, maximum) :: rest => do
      let quota ← boundedInteger (Value.member quotas name) name minimum maximum
      let later ← validateQuotas quotas rest
      return (name, quota) :: later

def validateTenant (value : Value) : Verified Unit := do
  let tenant ← exactObject value (js "tenant")
    [js "id", js "name", js "profile", js "slug", js "status", js "usage"]
  let id := Value.member tenant (js "id")
  let _ ← textField isUuidText id (js "tenant_id")
  let _ ← safeString tools (Value.member tenant (js "name")) (js "tenant_name") 2 160
  check ((stringText (Value.member tenant (js "slug"))).any isSlug) "invalid_tenant_slug"
  check (isOneOf (Value.member tenant (js "status")) [js "active", js "disabled"])
    "invalid_tenant_status"
  let profile ← exactObject (Value.member tenant (js "profile")) (js "tenant_profile")
    [js "defaultRetentionProfile", js "profileHash", js "quotas", js "revision"]
  let _ ← safeToken tools (Value.member profile (js "defaultRetentionProfile"))
    (js "retention_profile") 1 128
  let profileHash ← hash (Value.member profile (js "profileHash")) (js "tenant_profile_hash")
  let revision ← positiveInteger (Value.member profile (js "revision"))
    (js "tenant_profile_revision")
  let members ← exactObject (Value.member profile (js "quotas")) (js "tenant_quotas")
    (QUOTA_LIMITS.map Prod.fst)
  let quotas ← validateQuotas members QUOTA_LIMITS
  let quota (name : JsString) : ℕ := (quotas.lookup name).getD 0
  check (decide (quota (js "maxArtifactBytesPerArtifact") ≤ quota (js "maxArtifactBytes")))
    "invalid_artifact_quota"
  let usage ← exactObject (Value.member tenant (js "usage")) (js "tenant_usage")
    [js "profileHash", js "profileRevision", js "resources", js "tenantId"]
  check (isText (Value.member usage (js "profileHash")) profileHash &&
    (match Value.member usage (js "profileRevision") with
      | .number number => number.toRat? = some (revision : ℚ)
      | _ => false) &&
    sameText (Value.member usage (js "tenantId")) id) "tenant_usage_binding_mismatch"
  let resources ← exactObject (Value.member usage (js "resources")) (js "tenant_resources")
    (RESOURCE_QUOTAS.map Prod.fst)
  checkAll (fun entry : JsString × JsString =>
    validateResource resources (quota entry.2) entry.1) RESOURCE_QUOTAS

def validateDossier (value : Value) : Verified Unit := do
  let dossier ← exactObject value (js "dossier") [js "admission", js "installation",
    js "integrations", js "lastProductionStop", js "limitations", js "readiness", js "schema",
    js "tenant"]
  check (isText (Value.member dossier (js "schema")) DOSSIER_SCHEMA) "unsupported_dossier_schema"
  let admission ← validateAdmission tools (Value.member dossier (js "admission"))
  let allowedAdapterIds ← validateInstallation tools (Value.member dossier (js "installation"))
  validateIntegrations tools (Value.member dossier (js "integrations")) allowedAdapterIds
  validateProductionStop (Value.member dossier (js "lastProductionStop"))
  check (sameArray (Value.member dossier (js "limitations")) READINESS_DOSSIER_LIMITATIONS)
    "invalid_limitations"
  validateReadiness (Value.member dossier (js "readiness")) admission
  validateTenant tools (Value.member dossier (js "tenant"))

/-! ## The attestation and its seals -/

structure SigningKey where
  fingerprint : JsString
  keyId : JsString
  certificate : Bool

/-- One signing key after those with the given roles and identifiers; the first is the
integrity key. -/
def validateSigningKey (seen : List SigningKey) (entry : Value) : Verified SigningKey := do
  let key ← exactObject entry (js "attestation_signing_key")
    [js "fingerprint", js "keyId", js "role"]
  let fingerprint ← hash (Value.member key (js "fingerprint")) (js "attestation_key_fingerprint")
  let keyId ← safeToken tools (Value.member key (js "keyId")) (js "attestation_key_id") 1 128
  let role := Value.member key (js "role")
  let certificate := isText role (js "certificate")
  check ((isText role (js "vasi_integrity") || certificate) &&
    !(seen.any fun other => other.certificate == certificate || other.keyId == keyId) &&
    !(seen.isEmpty && certificate)) "invalid_attestation_signing_key"
  return ⟨fingerprint, keyId, certificate⟩

def validateSigningKeys (seen : List SigningKey) : List Value → Verified (List SigningKey)
  | [] => .ok []
  | entry :: rest => do
      let key ← validateSigningKey tools seen entry
      let later ← validateSigningKeys (key :: seen) rest
      return key :: later

def validateReadinessAttestation (value : Value) : Verified (List SigningKey) := do
  let attestation ← exactObject value (js "attestation") [js "auditEventHash", js "capturedAt",
    js "dossierHash", js "dossierSchema", js "exportSchema", js "format", js "schema",
    js "signingKeys"]
  check (isText (Value.member attestation (js "schema")) READINESS_ATTESTATION_SCHEMA &&
    isText (Value.member attestation (js "dossierSchema")) DOSSIER_SCHEMA &&
    isText (Value.member attestation (js "exportSchema")) SIGNED_READINESS_EXPORT_SCHEMA &&
    isOneOf (Value.member attestation (js "format")) [js "html", js "json"])
    "invalid_attestation_contract"
  let _ ← hash (Value.member attestation (js "auditEventHash")) (js "attestation_audit_event_hash")
  let _ ← canonicalTimestamp (Value.member attestation (js "capturedAt"))
    (js "attestation_captured_at")
  let _ ← hash (Value.member attestation (js "dossierHash")) (js "attestation_dossier_hash")
  match Value.member attestation (js "signingKeys") with
  | .array entries => do
      check (1 ≤ entries.length && entries.length ≤ 2) "invalid_attestation_signing_keys"
      validateSigningKeys tools [] entries
  | _ => fail (js "invalid_attestation_signing_keys")

def validatePublicJWK (value : Value) (name : JsString) : Verified Unit := do
  match value with
  | .object _ =>
      if 4096 < (encode ((stringify value).getD [])).length then invalidField name
      else
        let kty := value.get (js "kty")
        if isText kty (js "OKP") then
          let _ ← exactObject value name [js "crv", js "kty", js "x"]
          if isText (value.get (js "crv")) (js "Ed25519") then
            let _ ← base64url (value.get (js "x")) name 43 43
            return ()
          else invalidField name
        else if isText kty (js "EC") then
          let _ ← exactObject value name [js "crv", js "kty", js "x", js "y"]
          if isOneOf (value.get (js "crv")) [js "P-256", js "P-384", js "P-521"] then
            let _ ← base64url (value.get (js "x")) name 40 100
            let _ ← base64url (value.get (js "y")) name 40 100
            return ()
          else invalidField name
        else if isText kty (js "RSA") then
          let _ ← exactObject value name [js "e", js "kty", js "n"]
          let _ ← base64url (value.get (js "e")) name 2 16
          let _ ← base64url (value.get (js "n")) name 128 1024
          return ()
        else invalidField name
  | _ => invalidField name

def validateReadinessIntegritySeal (attestation value : Value) : Verified Unit := do
  let sealed ← exactObject value (js "integrity_seal") [js "algorithm", js "keyId",
    js "manifestHash", js "profile", js "publicJWK", js "role", js "signature"]
  check (isText (Value.member sealed (js "algorithm")) (js "Ed25519") &&
    isText (Value.member sealed (js "profile")) READINESS_DOSSIER_SEAL_PROFILE &&
    isText (Value.member sealed (js "role")) (js "vasi_integrity")) "invalid_integrity_seal_contract"
  let _ ← safeToken tools (Value.member sealed (js "keyId")) (js "integrity_seal_key_id") 1 128
  let _ ← hash (Value.member sealed (js "manifestHash")) (js "integrity_seal_manifest_hash")
  let publicJWK := Value.member sealed (js "publicJWK")
  validatePublicJWK publicJWK (js "integrity_seal_public_key")
  check (isText (publicJWK.get (js "kty")) (js "OKP") &&
    isText (publicJWK.get (js "crv")) (js "Ed25519")) "invalid_integrity_seal_public_key"
  let _ ← base64url (Value.member sealed (js "signature")) (js "integrity_seal_signature") 86 86
  check (tools.verifyDetachedIntegritySeal attestation value) "invalid_integrity_seal_signature"

def boundedCertificateText (value : Value) (name : JsString) : Verified Unit := do
  let _ ← textField (fun text => text ≠ [] && text.length ≤ 4096 && !text.contains 0) value name
  return ()

/-- A certificate in PEM form. -/
def isPem (text : JsString) : Bool :=
  let opening := js "-----BEGIN CERTIFICATE-----" ++ [10]
  let closing := [10] ++ js "-----END CERTIFICATE-----"
  let body := (text.drop opening.length).take (text.length - opening.length - closing.length)
  text.length ≤ 100000 && opening.isPrefixOf text && closing.isSuffixOf text &&
    opening.length + closing.length < text.length &&
    body.all fun unit => isLowerLetter unit || isUpperLetter unit || isDigit unit ||
      unit.val ∈ [43, 47, 61, 10]

def validateCertificateChain (value : Value) : Verified Unit :=
  match value with
  | .array chain => do
      check (1 ≤ chain.length && chain.length ≤ 10) "invalid_certificate_chain"
      check (chain.all fun pem => (stringText pem).any isPem) "invalid_certificate_chain"
      check (decide (((chain.filterMap stringText).map fun pem => (encode pem).length).sum ≤
        1000000)) "invalid_certificate_seal_signature"
  | _ => fail (js "invalid_certificate_chain")

def validateReadinessCertificateSeal (attestation value : Value) : Verified Unit := do
  let sealed ← exactObject value (js "certificate_seal") [js "algorithm", js "certificate",
    js "certificateChain", js "keyId", js "manifestHash", js "profile", js "publicJWK", js "role",
    js "signature", js "validationScope"]
  check (isOneOf (Value.member sealed (js "algorithm"))
      [js "Ed25519", js "ECDSA-SHA256", js "RSA-SHA256"] &&
    isText (Value.member sealed (js "profile")) (js "vasi-certificate-sealed/v1") &&
    isText (Value.member sealed (js "role")) (js "certificate") &&
    isText (Value.member sealed (js "validationScope")) (js "leaf_signature_and_key_match"))
    "invalid_certificate_seal_contract"
  let _ ← safeToken tools (Value.member sealed (js "keyId")) (js "certificate_seal_key_id") 1 128
  let _ ← hash (Value.member sealed (js "manifestHash")) (js "certificate_seal_manifest_hash")
  validatePublicJWK (Value.member sealed (js "publicJWK")) (js "certificate_seal_public_key")
  let _ ← base64url (Value.member sealed (js "signature")) (js "certificate_seal_signature") 64 2048
  let certificate ← exactObject (Value.member sealed (js "certificate")) (js "certificate_metadata")
    [js "fingerprint256", js "issuer", js "serialNumber", js "subject", js "validFrom",
      js "validTo"]
  let _ ← hash (Value.member certificate (js "fingerprint256")) (js "certificate_fingerprint")
  boundedCertificateText (Value.member certificate (js "issuer")) (js "certificate_issuer")
  boundedCertificateText (Value.member certificate (js "subject")) (js "certificate_subject")
  check ((stringText (Value.member certificate (js "serialNumber"))).any fun text =>
    text ≠ [] && text.length ≤ 256 && text.all fun unit => isLowerHex (asciiLower unit))
    "invalid_certificate_serial"
  let _ ← canonicalTimestamp (Value.member certificate (js "validFrom"))
    (js "certificate_valid_from")
  let _ ← canonicalTimestamp (Value.member certificate (js "validTo")) (js "certificate_valid_to")
  validateCertificateChain (Value.member sealed (js "certificateChain"))
  check (tools.verifyCertificateSeal attestation value) "invalid_certificate_seal_signature"

def readinessSealFingerprint (certificate : Bool) (sealed : Value) : Verified JsString :=
  contentHash tools (.object [
    (js "certificateChain", if certificate then sealed.get (js "certificateChain") else .undefined),
    (js "publicJWK", sealed.get (js "publicJWK"))])

/-- The seals of an attestation, one for each of its signing keys. -/
def validateSealList (attestation : Value) : List SigningKey → List Value → Verified Unit
  | expected :: keys, sealed :: seals => do
      if expected.certificate then validateReadinessCertificateSeal tools attestation sealed
      else validateReadinessIntegritySeal tools attestation sealed
      let fingerprint ← readinessSealFingerprint tools expected.certificate sealed
      check (isText (sealed.get (js "keyId")) expected.keyId && fingerprint == expected.fingerprint)
        "readiness_seal_key_mismatch"
      validateSealList attestation keys seals
  | [], [] => .ok ()
  | _, _ => fail (js "invalid_readiness_seals")

def validateReadinessSeals (attestation : Value) (keys : List SigningKey) (value : Value) :
    Verified Unit :=
  match value with
  | .array seals => do
      check (seals.length == keys.length) "invalid_readiness_seals"
      validateSealList tools attestation keys seals
  | _ => fail (js "invalid_readiness_seals")

/-! ## The export -/

/-- The keys of an export of either schema. -/
def exportKeys (value : Value) : Verified (List JsString) :=
  let common := [js "auditEventHash", js "capturedAt", js "dossier", js "dossierHash",
    js "format", js "schema"]
  if isText (value.get (js "schema")) LEGACY_EXPORT_SCHEMA then .ok common
  else if isText (value.get (js "schema")) SIGNED_READINESS_EXPORT_SCHEMA then
    .ok (common ++ [js "attestation", js "seals"])
  else fail (js "unsupported_export_schema")

def isSigned (exported : Members) : Bool :=
  isText (Value.member exported (js "schema")) SIGNED_READINESS_EXPORT_SCHEMA

/-- What a signed export carries besides a legacy one. -/
def validateSignature (exported : Members) : Verified Unit := do
  let attestation := Value.member exported (js "attestation")
  let keys ← validateReadinessAttestation tools attestation
  check ([js "auditEventHash", js "capturedAt", js "dossierHash", js "format"].all (fun key =>
      sameText (attestation.get key) (Value.member exported key)) &&
    sameText (attestation.get (js "dossierSchema"))
      ((Value.member exported (js "dossier")).get (js "schema")) &&
    sameText (attestation.get (js "exportSchema")) (Value.member exported (js "schema")))
    "attestation_binding_mismatch"
  validateReadinessSeals tools attestation keys (Value.member exported (js "seals"))

def validateReadinessExport (value : Value) : Verified Members := do
  let keys ← exportKeys value
  let exported ← exactObject value (js "export") keys
  let _ ← hash (Value.member exported (js "auditEventHash")) (js "audit_event_hash")
  let _ ← canonicalTimestamp (Value.member exported (js "capturedAt")) (js "captured_at")
  let dossierHash ← hash (Value.member exported (js "dossierHash")) (js "dossier_hash")
  check (isOneOf (Value.member exported (js "format")) [js "html", js "json"])
    "unsupported_export_format"
  validateDossier tools (Value.member exported (js "dossier"))
  let actual ← contentHash tools (Value.member exported (js "dossier"))
  check (actual == dossierHash) "dossier_hash_mismatch"
  if isSigned exported then validateSignature tools exported
  return exported

/-- readinessExportJSON of a validated export. -/
def printedExport (exported : Value) : JsString := template (prettyText [] exported) ++ [10]

/-! ## Files -/

def scriptOpening : JsString :=
  js "<script type=\"application/json\" id=\"vasi-readiness-export\">"

def scriptClosing : JsString := js "</script>"

/-- What stands between the tags of an embedding at the start of a text. -/
def embeddingAt (text : JsString) : Option JsString :=
  if scriptOpening.isPrefixOf text then
    let rest := text.drop scriptOpening.length
    let inside := rest.takeWhile (· ≠ 60)
    if scriptClosing.isPrefixOf (rest.drop inside.length) then some inside else none
  else none

/-- The embeddings of a page from left to right, none inside another. The number
counts the code units of the last one that are still to be passed. -/
def embeddings : ℕ → JsString → List JsString
  | _, [] => []
  | passed + 1, _ :: rest => embeddings passed rest
  | 0, unit :: rest =>
      match embeddingAt (unit :: rest) with
      | some inside =>
          inside :: embeddings (scriptOpening.length + inside.length + scriptClosing.length - 1)
            rest
      | none => embeddings 0 rest

def parseJSON (text : JsString) (code : String) : Verified Value :=
  match parse text with
  | some value => .ok value
  | none => fail (js code)

/-- The one embedding of a page. -/
def embedded (text : JsString) (code : String) : Verified JsString :=
  match embeddings 0 text with
  | [inside] => .ok inside
  | _ => fail (js code)

def startsAsJSON (text : JsString) : Bool := (js "\x7b" ++ [10]).isPrefixOf text

def startsAsHTML (text : JsString) : Bool := (js "<!doctype html>" ++ [10]).isPrefixOf text

/-- The export that a text carries in one of the two formats, and whether it is JSON. -/
def carriedExport (text : JsString) : Verified (Members × Bool) :=
  if startsAsJSON text then do
    let value ← parseJSON text "invalid_json_export"
    let exported ← validateReadinessExport tools value
    check (isText (Value.member exported (js "format")) (js "json") &&
      printedExport value == text) "noncanonical_json_export"
    return (exported, true)
  else if startsAsHTML text then do
    let inside ← embedded text "invalid_html_embedding"
    let value ← parseJSON inside "invalid_html_export"
    let exported ← validateReadinessExport tools value
    check (isText (Value.member exported (js "format")) (js "html") &&
      tools.renderReadinessDossierHTML value == text) "html_presentation_mismatch"
    return (exported, false)
  else fail (js "unsupported_file_format")

/-- The fingerprint of the integrity key of a signed export. -/
def integrityKeyFingerprint (exported : Members) : Option JsString :=
  if isSigned exported then
    match (Value.member exported (js "attestation")).get (js "signingKeys") with
    | .array keys => (keys.find? fun key => isText (key.get (js "role")) (js "vasi_integrity")).bind
        fun key => stringText (key.get (js "fingerprint"))
    | _ => none
  else none

/-- An expectation that is left out, or a hash that has to be met. -/
def expectedHash (expected : Value) (name : JsString) (actual : Option JsString)
    (unavailable mismatch : String) : Verified Bool :=
  match expected with
  | .undefined => .ok false
  | _ => do
      let wanted ← hash expected name
      check actual.isSome unavailable
      check (actual == some wanted) mismatch
      return true

structure DossierVerification where
  dossierSha256 : Option JsString
  expectedDigest : Bool
  expectedKeyFingerprint : Bool
  json : Bool
  integrityKeyFingerprint : Option JsString
  integritySeal : Bool

/-- The text of a file that is decoded strictly. -/
def decodedText (bytes : List Byte) : Verified JsString :=
  match decodeFatal bytes with
  | some text => .ok text
  | none => fail (js "invalid_utf8")

def verifyReadinessDossierBytes (expectedDigest expectedKeyFingerprint : Value)
    (bytes : List Byte) : Verified DossierVerification := do
  check (bytes ≠ [] && bytes.length ≤ MAXIMUM_READINESS_DOSSIER_BYTES) "invalid_file_size"
  let text ← decodedText bytes
  check (!text.contains 0) "invalid_text"
  let (exported, json) ← carriedExport tools text
  let digest := stringText (Value.member exported (js "dossierHash"))
  let expected ← expectedHash expectedDigest (js "expected_digest") digest
    "expected_digest_mismatch" "expected_digest_mismatch"
  let fingerprint := integrityKeyFingerprint exported
  let expectedKey ← expectedHash expectedKeyFingerprint (js "expected_key_fingerprint") fingerprint
    "expected_key_unavailable" "expected_key_mismatch"
  return ⟨digest, expected, expectedKey, json, fingerprint, isSigned exported⟩

end Tools

end Vasi.ReadinessDossier
