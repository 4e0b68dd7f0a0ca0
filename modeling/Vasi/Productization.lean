import Vasi.Admission
import Vasi.CanonicalJson

/-!
# Product configuration

The profiles of the installation and of its tenants, and the admission document
of a tenant, as their validators accept and normalise them. A profile is
validated when it is written and again each time it is read.

Unicode normalisation and lower-casing are parameters with the properties of
the standard that the validators rest on: normal forms are closed under taking
a part of a string, both maps leave lower-case ASCII as it is, and composing a
lower-case string gives a lower-case string. Nothing says that lower-casing a
normalised string gives a normalised string, because it does not.
-/
namespace Vasi.Productization

open JsValue Validation CanonicalJson IsoTime Admission

/-! ## Text -/

def isAscii (text : JsString) : Bool := text.all fun unit => unit.val < 128

/-- The lower-case letter of an ASCII capital. -/
def asciiLower (unit : CodeUnit) : CodeUnit :=
  if isUpperLetter unit then Fin.ofNat 65536 (unit.val + 32) else unit

/-- String.prototype.normalize("NFC") and String.prototype.toLowerCase. -/
structure TextPlatform where
  normalizeNFC : JsString → JsString
  toLowerCase : JsString → JsString
  normalizeNFC_idem : ∀ text, normalizeNFC (normalizeNFC text) = normalizeNFC text
  normalizeNFC_part : ∀ part text : JsString, part.IsInfix text → normalizeNFC text = text →
    normalizeNFC part = part
  normalizeNFC_ascii : ∀ text, isAscii text = true → normalizeNFC text = text
  normalizeNFC_visible : ∀ text, text.any isWhiteSpace = false →
    (normalizeNFC text).any isWhiteSpace = false
  toLowerCase_idem : ∀ text, toLowerCase (toLowerCase text) = toLowerCase text
  toLowerCase_ascii : ∀ text, isAscii text = true → toLowerCase text = text.map asciiLower
  toLowerCase_length : ∀ text, isAscii (toLowerCase text) = true →
    (toLowerCase text).length = text.length
  toLowerCase_control : ∀ text, text.any isControl = false →
    (toLowerCase text).any isControl = false
  toLowerCase_normalizeNFC : ∀ text,
    toLowerCase (normalizeNFC (toLowerCase text)) = normalizeNFC (toLowerCase text)

section Validators

variable (platform : TextPlatform)

def invalid (message : JsString) : Failure := ⟨js "INVALID_PRODUCT_CONFIGURATION", message⟩

def strictObject := strictObjectWith invalid

def safeInteger := safeIntegerWith invalid

def boundedString (value : Value) (field : JsString) (minimum maximum : ℕ) : Checked JsString :=
  match value with
  | .string text =>
      let normalized := trim (platform.normalizeNFC text)
      if normalized.length < minimum ∨ normalized.length > maximum ∨
          normalized.any isControl = true then
        .error (invalid (field ++ js " must contain " ++ decimal minimum ++ js " to " ++
          decimal maximum ++ js " safe characters."))
      else .ok normalized
  | _ => .error (invalid (field ++ js " must be a string."))

/-- A bounded string that a pattern accepts. -/
def patternString (value : Value) (field : JsString) (maximum : ℕ) (pattern : JsString → Bool)
    (message : JsString) : Checked JsString := do
  let normalized ← boundedString platform value field 1 maximum
  if pattern normalized then return normalized else .error (invalid message)

/-- The pattern ^[A-Za-z0-9._:-]+$. -/
def isToken (text : JsString) : Bool := text.all isTokenUnit

def token (value : Value) (field : JsString) : Checked JsString :=
  patternString platform value field 128 isToken (js "The " ++ field ++ js " is invalid.")

def admissionReference (value : Value) (field : JsString) : Checked JsString :=
  patternString platform value field 160 isToken
    (js "The " ++ field ++ js " must be an opaque identifier, not a URL or narrative.")

/-- The pattern ^[a-z][a-z0-9_-]*$. -/
def isProfileName : JsString → Bool
  | [] => false
  | first :: rest => isLowerLetter first &&
      rest.all fun unit => isLowerLetter unit || isDigit unit || unit.val ∈ [95, 45]

def profileName (value : Value) : Checked JsString :=
  patternString platform value (js "defaultRetentionProfile") 128 isProfileName
    (js "The default retention profile name is invalid.")

def isLowerHex (unit : CodeUnit) : Bool := isDigit unit || (97 ≤ unit.val && unit.val ≤ 102)

/-- The pattern ^[a-f0-9]\x7b64\x7d$. -/
def isDigest (text : JsString) : Bool := text.length == 64 && text.all isLowerHex

def sha256 (value : Value) (field : JsString) : Checked JsString :=
  match value with
  | .string text =>
      if isDigest text then .ok text
      else .error (invalid (js "The " ++ field ++ js " must be a lowercase SHA-256 digest."))
  | _ => .error (invalid (js "The " ++ field ++ js " must be a lowercase SHA-256 digest."))

/-- The pattern ^#[0-9a-f]\x7b6\x7d$ in either case. -/
def isColor : JsString → Bool
  | [] => false
  | first :: rest => first = 35 && rest.length == 6 && rest.all fun unit =>
      isLowerHex (asciiLower unit)

def color (value : Value) (field : JsString) : Checked JsString :=
  match value with
  | .string text =>
      if isColor text then .ok (platform.toLowerCase text)
      else .error (invalid (js "The " ++ field ++ js " is invalid."))
  | _ => .error (invalid (js "The " ++ field ++ js " is invalid."))

/-- The pattern ^[^@\s]+@[^@\s]+$. -/
def isEmail (text : JsString) : Bool :=
  let domain := (text.dropWhile fun unit => unit ≠ 64).tail
  text.takeWhile (fun unit => unit ≠ 64) ≠ [] && domain ≠ [] && domain.all (fun unit => unit ≠ 64) &&
    text.all fun unit => !isWhiteSpace unit

def email (value : Value) (field : JsString) : Checked JsString := do
  let normalized ← boundedString platform value field 3 320
  let lowered := platform.toLowerCase normalized
  if isEmail lowered then return lowered
  else .error (invalid (js "The " ++ field ++ js " is invalid."))

def optionalEmail (value : Value) (field : JsString) : Checked (Option JsString) :=
  match value with
  | .undefined | .null | .string [] => .ok none
  | _ => (email platform value field).map some

/-- The shape of a lower-case UUID: hexadecimal digits with four hyphens. -/
def isUuid (text : JsString) : Bool :=
  text.length == 36 &&
    (text.zipIdx.all fun entry =>
      if entry.2 ∈ [8, 13, 18, 23] then entry.1 = 45 else isLowerHex entry.1) &&
    text ≠ js "00000000-0000-0000-0000-000000000000"

def uuid (value : Value) (field : JsString) : Checked JsString :=
  let normalized := match value with
    | .string text => platform.toLowerCase (trim (platform.normalizeNFC text))
    | _ => []
  if isUuid normalized then .ok normalized
  else .error (invalid (js "The " ++ field ++ js " must be a UUID."))

/-- The pattern of host names and bracketed addresses, in either case. -/
def isHost (text : JsString) : Bool :=
  let alphanumeric (unit : CodeUnit) : Bool := isLowerLetter (asciiLower unit) || isDigit unit
  (text.length ≤ 253 && text.head?.any alphanumeric && text.getLast?.any alphanumeric &&
      text.all fun unit => alphanumeric unit || unit.val ∈ [46, 45]) ||
    (3 ≤ text.length && text.head? = some 91 && text.getLast? = some 93 &&
      text.tail.dropLast.all fun unit => isLowerHex (asciiLower unit) || unit = 58)

def hostEntry (value : Value) (field : JsString) : Checked JsString := do
  let normalized ← boundedString platform value field 1 253
  let lowered := platform.toLowerCase normalized
  if isHost lowered then return lowered
  else .error (invalid (js "The " ++ field ++ js " list contains an invalid host."))

/-- The distinct strings of a list in ascending order. -/
def sortedSet (texts : List JsString) : List JsString := texts.dedup.insertionSort (· ≤ ·)

/-- A list of at most 256 entries, each normalised, without repetition and sorted. -/
def allowedList (entry : Value → JsString → Checked JsString) (value : Value) (field : JsString) :
    Checked (List JsString) :=
  match value with
  | .array items =>
      if items.length > 256 then .error (invalid (js "The " ++ field ++ js " list is invalid."))
      else (items.mapM fun item => entry item field).map sortedSet
  | _ => .error (invalid (js "The " ++ field ++ js " list is invalid."))

def allowedHosts := allowedList (hostEntry platform)

def allowedUUIDs := allowedList (uuid platform)

def allowedEmails := allowedList (email platform)

/-- An optional allowlist. -/
def optionalList (list : Value → JsString → Checked (List JsString)) (value : Value)
    (field : JsString) : Checked (Option (List JsString)) :=
  if value.isUndefined then .ok none else (list value field).map some

end Validators

/-! ## Tenant profiles -/

def TENANT_PROFILE_SCHEMA : JsString := js "vasi-tenant-profile/v1"

/-- A validated tenant profile. -/
structure TenantProfile where
  accentColor : JsString
  displayName : JsString
  primaryColor : JsString
  shortName : JsString
  supportEmail : Option JsString
  defaultRetentionProfile : JsString
  maxActiveRequests : ℕ
  maxArtifactBytes : ℕ
  maxArtifactBytesPerArtifact : ℕ
  maxIntegrations : ℕ
  maxMembers : ℕ
  maxWorkflows : ℕ

def wholeNumber (value : ℕ) : Value := .number (.finite value)

/-- A string or null. -/
def nullableText : Option JsString → Value
  | some text => .string text
  | none => .null

def TenantProfile.branding (profile : TenantProfile) : Members :=
  [(js "accentColor", .string profile.accentColor),
   (js "displayName", .string profile.displayName),
   (js "primaryColor", .string profile.primaryColor),
   (js "shortName", .string profile.shortName),
   (js "supportEmail", nullableText profile.supportEmail)]

def TenantProfile.policies (profile : TenantProfile) : Members :=
  [(js "defaultRetentionProfile", .string profile.defaultRetentionProfile)]

def TenantProfile.quotas (profile : TenantProfile) : Members :=
  [(js "maxActiveRequests", wholeNumber profile.maxActiveRequests),
   (js "maxArtifactBytes", wholeNumber profile.maxArtifactBytes),
   (js "maxArtifactBytesPerArtifact", wholeNumber profile.maxArtifactBytesPerArtifact),
   (js "maxIntegrations", wholeNumber profile.maxIntegrations),
   (js "maxMembers", wholeNumber profile.maxMembers),
   (js "maxWorkflows", wholeNumber profile.maxWorkflows)]

def TenantProfile.members (profile : TenantProfile) : Members :=
  [(js "branding", .object profile.branding), (js "policies", .object profile.policies),
   (js "quotas", .object profile.quotas), (js "schema", .string TENANT_PROFILE_SCHEMA)]

/-- The profile as the document that is stored. -/
def TenantProfile.toValue (profile : TenantProfile) : Value := .object profile.members

/-- Whether a value is a given string. -/
def isText (value : Value) (text : JsString) : Bool :=
  match value with
  | .string other => other = text
  | _ => false

section Validators

variable (platform : TextPlatform)

def defaultTenantProfile (name : Value) : Checked TenantProfile := do
  let displayName ← boundedString platform name (js "name") 2 160
  return {
    accentColor := js "#2e5b4e"
    displayName
    primaryColor := js "#183e34"
    shortName := displayName.take 48
    supportEmail := none
    defaultRetentionProfile := js "tenant_default"
    maxActiveRequests := 10000
    maxArtifactBytes := 1073741824
    maxArtifactBytesPerArtifact := 52428800
    maxIntegrations := 8
    maxMembers := 100
    maxWorkflows := 500 }

def validateTenantProfile (value : Value) : Checked TenantProfile := do
  let input ← strictObject value (js "tenant profile")
    [js "branding", js "policies", js "quotas", js "schema"]
  if ¬ isText (Value.member input (js "schema")) TENANT_PROFILE_SCHEMA then
    .error (invalid (js "The tenant profile schema is unsupported."))
  else
    let branding ← strictObject (Value.member input (js "branding")) (js "tenant branding")
      [js "accentColor", js "displayName", js "primaryColor", js "shortName", js "supportEmail"]
    let policies ← strictObject (Value.member input (js "policies")) (js "tenant policies")
      [js "defaultRetentionProfile"]
    let quotas ← strictObject (Value.member input (js "quotas")) (js "tenant quotas")
      [js "maxActiveRequests", js "maxArtifactBytes", js "maxArtifactBytesPerArtifact",
       js "maxIntegrations", js "maxMembers", js "maxWorkflows"]
    let maxArtifactBytes ← safeInteger (Value.member quotas (js "maxArtifactBytes"))
      (js "maxArtifactBytes") 1048576 10995116277760
    let maxArtifactBytesPerArtifact ←
      safeInteger (Value.member quotas (js "maxArtifactBytesPerArtifact"))
        (js "maxArtifactBytesPerArtifact") 1024 1073741824
    if maxArtifactBytesPerArtifact > maxArtifactBytes then
      .error (invalid (js "The per-artifact limit cannot exceed total artifact storage."))
    else
      let accentColor ← color platform (Value.member branding (js "accentColor"))
        (js "accentColor")
      let displayName ← boundedString platform (Value.member branding (js "displayName"))
        (js "displayName") 2 160
      let primaryColor ← color platform (Value.member branding (js "primaryColor"))
        (js "primaryColor")
      let shortName ← boundedString platform (Value.member branding (js "shortName"))
        (js "shortName") 2 48
      let supportEmail ← optionalEmail platform (Value.member branding (js "supportEmail"))
        (js "supportEmail")
      let defaultRetentionProfile ←
        profileName platform (Value.member policies (js "defaultRetentionProfile"))
      let maxActiveRequests ← safeInteger (Value.member quotas (js "maxActiveRequests"))
        (js "maxActiveRequests") 1 1000000
      let maxIntegrations ← safeInteger (Value.member quotas (js "maxIntegrations"))
        (js "maxIntegrations") 0 100
      let maxMembers ← safeInteger (Value.member quotas (js "maxMembers")) (js "maxMembers")
        1 100000
      let maxWorkflows ← safeInteger (Value.member quotas (js "maxWorkflows")) (js "maxWorkflows")
        1 100000
      return { accentColor, displayName, primaryColor, shortName, supportEmail,
               defaultRetentionProfile, maxActiveRequests, maxArtifactBytes,
               maxArtifactBytesPerArtifact, maxIntegrations, maxMembers, maxWorkflows }

end Validators

/-! ## Installation profiles -/

def INSTALLATION_PROFILE_SCHEMA : JsString := js "vasi-installation-profile/v1"

/-- The identifiers of BUILT_IN_ADAPTERS. -/
def BUILT_IN_ADAPTERS : List JsString :=
  [js "disabled", js "scan_disabled", js "https_malware_scanner", js "microsoft_graph", js "smtp",
   js "webhook"]

/-- A validated installation profile. -/
structure InstallationProfile where
  allow : List JsString
  microsoftGraphAllowedClientIds : Option (List JsString)
  microsoftGraphAllowedSenders : Option (List JsString)
  microsoftGraphAllowedTenantIds : Option (List JsString)
  malwareScannerAllowedHosts : Option (List JsString)
  smtpAllowedHosts : List JsString
  webhookAllowedHosts : List JsString
  saas : Bool
  organizationName : JsString
  productName : JsString
  supportEmail : JsString
  maxTenants : ℕ

def textList (texts : List JsString) : Value := .array (texts.map .string)

/-- A member that is left out when the list is absent. -/
def optionalTextList : Option (List JsString) → Value
  | some texts => textList texts
  | none => .undefined

def deploymentMode (saas : Bool) : JsString := if saas then js "saas" else js "self_hosted"

def InstallationProfile.adapters (profile : InstallationProfile) : Members :=
  [(js "allow", textList profile.allow),
   (js "microsoftGraphAllowedClientIds", optionalTextList profile.microsoftGraphAllowedClientIds),
   (js "microsoftGraphAllowedSenders", optionalTextList profile.microsoftGraphAllowedSenders),
   (js "microsoftGraphAllowedTenantIds", optionalTextList profile.microsoftGraphAllowedTenantIds),
   (js "malwareScannerAllowedHosts", optionalTextList profile.malwareScannerAllowedHosts),
   (js "smtpAllowedHosts", textList profile.smtpAllowedHosts),
   (js "webhookAllowedHosts", textList profile.webhookAllowedHosts)]

def InstallationProfile.deployment (profile : InstallationProfile) : Members :=
  [(js "engineDatabaseBoundary", .string (js "dedicated")),
   (js "mode", .string (deploymentMode profile.saas)),
   (js "publicIngress", .string (js "gateway_only"))]

def InstallationProfile.product (profile : InstallationProfile) : Members :=
  [(js "organizationName", .string profile.organizationName),
   (js "productName", .string profile.productName),
   (js "supportEmail", .string profile.supportEmail)]

def InstallationProfile.provisioning (profile : InstallationProfile) : Members :=
  [(js "maxTenants", wholeNumber profile.maxTenants),
   (js "mode", .string (js "administrators_only"))]

def InstallationProfile.members (profile : InstallationProfile) : Members :=
  [(js "adapters", .object profile.adapters), (js "deployment", .object profile.deployment),
   (js "product", .object profile.product), (js "provisioning", .object profile.provisioning),
   (js "schema", .string INSTALLATION_PROFILE_SCHEMA)]

/-- The profile as the document that is stored. -/
def InstallationProfile.toValue (profile : InstallationProfile) : Value := .object profile.members

/-- defaultInstallationProfile with the destinations of a legacy configuration. -/
def installationProfileWithLegacyDestinations (smtpHosts webhookHosts : List JsString) :
    InstallationProfile where
  allow := BUILT_IN_ADAPTERS
  microsoftGraphAllowedClientIds := some []
  microsoftGraphAllowedSenders := some []
  microsoftGraphAllowedTenantIds := some []
  malwareScannerAllowedHosts := some []
  smtpAllowedHosts := smtpHosts
  webhookAllowedHosts := webhookHosts
  saas := false
  organizationName := js "VASI"
  productName := js "V·Sign"
  supportEmail := js "support@example.invalid"
  maxTenants := 1000

section Validators

variable (platform : TextPlatform)

/-- The adapter allowlist: supported adapters, the disabled one among them. -/
def adapterAllowlist (value : Value) : Checked (List JsString) :=
  match value with
  | .array items =>
      if items.length = 0 ∨ items.length > BUILT_IN_ADAPTERS.length then
        .error (invalid (js "The installation adapter allowlist is invalid."))
      else do
        let allow := sortedSet (← items.mapM fun item => token platform item (js "adapter"))
        if (∃ id ∈ allow, id ∉ BUILT_IN_ADAPTERS) ∨ js "disabled" ∉ allow then
          .error (invalid
            (js "The installation adapter allowlist contains an unsupported adapter."))
        else return allow
  | _ => .error (invalid (js "The installation adapter allowlist is invalid."))

def validateInstallationProfile (value : Value) : Checked InstallationProfile := do
  let input ← strictObject value (js "installation profile")
    [js "adapters", js "deployment", js "product", js "provisioning", js "schema"]
  if ¬ isText (Value.member input (js "schema")) INSTALLATION_PROFILE_SCHEMA then
    .error (invalid (js "The installation profile schema is unsupported."))
  else
    let deployment ← strictObject (Value.member input (js "deployment"))
      (js "installation deployment")
      [js "engineDatabaseBoundary", js "mode", js "publicIngress"]
    let mode := Value.member deployment (js "mode")
    if ¬ isText mode (js "self_hosted") ∧ ¬ isText mode (js "saas") then
      .error (invalid (js "The deployment mode is unsupported."))
    else if ¬ isText (Value.member deployment (js "engineDatabaseBoundary")) (js "dedicated") then
      .error (invalid (js "The private engine requires a dedicated database boundary."))
    else if ¬ isText (Value.member deployment (js "publicIngress")) (js "gateway_only") then
      .error (invalid (js "The public ingress must terminate at the identity gateway."))
    else
      let product ← strictObject (Value.member input (js "product")) (js "installation product")
        [js "organizationName", js "productName", js "supportEmail"]
      let provisioning ← strictObject (Value.member input (js "provisioning"))
        (js "installation provisioning") [js "maxTenants", js "mode"]
      if ¬ isText (Value.member provisioning (js "mode")) (js "administrators_only") then
        .error (invalid (js "Only administrator-controlled tenant provisioning is supported."))
      else
        let adapters ← strictObject (Value.member input (js "adapters"))
          (js "installation adapters")
          [js "allow", js "microsoftGraphAllowedClientIds", js "microsoftGraphAllowedSenders",
           js "microsoftGraphAllowedTenantIds", js "malwareScannerAllowedHosts",
           js "smtpAllowedHosts", js "webhookAllowedHosts"]
        let allow ← adapterAllowlist platform (Value.member adapters (js "allow"))
        let microsoftGraphAllowedClientIds ← optionalList (allowedUUIDs platform)
          (Value.member adapters (js "microsoftGraphAllowedClientIds"))
          (js "microsoftGraphAllowedClientIds")
        let microsoftGraphAllowedSenders ← optionalList (allowedEmails platform)
          (Value.member adapters (js "microsoftGraphAllowedSenders"))
          (js "microsoftGraphAllowedSenders")
        let microsoftGraphAllowedTenantIds ← optionalList (allowedUUIDs platform)
          (Value.member adapters (js "microsoftGraphAllowedTenantIds"))
          (js "microsoftGraphAllowedTenantIds")
        let malwareScannerAllowedHosts ← optionalList (allowedHosts platform)
          (Value.member adapters (js "malwareScannerAllowedHosts"))
          (js "malwareScannerAllowedHosts")
        let smtpAllowedHosts ← allowedHosts platform
          (Value.member adapters (js "smtpAllowedHosts")) (js "smtpAllowedHosts")
        let webhookAllowedHosts ← allowedHosts platform
          (Value.member adapters (js "webhookAllowedHosts")) (js "webhookAllowedHosts")
        let organizationName ← boundedString platform
          (Value.member product (js "organizationName")) (js "organizationName") 2 120
        let productName ← boundedString platform (Value.member product (js "productName"))
          (js "productName") 2 80
        let supportEmail ← email platform (Value.member product (js "supportEmail"))
          (js "supportEmail")
        let maxTenants ← safeInteger (Value.member provisioning (js "maxTenants"))
          (js "maxTenants") 1 1000000
        return { allow, microsoftGraphAllowedClientIds, microsoftGraphAllowedSenders,
                 microsoftGraphAllowedTenantIds, malwareScannerAllowedHosts, smtpAllowedHosts,
                 webhookAllowedHosts, saas := isText mode (js "saas"), organizationName,
                 productName, supportEmail, maxTenants }

end Validators

/-! ## Admission documents -/

def TENANT_ADMISSION_SCHEMA : JsString := js "vasi-tenant-admission/v1"

def gateName : Gate → JsString
  | .exactRelease => js "exact_release"
  | .isolationIntegrity => js "isolation_integrity"
  | .identityDelivery => js "identity_delivery"
  | .privacyLegal => js "privacy_legal"
  | .accessibility => js "accessibility"
  | .malwareContent => js "malware_content"
  | .recoveryCustody => js "recovery_custody"
  | .capacitySupport => js "capacity_support"

/-- The gate that a name stands for. -/
def gate? (name : JsString) : Option Gate := Gate.all.find? fun gate => gateName gate = name

/-- One gate of an admission document. -/
def gateValue (gate : Gate) : GateState → Value
  | .pending => .object [(js "id", .string (gateName gate)), (js "state", .string (js "pending"))]
  | .approved approval => .object [
      (js "decidedAt", .string (isoText approval.decidedAt)),
      (js "evidenceDigest", .string approval.evidenceDigest),
      (js "evidenceReference", .string approval.evidenceReference),
      (js "id", .string (gateName gate)),
      (js "reviewerReference", .string approval.reviewerReference),
      (js "state", .string (js "approved"))]

def admissionStatus (admission : TenantAdmission) : JsString :=
  if admission.admitted then js "admitted" else js "pending"

/-- The admission as the document that is stored. -/
def admissionValue (admission : TenantAdmission) : Value :=
  .object [
    (js "gates", .array (Gate.all.map fun gate => gateValue gate (admission.state gate))),
    (js "schema", .string TENANT_ADMISSION_SCHEMA),
    (js "status", .string (admissionStatus admission))]

/-- A canonical timestamp text. Which of its two messages another text gets depends
on date parsing and is not modelled. -/
def canonicalTimestamp (value : Value) (field : JsString) : Checked Time :=
  let failure := Except.error (invalid (js "The " ++ field ++
    js " must use canonical UTC ISO 8601 form."))
  match value with
  | .string text => if isCanonicalTimestamp text then .ok (readTime text) else failure
  | _ => failure

section Validators

variable (platform : TextPlatform)

def validateAdmissionGate (value : Value) : Checked (Gate × GateState) := do
  let input ← strictObject value (js "tenant admission gate")
    [js "decidedAt", js "evidenceDigest", js "evidenceReference", js "id",
     js "reviewerReference", js "state"]
  let id ← token platform (Value.member input (js "id")) (js "gateId")
  match gate? id with
  | none => .error (invalid (js "The tenant admission gate is unsupported."))
  | some gate =>
      let state ← token platform (Value.member input (js "state")) (js "state")
      if state = js "pending" then
        if [js "decidedAt", js "evidenceDigest", js "evidenceReference",
            js "reviewerReference"].any fun key => !(Value.member input key).isUndefined then
          .error (invalid (js "A pending admission gate cannot retain approval evidence."))
        else return (gate, .pending)
      else if state ≠ js "approved" then
        .error (invalid (js "The tenant admission gate state is unsupported."))
      else
        let decidedAt ← canonicalTimestamp (Value.member input (js "decidedAt")) (js "decidedAt")
        let evidenceDigest ← sha256 (Value.member input (js "evidenceDigest"))
          (js "evidenceDigest")
        let evidenceReference ← admissionReference platform
          (Value.member input (js "evidenceReference")) (js "evidenceReference")
        let reviewerReference ← admissionReference platform
          (Value.member input (js "reviewerReference")) (js "reviewerReference")
        return (gate, .approved { decidedAt, evidenceDigest, evidenceReference,
                                  reviewerReference })

/-- The gates of a document by their identifiers; a later entry replaces an earlier one. -/
def gatesById (gates : List (Gate × GateState)) (gate : Gate) : Option GateState :=
  gates.reverse.lookup gate

def validateTenantAdmission (value : Value) : Checked TenantAdmission := do
  let input ← strictObject value (js "tenant admission") [js "gates", js "schema", js "status"]
  if ¬ isText (Value.member input (js "schema")) TENANT_ADMISSION_SCHEMA then
    .error (invalid (js "The tenant admission schema is unsupported."))
  else
    match Value.member input (js "gates") with
    | .array items =>
        if items.length ≠ Gate.all.length then
          .error (invalid (js "The tenant admission gate set is incomplete."))
        else do
          let gates ← items.mapM fun item => validateAdmissionGate platform item
          if Gate.all.any fun gate => (gatesById gates gate).isNone then
            .error (invalid (js "The tenant admission gate set is invalid."))
          else
            let admission : TenantAdmission :=
              ⟨fun gate => (gatesById gates gate).getD .pending⟩
            if ¬ isText (Value.member input (js "status")) (admissionStatus admission) then
              .error (invalid (js "The tenant admission status is inconsistent with its gates."))
            else return admission
    | _ => .error (invalid (js "The tenant admission gate set is incomplete."))

end Validators

/-! ## Commands -/

/-- A validated decision on an admission gate. -/
structure TenantAdmissionDecisionCommand where
  tenantId : JsString
  expectedRevision : ℕ
  gateId : Gate
  decision : Decision

/-- A validated production stop. -/
structure TenantProductionStopCommand where
  commandId : JsString
  tenantId : JsString
  expectedRevision : ℕ
  gateId : Gate
  incidentReference : JsString
  reasonCode : JsString

def TENANT_PRODUCTION_STOP_REASONS : List JsString :=
  [js "security_incident", js "privacy_or_legal", js "identity_or_delivery", js "content_safety",
   js "recovery_or_capacity", js "operator_decision"]

/-- Number.MAX_SAFE_INTEGER. -/
def MAX_SAFE_INTEGER : ℕ := 9007199254740991

structure TenantProvisionInput where
  commandId : Option JsString
  name : JsString
  ownerEmail : Option JsString
  profile : TenantProfile
  slug : JsString

structure TenantProfileCommand where
  tenantId : JsString
  expectedRevision : ℕ
  profile : TenantProfile

structure InstallationProfileCommand where
  expectedRevision : ℕ
  profile : InstallationProfile

/-- The pattern ^[a-z0-9](?:[a-z0-9-]\x7b0,62\x7d[a-z0-9])?$. -/
def isSlug (text : JsString) : Bool :=
  let alphanumeric (unit : CodeUnit) : Bool := isLowerLetter unit || isDigit unit
  text.length ≤ 64 && text.head?.any alphanumeric && text.getLast?.any alphanumeric &&
    text.all fun unit => alphanumeric unit || unit = 45

section Validators

variable (platform : TextPlatform)

def validateTenantAdmissionDecisionCommand (value : Value) :
    Checked TenantAdmissionDecisionCommand := do
  let input ← strictObject value (js "tenant admission decision")
    [js "decision", js "evidenceDigest", js "evidenceReference", js "expectedRevision",
     js "gateId", js "reviewerReference", js "tenantId"]
  let decision ← token platform (Value.member input (js "decision")) (js "decision")
  if decision ∉ [js "approved", js "pending"] then
    .error (invalid (js "The tenant admission decision is unsupported."))
  else
    let id ← token platform (Value.member input (js "gateId")) (js "gateId")
    match gate? id with
    | none => .error (invalid (js "The tenant admission gate is unsupported."))
    | some gateId =>
        let expectedRevision ← safeInteger (Value.member input (js "expectedRevision"))
          (js "expectedRevision") 1 MAX_SAFE_INTEGER
        let tenantId ← token platform (Value.member input (js "tenantId")) (js "tenantId")
        if decision = js "approved" then
          let evidenceDigest ← sha256 (Value.member input (js "evidenceDigest"))
            (js "evidenceDigest")
          let evidenceReference ← admissionReference platform
            (Value.member input (js "evidenceReference")) (js "evidenceReference")
          let reviewerReference ← admissionReference platform
            (Value.member input (js "reviewerReference")) (js "reviewerReference")
          return { tenantId, expectedRevision, gateId,
                   decision := .approved evidenceDigest evidenceReference reviewerReference }
        else if [js "evidenceDigest", js "evidenceReference", js "reviewerReference"].any
            fun key => !(Value.member input key).isUndefined then
          .error (invalid (js "A pending admission decision cannot retain approval evidence."))
        else return { tenantId, expectedRevision, gateId, decision := .pending }

def validateTenantProductionStopCommand (value : Value) :
    Checked TenantProductionStopCommand := do
  let input ← strictObject value (js "tenant production stop")
    [js "commandId", js "expectedRevision", js "gateId", js "incidentReference",
     js "reasonCode", js "tenantId"]
  let id ← token platform (Value.member input (js "gateId")) (js "gateId")
  match gate? id with
  | none => .error (invalid (js "The tenant admission gate is unsupported."))
  | some gateId =>
      let reasonCode ← token platform (Value.member input (js "reasonCode")) (js "reasonCode")
      if reasonCode ∉ TENANT_PRODUCTION_STOP_REASONS then
        .error (invalid (js "The tenant production-stop reason is unsupported."))
      else
        let commandId ← token platform (Value.member input (js "commandId")) (js "commandId")
        let expectedRevision ← safeInteger (Value.member input (js "expectedRevision"))
          (js "expectedRevision") 1 MAX_SAFE_INTEGER
        let incidentReference ← admissionReference platform
          (Value.member input (js "incidentReference")) (js "incidentReference")
        let tenantId ← token platform (Value.member input (js "tenantId")) (js "tenantId")
        return { commandId, tenantId, expectedRevision, gateId, incidentReference, reasonCode }

def validateTenantProvisionInput (value : Value) : Checked TenantProvisionInput := do
  let input ← strictObject value (js "tenant provisioning command")
    [js "commandId", js "name", js "ownerEmail", js "profile", js "slug"]
  let name ← boundedString platform (Value.member input (js "name")) (js "name") 2 160
  let bounded ← boundedString platform (Value.member input (js "slug")) (js "slug") 2 64
  let slug := platform.toLowerCase bounded
  if ¬ isSlug slug then .error (invalid (js "The tenant slug is invalid."))
  else
    let commandId := Value.member input (js "commandId")
    let commandId ← (if commandId.isUndefined then .ok none
      else (uuid platform commandId (js "commandId")).map some)
    let ownerEmail ← optionalEmail platform (Value.member input (js "ownerEmail"))
      (js "ownerEmail")
    let profile := Value.member input (js "profile")
    let profile ← (if profile.isUndefined then defaultTenantProfile platform (.string name)
      else validateTenantProfile platform profile)
    return { commandId, name, ownerEmail, profile, slug }

def validateTenantProfileCommand (value : Value) : Checked TenantProfileCommand := do
  let input ← strictObject value (js "tenant profile command")
    [js "expectedRevision", js "profile", js "tenantId"]
  let expectedRevision ← safeInteger (Value.member input (js "expectedRevision"))
    (js "expectedRevision") 1 MAX_SAFE_INTEGER
  let profile ← validateTenantProfile platform (Value.member input (js "profile"))
  let tenantId ← token platform (Value.member input (js "tenantId")) (js "tenantId")
  return { tenantId, expectedRevision, profile }

def validateInstallationProfileCommand (value : Value) : Checked InstallationProfileCommand := do
  let input ← strictObject value (js "installation profile command")
    [js "expectedRevision", js "profile"]
  let expectedRevision ← safeInteger (Value.member input (js "expectedRevision"))
    (js "expectedRevision") 1 MAX_SAFE_INTEGER
  let profile ← validateInstallationProfile platform (Value.member input (js "profile"))
  return { expectedRevision, profile }

end Validators

end Vasi.Productization
