import Mathlib.Logic.Relation
import Vasi.EvidenceEvents
import Vasi.Sample
import Vasi.StoredConfiguration

/-!
# The configuration store

The revisions of the installation profile, of the tenant profiles and of the
tenant admissions, as the product store writes them and reads the active one
back. A revision is never changed, and a pointer names the newest one.

Every command locks the pointer that it advances before it reads, so a
transaction is one step. Refusals that rest on other tables (permissions and
replays) leave the store as it is and are left out, and so are the memberships,
integrations and configuration events that the commands write.
-/
namespace Vasi.ConfigurationStore

open JsValue Validation CanonicalJson IsoTime Admission EvidenceEvents Productization
  StoredConfiguration

/-- A revision row: the document as the database returns it, and its stored hash. -/
structure RevisionRow where
  revision : ℕ
  document : Value
  documentHash : JsString

/-- A tenant with the revisions of its profile and of its admission, newest first. -/
structure TenantRow where
  id : JsString
  slug : JsString
  name : JsString
  profiles : List RevisionRow
  admissions : List RevisionRow

structure Configuration where
  installation : List RevisionRow
  tenants : List TenantRow

def EngineStoreError (code : JsString) : Failure := ⟨code, code⟩

section

variable (platform : TextPlatform) (env : Environment)

/-! ## Reading and writing revisions -/

/-- hashCanonicalJSON, whose TypeError carries no code. -/
def contentHash (value : Value) : Checked JsString :=
  (hashCanonicalJSON env.sha256Hex value).mapError fun message => ⟨[], message⟩

/-- Read the active revision: validate its document and compare the hash. -/
def readActive {α : Type} (validate : Value → Checked α) (toValue : α → Value)
    (unavailable integrity : JsString) : List RevisionRow → Checked (α × ℕ)
  | [] => .error (EngineStoreError unavailable)
  | row :: _ => do
      let accepted ← validate row.document
      let hash ← contentHash env (toValue accepted)
      if hash ≠ row.documentHash then .error (EngineStoreError integrity)
      else return (accepted, row.revision)

def activeTenantProfile (tenant : TenantRow) : Checked (TenantProfile × ℕ) :=
  readActive env (validateTenantProfile platform) TenantProfile.toValue
    (js "tenant_profile_unavailable") (js "tenant_profile_integrity_failure") tenant.profiles

def activeInstallationProfile (store : Configuration) : Checked (InstallationProfile × ℕ) :=
  readActive env (validateInstallationProfile platform) InstallationProfile.toValue
    (js "installation_profile_unavailable") (js "installation_profile_integrity_failure")
    store.installation

/-- A document that does not validate is an integrity failure here too. -/
def tenantAdmissionProjection (tenant : TenantRow) : Checked (TenantAdmission × ℕ) :=
  readActive env
    (fun value => (validateTenantAdmission platform value).mapError fun _ =>
      EngineStoreError (js "tenant_admission_integrity_failure"))
    admissionValue (js "tenant_not_admitted") (js "tenant_admission_integrity_failure")
    tenant.admissions

/-- Store a document with its hash. -/
def createRevision (document : Value) (revision : ℕ) : Checked RevisionRow := do
  let documentHash ← contentHash env document
  return ⟨revision, readBack env.order document, documentHash⟩

def createInstallationProfileRevision (profile : InstallationProfile) (revision : ℕ) :
    Checked RevisionRow := do
  let normalized ← validateInstallationProfile platform profile.toValue
  createRevision env normalized.toValue revision

/-- The profile is stored as the command or the default gave it. -/
def createTenantProfileRevision (profile : TenantProfile) (revision : ℕ) : Checked RevisionRow :=
  createRevision env profile.toValue revision

def createTenantAdmissionRevision (admission : TenantAdmission) (revision : ℕ) :
    Checked RevisionRow := do
  let normalized ← validateTenantAdmission platform (admissionValue admission)
  createRevision env (admissionValue normalized) revision

/-! ## Commands -/

/-- The first profile, with the hosts of an active legacy binding. -/
def bootstrapProfile : Option (List JsString × List JsString) → Checked InstallationProfile
  | none => .ok (installationProfileWithLegacyDestinations [] [])
  | some (smtpHosts, webhookHosts) => validateInstallationProfile platform
      (installationProfileWithLegacyDestinations smtpHosts webhookHosts).toValue

def ensureInstallationProfile (legacy : Option (List JsString × List JsString))
    (store : Configuration) : Checked Configuration :=
  if store.installation ≠ [] then .ok store
  else do
    let profile ← bootstrapProfile platform legacy
    let row ← createInstallationProfileRevision platform env profile 1
    return { store with installation := [row] }

def ensureTenantAdmission (tenant : TenantRow) : Checked TenantRow := do
  if tenant.admissions ≠ [] then
    let _ ← tenantAdmissionProjection platform env tenant
    return tenant
  else
    let row ← createTenantAdmissionRevision platform env defaultTenantAdmission 1
    return { tenant with admissions := [row] }

/-- Give a tenant that has none its default profile, and its admission. -/
def migrateTenant (tenant : TenantRow) : Checked TenantRow := do
  if tenant.profiles ≠ [] then return tenant
  else
    let profile ← defaultTenantProfile platform (.string tenant.name)
    let row ← createTenantProfileRevision env profile 1
    ensureTenantAdmission platform env { tenant with profiles := [row] }

/-- The start of the engine. -/
def initializeStore (legacy : Option (List JsString × List JsString)) (store : Configuration) :
    Checked Configuration := do
  let store ← ensureInstallationProfile platform env legacy store
  let migrated ← store.tenants.mapM (migrateTenant platform env)
  let tenants ← migrated.mapM (ensureTenantAdmission platform env)
  return { store with tenants }

def provisionTenant (tenantId : JsString) (payload : Value) (store : Configuration) :
    Checked Configuration := do
  let input ← validateTenantProvisionInput platform payload
  let installation ← activeInstallationProfile platform env store
  if store.tenants.length ≥ installation.1.maxTenants then
    .error (EngineStoreError (js "installation_tenant_quota_exceeded"))
  else if input.slug ∈ store.tenants.map TenantRow.slug then
    .error (EngineStoreError (js "tenant_slug_exists"))
  else
    let profile ← createTenantProfileRevision env input.profile 1
    let tenant ← ensureTenantAdmission platform env
      ⟨tenantId, input.slug, input.name, [profile], []⟩
    return { store with tenants := store.tenants ++ [tenant] }

/-- Change the tenant that a command names. -/
def changeTenant (tenantId missing : JsString) (change : TenantRow → Checked TenantRow) :
    List TenantRow → Checked (List TenantRow)
  | [] => .error (EngineStoreError missing)
  | tenant :: rest =>
      if tenant.id = tenantId then do
        let changed ← change tenant
        return changed :: rest
      else do
        let changed ← changeTenant tenantId missing change rest
        return tenant :: changed

/-- `retentionProfiles` are the names of the tenant's retention policies. -/
def updateTenantProfile (payload : Value) (administrator : Bool)
    (retentionProfiles : List JsString) (store : Configuration) :
    Checked Configuration := do
  let input ← validateTenantProfileCommand platform payload
  let tenants ← changeTenant input.tenantId (js "tenant_profile_unavailable") (fun tenant => do
    let current ← activeTenantProfile platform env tenant
    if current.2 ≠ input.expectedRevision then
      .error (EngineStoreError (js "tenant_profile_revision_conflict"))
    else
      let quotas ← contentHash env (.object current.1.quotas)
      let requested ← contentHash env (.object input.profile.quotas)
      if ¬ administrator ∧ quotas ≠ requested then
        .error (EngineStoreError (js "tenant_quota_changes_require_administrator"))
      else if input.profile.defaultRetentionProfile ≠ js "tenant_default" ∧
          input.profile.defaultRetentionProfile ∉ retentionProfiles then
        .error (EngineStoreError (js "retention_profile_not_found"))
      else
        let next ← createTenantProfileRevision env input.profile (current.2 + 1)
        return { tenant with profiles := next :: tenant.profiles }) store.tenants
  return { store with tenants }

def updateInstallationProfile (payload : Value) (store : Configuration) :
    Checked Configuration := do
  let input ← validateInstallationProfileCommand platform payload
  let current ← activeInstallationProfile platform env store
  if current.2 ≠ input.expectedRevision then
    .error (EngineStoreError (js "installation_profile_revision_conflict"))
  else
    let next ← createInstallationProfileRevision platform env input.profile (current.2 + 1)
    return { store with installation := next :: store.installation }

/-- The next admission of a tenant after a decision on one gate, unless nothing changes. -/
def decideAdmission (expectedRevision : ℕ) (gateId : Gate) (decision : Decision)
    (decidedAt : Time) (unchanged : TenantRow → Checked TenantRow) (tenant : TenantRow) :
    Checked TenantRow := do
  let current ← tenantAdmissionProjection platform env tenant
  if current.2 ≠ expectedRevision then
    .error (EngineStoreError (js "tenant_admission_revision_conflict"))
  else
    let admission := applyTenantAdmissionDecision current.1 gateId decision decidedAt
    let before ← contentHash env (admissionValue current.1)
    let after ← contentHash env (admissionValue admission)
    if after = before then unchanged tenant
    else
      let next ← createTenantAdmissionRevision platform env admission (current.2 + 1)
      return { tenant with admissions := next :: tenant.admissions }

def updateTenantAdmission (payload : Value) (now : Time) (store : Configuration) :
    Checked Configuration := do
  let input ← validateTenantAdmissionDecisionCommand platform payload
  let tenants ← changeTenant input.tenantId (js "tenant_not_admitted")
    (decideAdmission platform env input.expectedRevision input.gateId input.decision now
      fun _ => .error (EngineStoreError (js "tenant_admission_decision_unchanged"))) store.tenants
  return { store with tenants }

/-- A stop goes on to revoke the requests when the gate was already pending. -/
def stopTenantProduction (payload : Value) (stoppedAt : Time) (store : Configuration) :
    Checked Configuration := do
  let input ← validateTenantProductionStopCommand platform payload
  let tenants ← changeTenant input.tenantId (js "tenant_not_admitted")
    (decideAdmission platform env input.expectedRevision input.gateId .pending stoppedAt .ok)
    store.tenants
  return { store with tenants }

/-- A command with what it reads from outside the store. -/
inductive Command where
  | initializeStore (legacy : Option (List JsString × List JsString))
  | provisionTenant (tenantId : JsString) (payload : Value)
  | updateTenantProfile (payload : Value) (administrator : Bool)
      (retentionProfiles : List JsString)
  | updateInstallationProfile (payload : Value)
  | updateTenantAdmission (payload : Value) (now : Time)
  | stopTenantProduction (payload : Value) (stoppedAt : Time)

def perform : Command → Configuration → Checked Configuration
  | .initializeStore legacy => initializeStore platform env legacy
  | .provisionTenant tenantId payload => provisionTenant platform env tenantId payload
  | .updateTenantProfile payload administrator retentionProfiles =>
      updateTenantProfile platform env payload administrator retentionProfiles
  | .updateInstallationProfile payload => updateInstallationProfile platform env payload
  | .updateTenantAdmission payload now => updateTenantAdmission platform env payload now
  | .stopTenantProduction payload stoppedAt => stopTenantProduction platform env payload stoppedAt

end

/-! ## Revisions that read back -/

/-- A revision that reads back: its document is the stored form of what the
validator returns for it, and its hash is the hash of both. -/
structure ReadsBack {α : Type} (env : Environment) (validate : Value → Checked α)
    (toValue : α → Value) (row : RevisionRow) : Prop where
  fixed : ∃ accepted, validate row.document = .ok accepted ∧
    row.document = readBack env.order (toValue accepted) ∧
    hashCanonicalJSON env.sha256Hex (toValue accepted) = .ok row.documentHash
  hashed : hashCanonicalJSON env.sha256Hex row.document = .ok row.documentHash

/-- Every revision of the store reads back. -/
structure StoreReadsBack (platform : TextPlatform) (env : Environment) (store : Configuration) :
    Prop where
  installation : ∀ row ∈ store.installation,
    ReadsBack env (validateInstallationProfile platform) InstallationProfile.toValue row
  profiles : ∀ tenant ∈ store.tenants, ∀ row ∈ tenant.profiles,
    ReadsBack env (validateTenantProfile platform) TenantProfile.toValue row
  admissions : ∀ tenant ∈ store.tenants, ∀ row ∈ tenant.admissions,
    ReadsBack env (validateTenantAdmission platform) admissionValue row

theorem contentHash_ok {env : Environment} {value : Value} {hash : JsString}
    (hashed : contentHash env value = .ok hash) :
    hashCanonicalJSON env.sha256Hex value = .ok hash := by
  unfold contentHash at hashed
  cases found : hashCanonicalJSON env.sha256Hex value with
  | error message => simp [found, Except.mapError] at hashed
  | ok other => simpa [found, Except.mapError] using hashed

/-- A document that the validator returns unchanged is stored as a revision that
reads back. -/
theorem createRevision_readsBack {α : Type} {env : Environment} {validate : Value → Checked α}
    {toValue : α → Value} {accepted : α} {revision : ℕ} {row : RevisionRow}
    (created : createRevision env (toValue accepted) revision = .ok row)
    (formed : WellFormed (toValue accepted))
    (settled : validate (readBack env.order (toValue accepted)) = .ok accepted) :
    ReadsBack env validate toValue row := by
  obtain ⟨hash, hashed, created⟩ := bind_ok created
  cases created
  have same := contentHash_ok hashed
  have representable := (hashCanonicalJSON_succeeds env.sha256Hex _).mp ⟨hash, same⟩
  exact ⟨⟨accepted, settled, rfl, same⟩,
    (hashCanonicalJSON_readBack env.sha256Hex env.order env.rearranges _ formed
      representable).trans same⟩

/-- The active revision is read without a failure when it reads back. -/
theorem readActive_ok {α : Type} {env : Environment} {validate : Value → Checked α}
    {toValue : α → Value} {rows : List RevisionRow} (unavailable integrity : JsString)
    (readable : ∀ row ∈ rows, ReadsBack env validate toValue row) (written : rows ≠ []) :
    ∃ active, readActive env validate toValue unavailable integrity rows = .ok active := by
  cases rows with
  | nil => exact absurd rfl written
  | cons row rest =>
      obtain ⟨accepted, valid, -, hashed⟩ := (readable row (by simp)).fixed
      refine ⟨(accepted, row.revision), ?_⟩
      simp [readActive, valid, contentHash, hashed, Except.mapError, bind, Except.bind, pure,
        Except.pure]

theorem wellFormed_textList (texts : List JsString) : WellFormed (textList texts) := by
  have items : WellFormedItems (texts.map .string) := by
    induction texts with
    | nil => trivial
    | cons text rest inductionHypothesis => exact ⟨trivial, inductionHypothesis⟩
  exact items

theorem wellFormed_optionalTextList (texts : Option (List JsString)) :
    WellFormed (optionalTextList texts) := by
  cases texts with
  | none => trivial
  | some list => exact wellFormed_textList list

theorem tenantProfile_wellFormed (profile : TenantProfile) : WellFormed profile.toValue := by
  have support : WellFormed (nullableText profile.supportEmail) := by
    cases profile.supportEmail <;> trivial
  have branding : WellFormed (.object profile.branding) :=
    ⟨show ([js "accentColor", js "displayName", js "primaryColor", js "shortName",
      js "supportEmail"] : List JsString).Nodup by decide,
      trivial, trivial, trivial, trivial, support, trivial⟩
  have quotas : WellFormed (.object profile.quotas) :=
    ⟨show ([js "maxActiveRequests", js "maxArtifactBytes", js "maxArtifactBytesPerArtifact",
      js "maxIntegrations", js "maxMembers", js "maxWorkflows"] : List JsString).Nodup by decide,
      trivial, trivial, trivial, trivial, trivial, trivial, trivial⟩
  have policies : WellFormed (.object profile.policies) :=
    ⟨show ([js "defaultRetentionProfile"] : List JsString).Nodup by decide, trivial, trivial⟩
  exact ⟨show ([js "branding", js "policies", js "quotas", js "schema"] : List JsString).Nodup
    by decide, branding, policies, quotas, trivial, trivial⟩

theorem installationProfile_wellFormed (profile : InstallationProfile) :
    WellFormed profile.toValue := by
  have adapters : WellFormed (.object profile.adapters) :=
    ⟨show ([js "allow", js "microsoftGraphAllowedClientIds", js "microsoftGraphAllowedSenders",
      js "microsoftGraphAllowedTenantIds", js "malwareScannerAllowedHosts",
      js "smtpAllowedHosts", js "webhookAllowedHosts"] : List JsString).Nodup by decide,
      wellFormed_textList _, wellFormed_optionalTextList _, wellFormed_optionalTextList _,
      wellFormed_optionalTextList _, wellFormed_optionalTextList _, wellFormed_textList _,
      wellFormed_textList _, trivial⟩
  have deployment : WellFormed (.object profile.deployment) :=
    ⟨show ([js "engineDatabaseBoundary", js "mode", js "publicIngress"] : List JsString).Nodup
      by decide, trivial, trivial, trivial, trivial⟩
  have product : WellFormed (.object profile.product) :=
    ⟨show ([js "organizationName", js "productName", js "supportEmail"] : List JsString).Nodup
      by decide, trivial, trivial, trivial, trivial⟩
  have provisioning : WellFormed (.object profile.provisioning) :=
    ⟨show ([js "maxTenants", js "mode"] : List JsString).Nodup by decide, trivial, trivial, trivial⟩
  exact ⟨show ([js "adapters", js "deployment", js "product", js "provisioning",
    js "schema"] : List JsString).Nodup by decide,
    adapters, deployment, product, provisioning, trivial, trivial⟩

theorem gateValue_wellFormed (gate : Gate) (state : GateState) :
    WellFormed (gateValue gate state) := by
  cases state with
  | pending =>
      exact ⟨show ([js "id", js "state"] : List JsString).Nodup by decide, trivial, trivial,
        trivial⟩
  | approved approval =>
      exact ⟨show ([js "decidedAt", js "evidenceDigest", js "evidenceReference", js "id",
        js "reviewerReference", js "state"] : List JsString).Nodup by decide,
        trivial, trivial, trivial, trivial, trivial, trivial, trivial⟩

theorem admissionValue_wellFormed (admission : TenantAdmission) :
    WellFormed (admissionValue admission) := by
  have gates : WellFormedItems (Gate.all.map fun gate => gateValue gate (admission.state gate)) := by
    induction Gate.all with
    | nil => trivial
    | cons gate rest inductionHypothesis =>
        exact ⟨gateValue_wellFormed gate _, inductionHypothesis⟩
  exact ⟨show ([js "gates", js "schema", js "status"] : List JsString).Nodup by decide,
    gates, trivial, trivial, trivial⟩

section Revisions

variable {platform : TextPlatform} {env : Environment}

/-- The revision of a settled profile reads back. -/
theorem createTenantProfileRevision_readsBack {profile : TenantProfile} {revision : ℕ}
    {row : RevisionRow} (created : createTenantProfileRevision env profile revision = .ok row)
    (settled : SettledTenantProfile platform profile) :
    ReadsBack env (validateTenantProfile platform) TenantProfile.toValue row :=
  createRevision_readsBack created (tenantProfile_wellFormed profile)
    (validateTenantProfile_settled env.rearranges settled)

/-- The revision of an installation profile reads back when its validator
settles the profile. -/
theorem createInstallationProfileRevision_readsBack {profile : InstallationProfile}
    {revision : ℕ} {row : RevisionRow}
    (created : createInstallationProfileRevision platform env profile revision = .ok row)
    (settles : ∀ normalized, validateInstallationProfile platform profile.toValue =
      .ok normalized → SettledInstallationProfile platform normalized) :
    ReadsBack env (validateInstallationProfile platform) InstallationProfile.toValue row := by
  obtain ⟨normalized, accepted, created⟩ := bind_ok created
  exact createRevision_readsBack created (installationProfile_wellFormed normalized)
    (validateInstallationProfile_settled env.rearranges (settles normalized accepted))

/-- Every revision of an admission reads back. -/
theorem createTenantAdmissionRevision_readsBack {admission : TenantAdmission} {revision : ℕ}
    {row : RevisionRow}
    (created : createTenantAdmissionRevision platform env admission revision = .ok row) :
    ReadsBack env (validateTenantAdmission platform) admissionValue row := by
  obtain ⟨normalized, accepted, created⟩ := bind_ok created
  exact createRevision_readsBack created (admissionValue_wellFormed normalized)
    (validateTenantAdmission_settled env.rearranges (validateTenantAdmission_ok accepted))

/-- A bounded lower-case address is stable. -/
theorem addressStable_settled {text : JsString} (settled : Settled platform 3 320 text)
    (lower : platform.toLowerCase text = text) : AddressStable platform (.string text) := by
  rintro original ⟨⟩
  dsimp only
  rw [settled.normal, settled.trimmed, lower]
  exact ⟨settled.normal, settled.inside.2⟩

/-- The first installation profile is settled: its address is lower-case ASCII. -/
theorem bootstrapProfile_settles {legacy : Option (List JsString × List JsString)}
    {profile normalized : InstallationProfile}
    (bootstrapped : bootstrapProfile platform legacy = .ok profile)
    (accepted : validateInstallationProfile platform profile.toValue = .ok normalized) :
    SettledInstallationProfile platform normalized := by
  cases legacy with
  | some hosts => exact validateInstallationProfile_twice bootstrapped accepted
  | none =>
      cases bootstrapped
      refine validateInstallationProfile_stable accepted ?_ ?_
      · have settled : Settled platform 3 320 (js "support@example.invalid") :=
          graphic_settled (List.all_eq_true.mp (by decide)) (by decide)
        have lower : platform.toLowerCase (js "support@example.invalid") =
            js "support@example.invalid" :=
          (platform.toLowerCase_ascii _ (by decide)).trans (by decide)
        exact addressStable_settled settled lower
      · rintro items ⟨⟩ item member
        cases member

end Revisions

/-! ## Commands keep every revision readable -/

/-- Every revision of a tenant reads back. -/
structure TenantReadsBack (platform : TextPlatform) (env : Environment) (tenant : TenantRow) :
    Prop where
  profiles : ∀ row ∈ tenant.profiles,
    ReadsBack env (validateTenantProfile platform) TenantProfile.toValue row
  admissions : ∀ row ∈ tenant.admissions,
    ReadsBack env (validateTenantAdmission platform) admissionValue row

section Commands

variable {platform : TextPlatform} {env : Environment}

theorem StoreReadsBack.tenant {store : Configuration} (sound : StoreReadsBack platform env store)
    {tenant : TenantRow} (member : tenant ∈ store.tenants) : TenantReadsBack platform env tenant :=
  ⟨sound.profiles tenant member, sound.admissions tenant member⟩

/-- A store keeps reading back when its tenants are replaced by tenants that do. -/
theorem StoreReadsBack.withTenants {store : Configuration} {tenants : List TenantRow}
    (sound : StoreReadsBack platform env store)
    (each : ∀ tenant ∈ tenants, TenantReadsBack platform env tenant) :
    StoreReadsBack platform env { store with tenants } :=
  ⟨sound.installation, fun tenant member => (each tenant member).profiles,
    fun tenant member => (each tenant member).admissions⟩

/-- A new revision in front of others. -/
theorem forall_mem_newest {α : Type} {validate : Value → Checked α} {toValue : α → Value}
    {next : RevisionRow} {rows : List RevisionRow} (first : ReadsBack env validate toValue next)
    (rest : ∀ row ∈ rows, ReadsBack env validate toValue row) :
    ∀ row ∈ next :: rows, ReadsBack env validate toValue row :=
  List.forall_mem_cons.mpr ⟨first, rest⟩

theorem ensureInstallationProfile_sound {legacy : Option (List JsString × List JsString)}
    {store after : Configuration}
    (ensured : ensureInstallationProfile platform env legacy store = .ok after)
    (sound : StoreReadsBack platform env store) :
    StoreReadsBack platform env after ∧ after.tenants = store.tenants := by
  unfold ensureInstallationProfile at ensured
  split at ensured
  · cases ensured
    exact ⟨sound, rfl⟩
  · obtain ⟨profile, bootstrapped, ensured⟩ := bind_ok ensured
    obtain ⟨row, created, ensured⟩ := bind_ok ensured
    cases ensured
    have first := createInstallationProfileRevision_readsBack created fun normalized accepted =>
      bootstrapProfile_settles bootstrapped accepted
    exact ⟨⟨by simpa using first, sound.profiles, sound.admissions⟩, rfl⟩

theorem ensureTenantAdmission_sound {tenant after : TenantRow}
    (ensured : ensureTenantAdmission platform env tenant = .ok after)
    (sound : TenantReadsBack platform env tenant) : TenantReadsBack platform env after := by
  unfold ensureTenantAdmission at ensured
  split at ensured
  · obtain ⟨_, -, ensured⟩ := bind_ok ensured
    cases ensured
    exact sound
  · obtain ⟨row, created, ensured⟩ := bind_ok ensured
    cases ensured
    exact ⟨sound.profiles, by simpa using createTenantAdmissionRevision_readsBack created⟩

theorem migrateTenant_sound {tenant after : TenantRow}
    (migrated : migrateTenant platform env tenant = .ok after)
    (sound : TenantReadsBack platform env tenant)
    (clean : tenant.profiles = [] → CutsCleanly platform (.string tenant.name)) :
    TenantReadsBack platform env after := by
  unfold migrateTenant at migrated
  split at migrated
  · cases migrated
    exact sound
  · rename_i missing
    obtain ⟨profile, named, migrated⟩ := bind_ok migrated
    obtain ⟨row, created, migrated⟩ := bind_ok migrated
    have settled := defaultTenantProfile_ok named (clean (not_not.mp missing))
    refine ensureTenantAdmission_sound migrated ⟨?_, sound.admissions⟩
    simpa using createTenantProfileRevision_readsBack created settled

/-- The named tenant is changed and the others are kept. -/
theorem changeTenant_ok {tenantId missing : JsString} {change : TenantRow → Checked TenantRow}
    {tenants after : List TenantRow}
    (changed : changeTenant tenantId missing change tenants = .ok after) :
    ∀ tenant ∈ after, tenant ∈ tenants ∨ ∃ before ∈ tenants, change before = .ok tenant := by
  induction tenants generalizing after with
  | nil => cases changed
  | cons first rest inductionHypothesis =>
      rw [changeTenant] at changed
      split at changed
      · obtain ⟨next, done, changed⟩ := bind_ok changed
        cases changed
        intro tenant member
        rcases List.mem_cons.mp member with rfl | later
        · exact Or.inr ⟨first, by simp, done⟩
        · exact Or.inl (by simp [later])
      · obtain ⟨later, done, changed⟩ := bind_ok changed
        cases changed
        intro tenant member
        rcases List.mem_cons.mp member with rfl | inside
        · exact Or.inl (by simp)
        · rcases inductionHypothesis done tenant inside with kept | ⟨before, found, same⟩
          · exact Or.inl (by simp [kept])
          · exact Or.inr ⟨before, by simp [found], same⟩

/-- A store keeps reading back when a change of one tenant does. -/
theorem changeTenant_sound {tenantId missing : JsString}
    {change : TenantRow → Checked TenantRow} {store : Configuration} {tenants : List TenantRow}
    (changed : changeTenant tenantId missing change store.tenants = .ok tenants)
    (sound : StoreReadsBack platform env store)
    (keeps : ∀ before after, TenantReadsBack platform env before → change before = .ok after →
      TenantReadsBack platform env after) :
    StoreReadsBack platform env { store with tenants } := by
  refine sound.withTenants fun tenant member => ?_
  rcases changeTenant_ok changed tenant member with kept | ⟨before, found, done⟩
  · exact sound.tenant kept
  · exact keeps before tenant (sound.tenant found) done

theorem decideAdmission_sound {expectedRevision : ℕ} {gateId : Gate} {decision : Decision}
    {decidedAt : Time} {unchanged : TenantRow → Checked TenantRow} {tenant after : TenantRow}
    (decided : decideAdmission platform env expectedRevision gateId decision decidedAt unchanged
      tenant = .ok after)
    (same : unchanged tenant = .ok after → after = tenant)
    (sound : TenantReadsBack platform env tenant) : TenantReadsBack platform env after := by
  obtain ⟨current, -, decided⟩ := bind_ok decided
  split at decided
  · cases decided
  dsimp only at decided
  obtain ⟨_, -, decided⟩ := bind_ok decided
  obtain ⟨_, -, decided⟩ := bind_ok decided
  split at decided
  · rw [same decided]
    exact sound
  · obtain ⟨next, created, decided⟩ := bind_ok decided
    cases decided
    exact ⟨sound.profiles, forall_mem_newest (createTenantAdmissionRevision_readsBack created)
      sound.admissions⟩

/-- The support address of a tenant profile that a command carries is stable. -/
def CarriesStableAddress (platform : TextPlatform) (profile : Value) : Prop :=
  AddressStable platform ((profile.get (js "branding")).get (js "supportEmail"))

/-- What a command must meet for the profiles that it stores to read back: a
support address is stable, and a short name that is derived is cut cleanly. -/
def Clean (platform : TextPlatform) (store : Configuration) : Command → Prop
  | .initializeStore _ => ∀ tenant ∈ store.tenants, tenant.profiles = [] →
      CutsCleanly platform (.string tenant.name)
  | .provisionTenant _ payload =>
      if (payload.get (js "profile")).isUndefined then
        CutsCleanly platform (payload.get (js "name"))
      else CarriesStableAddress platform (payload.get (js "profile"))
  | .updateTenantProfile payload _ _ =>
      CarriesStableAddress platform (payload.get (js "profile"))
  | .updateInstallationProfile _ | .updateTenantAdmission _ _ | .stopTenantProduction _ _ => True

theorem initializeStore_sound {legacy : Option (List JsString × List JsString)}
    {store after : Configuration}
    (done : initializeStore platform env legacy store = .ok after)
    (clean : ∀ tenant ∈ store.tenants, tenant.profiles = [] →
      CutsCleanly platform (.string tenant.name))
    (sound : StoreReadsBack platform env store) : StoreReadsBack platform env after := by
  obtain ⟨installed, ensured, done⟩ := bind_ok done
  obtain ⟨migrated, first, done⟩ := bind_ok done
  obtain ⟨tenants, second, done⟩ := bind_ok done
  cases done
  obtain ⟨begun, same⟩ := ensureInstallationProfile_sound ensured sound
  refine begun.withTenants fun tenant member => ?_
  obtain ⟨between, inside, admitted⟩ := (mapM_ok second).2 tenant member
  obtain ⟨before, found, moved⟩ := (mapM_ok first).2 between inside
  rw [same] at found
  exact ensureTenantAdmission_sound admitted
    (migrateTenant_sound moved (sound.tenant found) (clean before found))

/-- The profile of an accepted provisioning command is settled. -/
theorem validateTenantProvisionInput_settled {payload : Value} {input : TenantProvisionInput}
    (accepted : validateTenantProvisionInput platform payload = .ok input)
    (clean : if (payload.get (js "profile")).isUndefined then
      CutsCleanly platform (payload.get (js "name"))
      else CarriesStableAddress platform (payload.get (js "profile"))) :
    SettledTenantProfile platform input.profile := by
  obtain ⟨members, read, accepted⟩ := bind_ok accepted
  obtain ⟨name, bounded, accepted⟩ := bind_ok accepted
  obtain ⟨_, -, accepted⟩ := bind_ok accepted
  dsimp only at accepted
  split at accepted
  · cases accepted
  obtain ⟨_, -, accepted⟩ := bind_ok accepted
  obtain ⟨_, -, accepted⟩ := bind_ok accepted
  obtain ⟨profile, chosen, accepted⟩ := bind_ok accepted
  cases accepted
  have shape (key : JsString) : payload.get key = Value.member members key := by
    rw [strictObject_object read, Value.get]
  rw [shape, shape] at clean
  split at chosen
  case isTrue absent =>
    rw [if_pos absent] at clean
    obtain ⟨settled, original, same, trimmed⟩ := boundedString_ok bounded
    refine defaultTenantProfile_ok chosen fun text isText unit last => ?_
    obtain rfl : name = text := by simpa using isText
    rw [settled.normal, settled.trimmed, trimmed] at last
    exact clean original same unit last
  case isFalse present =>
    rw [if_neg present] at clean
    exact validateTenantProfile_ok chosen clean

theorem provisionTenant_sound {tenantId : JsString} {payload : Value}
    {store after : Configuration}
    (done : provisionTenant platform env tenantId payload store = .ok after)
    (clean : Clean platform store (.provisionTenant tenantId payload))
    (sound : StoreReadsBack platform env store) : StoreReadsBack platform env after := by
  obtain ⟨input, accepted, done⟩ := bind_ok done
  obtain ⟨_, -, done⟩ := bind_ok done
  split at done
  · cases done
  split at done
  · cases done
  obtain ⟨profile, created, done⟩ := bind_ok done
  obtain ⟨tenant, admitted, done⟩ := bind_ok done
  cases done
  have settled := validateTenantProvisionInput_settled accepted clean
  have fresh : TenantReadsBack platform env
      ⟨tenantId, input.slug, input.name, [profile], []⟩ :=
    ⟨by simpa using createTenantProfileRevision_readsBack created settled, by simp⟩
  refine sound.withTenants fun other member => ?_
  rcases List.mem_append.mp member with kept | added
  · exact sound.tenant kept
  · obtain rfl : other = tenant := by simpa using added
    exact ensureTenantAdmission_sound admitted fresh

theorem updateTenantProfile_sound {payload : Value} {administrator : Bool}
    {retentionProfiles : List JsString} {store after : Configuration}
    (done : updateTenantProfile platform env payload administrator retentionProfiles store =
      .ok after)
    (clean : CarriesStableAddress platform (payload.get (js "profile")))
    (sound : StoreReadsBack platform env store) : StoreReadsBack platform env after := by
  obtain ⟨input, accepted, done⟩ := bind_ok done
  obtain ⟨tenants, changed, done⟩ := bind_ok done
  cases done
  have settled : SettledTenantProfile platform input.profile := by
    obtain ⟨members, read, accepted⟩ := bind_ok accepted
    obtain ⟨_, -, accepted⟩ := bind_ok accepted
    obtain ⟨profile, valid, accepted⟩ := bind_ok accepted
    obtain ⟨_, -, accepted⟩ := bind_ok accepted
    cases accepted
    rw [strictObject_object read, Value.get] at clean
    exact validateTenantProfile_ok valid clean
  refine changeTenant_sound changed sound fun before next begun updated => ?_
  obtain ⟨current, -, updated⟩ := bind_ok updated
  split at updated
  · cases updated
  obtain ⟨_, -, updated⟩ := bind_ok updated
  obtain ⟨_, -, updated⟩ := bind_ok updated
  split at updated
  · cases updated
  split at updated
  · cases updated
  obtain ⟨row, created, updated⟩ := bind_ok updated
  cases updated
  exact ⟨forall_mem_newest (createTenantProfileRevision_readsBack created settled)
    begun.profiles, begun.admissions⟩

theorem updateInstallationProfile_sound {payload : Value} {store after : Configuration}
    (done : updateInstallationProfile platform env payload store = .ok after)
    (sound : StoreReadsBack platform env store) : StoreReadsBack platform env after := by
  obtain ⟨input, accepted, done⟩ := bind_ok done
  obtain ⟨current, -, done⟩ := bind_ok done
  split at done
  · cases done
  obtain ⟨row, created, done⟩ := bind_ok done
  cases done
  obtain ⟨members, -, accepted⟩ := bind_ok accepted
  obtain ⟨_, -, accepted⟩ := bind_ok accepted
  obtain ⟨profile, valid, accepted⟩ := bind_ok accepted
  cases accepted
  have first := createInstallationProfileRevision_readsBack created fun normalized again =>
    validateInstallationProfile_twice valid again
  exact ⟨forall_mem_newest first sound.installation, sound.profiles, sound.admissions⟩

/-- A clean command keeps every revision readable. -/
theorem perform_sound {command : Command} {store after : Configuration}
    (done : perform platform env command store = .ok after)
    (clean : Clean platform store command) (sound : StoreReadsBack platform env store) :
    StoreReadsBack platform env after := by
  cases command with
  | initializeStore legacy => exact initializeStore_sound done clean sound
  | provisionTenant tenantId payload => exact provisionTenant_sound done clean sound
  | updateTenantProfile payload administrator retentionProfiles =>
      exact updateTenantProfile_sound done clean sound
  | updateInstallationProfile payload => exact updateInstallationProfile_sound done sound
  | updateTenantAdmission payload now =>
      obtain ⟨input, -, done⟩ := bind_ok done
      obtain ⟨tenants, changed, done⟩ := bind_ok done
      cases done
      refine changeTenant_sound changed sound fun before next begun decided => ?_
      exact decideAdmission_sound decided (fun refused => by cases refused) begun
  | stopTenantProduction payload stoppedAt =>
      obtain ⟨input, -, done⟩ := bind_ok done
      obtain ⟨tenants, changed, done⟩ := bind_ok done
      cases done
      refine changeTenant_sound changed sound fun before next begun decided => ?_
      exact decideAdmission_sound decided (fun kept => by cases kept; rfl) begun

/-! ## The conditions are exact -/

/-- A default profile reads back exactly when its short name was cut cleanly. -/
theorem defaultTenantProfile_readsBack_iff {name : Value} {profile : TenantProfile}
    (accepted : defaultTenantProfile platform name = .ok profile) :
    validateTenantProfile platform (readBack env.order profile.toValue) = .ok profile ↔
      CutsCleanly platform name := by
  constructor
  · intro fixed text isText unit last
    obtain ⟨displayName, bounded, made⟩ := bind_ok accepted
    cases made
    obtain ⟨-, original, same, trimmed⟩ := boundedString_ok bounded
    obtain rfl : original = text := by simpa [isText] using same.symm
    obtain ⟨input, read, fixed⟩ := bind_ok fixed
    split at fixed
    · cases fixed
    obtain ⟨branding, -, fixed⟩ := bind_ok fixed
    obtain ⟨_, -, fixed⟩ := bind_ok fixed
    obtain ⟨_, -, fixed⟩ := bind_ok fixed
    obtain ⟨_, -, fixed⟩ := bind_ok fixed
    obtain ⟨_, -, fixed⟩ := bind_ok fixed
    split at fixed
    · cases fixed
    obtain ⟨_, -, fixed⟩ := bind_ok fixed
    obtain ⟨_, -, fixed⟩ := bind_ok fixed
    obtain ⟨_, -, fixed⟩ := bind_ok fixed
    obtain ⟨shortName, short, fixed⟩ := bind_ok fixed
    obtain ⟨_, -, fixed⟩ := bind_ok fixed
    obtain ⟨_, -, fixed⟩ := bind_ok fixed
    obtain ⟨_, -, fixed⟩ := bind_ok fixed
    obtain ⟨_, -, fixed⟩ := bind_ok fixed
    obtain ⟨_, -, fixed⟩ := bind_ok fixed
    obtain ⟨_, -, fixed⟩ := bind_ok fixed
    have kept : shortName = displayName.take 48 :=
      congrArg TenantProfile.shortName (Except.ok.inj fixed)
    have settled := (boundedString_ok short).1
    rw [← trimmed, ← kept, ← settled.trimmed] at last
    exact (trim_ends shortName).2 unit last
  · intro clean
    exact validateTenantProfile_settled env.rearranges (defaultTenantProfile_ok accepted clean)

/-- An accepted address is accepted again as it is exactly when it is stable. -/
theorem email_readsBack_iff {value : Value} {field text : JsString}
    (accepted : email platform value field = .ok text) :
    email platform (.string text) field = .ok text ↔ AddressStable platform value := by
  constructor
  · rintro fixed original rfl
    have settled := email_twice accepted fixed
    obtain ⟨source, same, shape, -⟩ := email_ok accepted
    obtain rfl : original = source := by simpa using same
    dsimp only
    rw [← shape]
    exact ⟨settled.1.normal, settled.1.inside.2⟩
  · intro stable
    exact email_settled (email_stable accepted stable) field

end Commands

/-! ## Reachable configurations -/

section Runs

variable (platform : TextPlatform) (env : Environment)

/-- Every revision reads back and no read of an active revision fails. -/
structure Readable (store : Configuration) : Prop where
  revisions : StoreReadsBack platform env store
  installation : store.installation ≠ [] →
    ∃ active, activeInstallationProfile platform env store = .ok active
  profile : ∀ tenant ∈ store.tenants, tenant.profiles ≠ [] →
    ∃ active, activeTenantProfile platform env tenant = .ok active
  admission : ∀ tenant ∈ store.tenants, tenant.admissions ≠ [] →
    ∃ active, tenantAdmissionProjection platform env tenant = .ok active

/-- A database before its first configuration revision; it may hold tenants. -/
def Unwritten (store : Configuration) : Prop :=
  store.installation = [] ∧
    ∀ tenant ∈ store.tenants, tenant.profiles = [] ∧ tenant.admissions = []

/-- A command that meets a condition commits. -/
def Commits (condition : Configuration → Command → Prop) (before after : Configuration) : Prop :=
  ∃ command, condition before command ∧ perform platform env command before = .ok after

/-- Every configuration that commands under a condition reach is readable. -/
def AlwaysReadable (condition : Configuration → Command → Prop) : Prop :=
  ∀ start store, Unwritten start →
    Relation.ReflTransGen (Commits platform env condition) start store →
      Readable platform env store

end Runs

section Runs

variable {platform : TextPlatform} {env : Environment}

theorem unwritten_readsBack {store : Configuration} (unwritten : Unwritten store) :
    StoreReadsBack platform env store := by
  obtain ⟨installation, tenants⟩ := unwritten
  refine ⟨by simp [installation], fun tenant member => ?_, fun tenant member => ?_⟩
  · simp [(tenants tenant member).1]
  · simp [(tenants tenant member).2]

/-- A configuration whose revisions read back has readable active revisions. -/
theorem StoreReadsBack.readable {store : Configuration}
    (sound : StoreReadsBack platform env store) : Readable platform env store where
  revisions := sound
  installation := fun written => readActive_ok _ _ sound.installation written
  profile := fun tenant member written => readActive_ok _ _ (sound.profiles tenant member) written
  admission := by
    intro tenant member written
    refine readActive_ok _ _ (fun row inside => ?_) written
    obtain ⟨⟨accepted, valid, stored, hash⟩, hashed⟩ := sound.admissions tenant member row inside
    exact ⟨⟨accepted, by simp [valid, Except.mapError], stored, hash⟩, hashed⟩

end Runs

/-- Under clean commands every reachable configuration is readable. -/
theorem alwaysReadable_clean (platform : TextPlatform) (env : Environment) :
    AlwaysReadable platform env (Clean platform) := by
  intro start store unwritten run
  have sound : StoreReadsBack platform env store := by
    induction run with
    | refl => exact unwritten_readsBack unwritten
    | tail earlier last inductionHypothesis =>
        obtain ⟨command, clean, done⟩ := last
        exact perform_sound done clean inductionHypothesis
  exact sound.readable

/-! ## A name whose cut ends in a space -/

theorem asciiLower_control {unit : CodeUnit} (plain : isControl unit = false) :
    isControl (asciiLower unit) = false := by
  unfold asciiLower
  split
  case isTrue capital =>
    simp only [isUpperLetter, Bool.and_eq_true, decide_eq_true_eq] at capital
    have value : (Fin.ofNat 65536 (unit.val + 32)).val = unit.val + 32 :=
      Nat.mod_eq_of_lt (by omega)
    simp only [isControl, value, Bool.or_eq_false_iff, decide_eq_false_iff_not,
      beq_eq_false_iff_ne]
    omega
  case isFalse => exact plain

/-- Text of which only the ASCII letters have a lower case. -/
def asciiText : TextPlatform where
  normalizeNFC := id
  toLowerCase := List.map asciiLower
  normalizeNFC_idem := fun _ => rfl
  normalizeNFC_part := fun _ _ _ _ => rfl
  normalizeNFC_ascii := fun _ _ => rfl
  normalizeNFC_visible := fun _ visible => visible
  toLowerCase_idem := map_asciiLower_idem
  toLowerCase_ascii := fun _ _ => rfl
  toLowerCase_length := fun _ _ => List.length_map _
  toLowerCase_control := fun text plain => by
    simp only [List.any_map, List.any_eq_false, Function.comp_apply,
      Bool.not_eq_true] at plain ⊢
    exact fun unit member => asciiLower_control (plain unit member)
  toLowerCase_normalizeNFC := map_asciiLower_idem

/-- A name with a space as its forty-eighth unit. -/
def spacedName : JsString := List.replicate 47 65 ++ js " Bank"

/-- A database with one tenant of that name and no revision. -/
def unmigrated : Configuration := ⟨[], [⟨js "tenant", js "tenant", spacedName, [], []⟩]⟩

/-- The stored short name ends in the space that reading it removes. -/
theorem spacedName_not_readable :
    ¬ AlwaysReadable asciiText Sample.env fun _ _ => True := by
  intro always
  have failed : ((initializeStore asciiText Sample.env none unmigrated).toOption.any fun after =>
      after.tenants.any fun tenant =>
        !tenant.profiles.isEmpty &&
          (activeTenantProfile asciiText Sample.env tenant).toOption.isNone) = true := by
    decide +kernel
  rw [Option.any_eq_true] at failed
  obtain ⟨after, done, failed⟩ := failed
  rw [List.any_eq_true] at failed
  obtain ⟨tenant, member, failed⟩ := failed
  rw [Bool.and_eq_true] at failed
  obtain ⟨written, failed⟩ := failed
  have step : perform asciiText Sample.env (.initializeStore none) unmigrated = .ok after := by
    cases result : initializeStore asciiText Sample.env none unmigrated with
    | error failure => simp [result, Except.toOption] at done
    | ok store =>
        obtain rfl : store = after := by simpa [result, Except.toOption] using done
        exact result
  have unwritten : Unwritten unmigrated := ⟨rfl, by simp [unmigrated]⟩
  have readable := always unmigrated after unwritten
    (Relation.ReflTransGen.single ⟨_, trivial, step⟩)
  obtain ⟨active, read⟩ := readable.profile tenant member (by simpa using written)
  simp [read, Except.toOption] at failed

end Vasi.ConfigurationStore
