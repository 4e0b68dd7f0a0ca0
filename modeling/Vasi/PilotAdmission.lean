import Vasi.PilotGateAgreement
import Vasi.ReadinessDossier

/-!
# Pilot admission evidence

A signed readiness dossier and one manifest for each admission gate, checked
against each other: every gate of the dossier's admission is approved with the
digest, the reference and the reviewer of its manifest, all manifests name one
scope, and review, decision, revision and capture follow one another.

The directories, owners and modes of the files and the artifacts of the
manifests are left out; they only refuse.
-/
namespace Vasi.PilotAdmission

open JsValue Coercion IsoTime Admission ReadinessDossier
open Productization (gateName isDigest validateAdmissionGate validateTenantAdmission)
open StoredConfiguration (state_token strictObject_object)
open CanonicalJson (hashCanonicalJSON)
open JsonText (parse)
open PilotGate (Descriptor Manifest validatePilotGateDescriptor validatePilotGateManifest
  pilotGateManifestJSON manifestValue normalizedMembers opaqueReference textOr
  MAXIMUM_MANIFEST_BYTES)
open PilotGateImport (ok_bind_iff check_iff textOr_iff)
open PrettyJson (digestCanonical)
open Utf8 (Byte)
open ReleaseArchive (decodeFatal)
open Validation (bind_ok)

/-- The tools of the dossier package, and Date.parse, which reads a canonical
timestamp as the time that it denotes. -/
structure Setting where
  tools : Tools
  dateParse : JsString → Option Time
  dateParse_canonical : ∀ text, isCanonicalTimestamp text = true →
    dateParse text = some (readTime text)

section Setting

variable (setting : Setting)

def timestamp (value : Value) : Verified Time :=
  match (stringText value).bind setting.dateParse with
  | some time => .ok time
  | none => fail (js "invalid_timestamp")

/-- One gate of an admission against its manifest. -/
def verifyGateBinding (revisionCreatedAt capturedAt : Time) (gateId : Gate) (gate : Value)
    (manifest : Manifest) : Verified Unit := do
  check (isText (gate.get (js "id")) (gateName gateId) &&
    isText manifest.gateId (gateName gateId) && isText (gate.get (js "state")) (js "approved") &&
    isText (gate.get (js "evidenceDigest")) manifest.packageDigest &&
    isText (gate.get (js "evidenceReference")) manifest.evidenceReference &&
    isText (gate.get (js "reviewerReference")) manifest.reviewerReference)
    "admission_evidence_mismatch"
  let reviewedAt ← timestamp setting (.string manifest.reviewedAt)
  let decidedAt ← timestamp setting (gate.get (js "decidedAt"))
  check (decide (¬(decidedAt < reviewedAt ∨ revisionCreatedAt < decidedAt ∨
    capturedAt < decidedAt))) "invalid_evidence_time"

/-- The gates, the entries of the admission and the manifests, index by index. -/
def verifyGateBindings (revisionCreatedAt capturedAt : Time) :
    List Gate → List Value → List Manifest → Verified Unit
  | gateId :: gateIds, gate :: gates, manifest :: manifests => do
      verifyGateBinding setting revisionCreatedAt capturedAt gateId gate manifest
      verifyGateBindings revisionCreatedAt capturedAt gateIds gates manifests
  | _, _, _ => .ok ()

/-- The admission of an export's dossier. -/
def exportedAdmission (exported : Value) : Value := (exported.get (js "dossier")).get (js "admission")

def verifyAdmissionBindings (exported : Value) (manifests : List Manifest) : Verified Unit :=
  let admission := exportedAdmission exported
  match admission.get (js "gates") with
  | .array gates => do
      check (isText (admission.get (js "status")) (js "admitted") &&
        manifests.length == Gate.all.length && gates.length == Gate.all.length)
        "admission_not_complete"
      check ((manifests.map Manifest.scopeReference).dedup.length == 1) "inconsistent_scope"
      let revisionCreatedAt ← timestamp setting (admission.get (js "revisionCreatedAt"))
      let capturedAt ← timestamp setting (exported.get (js "capturedAt"))
      check (decide (¬capturedAt < revisionCreatedAt)) "invalid_admission_time"
      verifyGateBindings setting revisionCreatedAt capturedAt Gate.all gates manifests
  | _ => fail (js "admission_not_complete")

/-! ## The files -/

/-- An entry of the manifest directory. -/
structure Entry where
  name : JsString
  isFile : Bool
  contents : List Byte

def manifestName (gate : Gate) : JsString := gateName gate ++ js ".json"

/-- An error of another package. -/
def unavailable {ε α : Type} (result : Except ε α) : Verified α :=
  result.mapError fun _ => js "verification_unavailable"

def manifestText (contents : List Byte) : Verified JsString :=
  match decodeFatal contents with
  | none => fail (js "invalid_manifest_json")
  | some text => do
      check (!text.contains 0) "invalid_manifest_text"
      return text

def readCanonicalManifest (contents : List Byte) : Verified Manifest := do
  let text ← manifestText contents
  let value ← parseJSON text "invalid_manifest_json"
  let manifest ← unavailable (validatePilotGateManifest setting.tools.sha256Hex value)
  let canonical ← unavailable (pilotGateManifestJSON setting.tools.sha256Hex
    (manifestValue manifest))
  check (canonical == text) "noncanonical_manifest"
  return manifest

/-- The contents of a file of the directory. -/
def fileContents (entries : List Entry) (name : JsString) : Verified (List Byte) :=
  match entries.find? fun entry => entry.name = name with
  | some entry => .ok entry.contents
  | none => fail (js "verification_unavailable")

def readGateManifest (entries : List Entry) (gate : Gate) : Verified Manifest := do
  let contents ← fileContents entries (manifestName gate)
  check (decide (1 ≤ contents.length ∧ contents.length ≤ MAXIMUM_MANIFEST_BYTES))
    "invalid_physical_file"
  let manifest ← readCanonicalManifest setting contents
  check (isText manifest.gateId (gateName gate)) "manifest_gate_mismatch"
  return manifest

def readManifests (entries : List Entry) : List Gate → Verified (List Manifest)
  | [] => .ok []
  | gate :: rest => do
      let manifest ← readGateManifest setting entries gate
      let later ← readManifests entries rest
      return manifest :: later

/-- The export in the text of a verified dossier. -/
def exportText (json : Bool) (text : JsString) : Verified JsString :=
  if json then .ok text else embedded text "invalid_dossier_embedding"

def verifiedReadinessExport (expectedDigest expectedKeyFingerprint : Value)
    (contents : List Byte) : Verified (Value × DossierVerification) := do
  let verification ← verifyReadinessDossierBytes setting.tools expectedDigest
    expectedKeyFingerprint contents
  check verification.integritySeal "unsigned_dossier"
  let text ← decodedText contents
  let inside ← exportText verification.json text
  let exported ← parseJSON inside "invalid_dossier"
  let members ← validateReadinessExport setting.tools exported
  check (isSigned members) "unsigned_dossier"
  return (exported, verification)

/-- What an accepted set reports, besides the words that say so. -/
structure EvidenceVerification where
  dossier : DossierVerification
  evidencePackages : ℕ

/-- The set of a dossier and a directory of manifests. -/
def verifyPilotAdmissionEvidenceSet (expectedDigest expectedKeyFingerprint : Value)
    (dossier : List Byte) (entries : List Entry) : Verified EvidenceVerification := do
  check (sortKeys (entries.map Entry.name) == sortKeys (Gate.all.map manifestName) &&
    entries.all Entry.isFile) "manifest_inventory_mismatch"
  let manifests ← readManifests setting entries Gate.all
  check (1 ≤ dossier.length && dossier.length ≤ MAXIMUM_READINESS_DOSSIER_BYTES)
    "invalid_physical_file"
  let (exported, verification) ← verifiedReadinessExport setting expectedDigest
    expectedKeyFingerprint dossier
  verifyAdmissionBindings setting exported manifests
  return ⟨verification, manifests.length⟩

/-! ## Honest sets -/

/-- A file holds the canonical text of a valid manifest. -/
structure CanonicalManifest (contents : List Byte) (manifest : Manifest) (text : JsString)
    (value : Value) : Prop where
  decoded : decodeFatal contents = some text
  parsed : parse text = some value
  valid : validatePilotGateManifest setting.tools.sha256Hex value = .ok manifest
  canonical : pilotGateManifestJSON setting.tools.sha256Hex (manifestValue manifest) = .ok text

/-- The gate of an admission records the evidence of its manifest. -/
structure Recorded (gate : Value) (gateId : Gate) (manifest : Manifest)
    (decidedAt : Time) : Prop where
  id : gate.get (js "id") = .string (gateName gateId)
  state : gate.get (js "state") = .string (js "approved")
  evidenceDigest : gate.get (js "evidenceDigest") = .string manifest.packageDigest
  evidenceReference : gate.get (js "evidenceReference") = .string manifest.evidenceReference
  reviewerReference : gate.get (js "reviewerReference") = .string manifest.reviewerReference
  decidedAt : gate.get (js "decidedAt") = .string (isoText decidedAt)

/-- The manifest of one gate in an honest set. -/
structure HonestGate (entries : List Entry) (gate : Value) (gateId : Gate) (manifest : Manifest)
    (scope : JsString) (revisionCreatedAt : Time) : Prop where
  file : ∃ entry ∈ entries, entry.name = manifestName gateId ∧
    ∃ text value, CanonicalManifest setting entry.contents manifest text value
  own : manifest.gateId = .string (gateName gateId)
  digest : digestCanonical setting.tools.sha256Hex (.object (normalizedMembers manifest)) =
    manifest.packageDigest
  scope : manifest.scopeReference = scope
  recorded : ∃ decidedAt, Recorded gate gateId manifest decidedAt ∧
    readTime manifest.reviewedAt ≤ decidedAt ∧ decidedAt ≤ revisionCreatedAt

/-- A set in which the admission records the evidence of one canonical manifest for
each gate, all of one scope, in the order of time. -/
structure HonestSet (entries : List Entry) (exported : Value) (gates : List Value)
    (manifest : Gate → Manifest) (scope : JsString) (revisionCreatedAt capturedAt : Time) :
    Prop where
  names : (entries.map Entry.name).Perm (Gate.all.map manifestName)
  listed : (exportedAdmission exported).get (js "gates") = .array gates
  each : List.Forall₂ (fun gateId gate =>
    HonestGate setting entries gate gateId (manifest gateId) scope revisionCreatedAt) Gate.all gates
  revision : (exportedAdmission exported).get (js "revisionCreatedAt") =
    .string (isoText revisionCreatedAt)
  captured : exported.get (js "capturedAt") = .string (isoText capturedAt)
  ordered : revisionCreatedAt ≤ capturedAt

/-! ## What the checks establish -/

theorem check_ok {holds : Bool} {code : String} {result : Unit}
    (passed : check holds code = .ok result) : holds = true := by
  cases holds with
  | false => cases passed
  | true => rfl

theorem textField_ok {holds : JsString → Bool} {value : Value} {name text : JsString}
    (passed : textField holds value name = .ok text) :
    value = .string text ∧ holds text = true := by
  unfold textField at passed
  split at passed
  case h_1 own found =>
    cases passed
    obtain ⟨read, fits⟩ := Option.filter_eq_some_iff.mp found
    exact ⟨stringText_eq_some.mp read, fits⟩
  case h_2 => cases passed

theorem mapError_ok {ε δ α : Type} {rename : ε → δ} {result : Except ε α} {value : α}
    (passed : result.mapError rename = .ok value) : result = .ok value := by
  cases result with
  | error => cases passed
  | ok other => rw [Except.ok.inj passed]

theorem isText_iff {value : Value} {text : JsString} :
    isText value text = true ↔ value = .string text := by
  rw [isText, beq_iff_eq, stringText_eq_some]

/-- A canonical timestamp is the text of the time that it denotes. -/
theorem canonicalTimestamp_ok {value : Value} {name text : JsString}
    (passed : canonicalTimestamp value name = .ok text) :
    value = .string (isoText (readTime text)) := by
  obtain ⟨rfl, canonical⟩ := textField_ok passed
  rw [show isoText (readTime text) = text from eq_of_beq canonical]

theorem timestamp_isoText (time : Time) :
    timestamp setting (.string (isoText time)) = .ok time := by
  have read := setting.dateParse_canonical (isoText time) (isCanonicalTimestamp_isoText time)
  rw [readTime_isoText] at read
  simp [timestamp, stringText, read]

theorem exactObject_ok {value : Value} {name : JsString} {keys : List JsString}
    {members : Members} (passed : exactObject value name keys = .ok members) :
    value = .object members := by
  unfold exactObject at passed
  split at passed
  case h_1 =>
    split at passed
    · cases passed
      rfl
    · cases passed
  case h_2 => cases passed

/-- Every item of a list that is visited without an error passes. -/
theorem mapM_each {α β ε : Type} {visit : α → Except ε β} {items : List α} {results : List β}
    (visited : items.mapM visit = .ok results) :
    ∀ item ∈ items, ∃ result, visit item = .ok result := by
  induction items generalizing results with
  | nil => simp
  | cons first rest inductionHypothesis =>
      rw [List.mapM_cons] at visited
      obtain ⟨result, own, visited⟩ := bind_ok visited
      obtain ⟨later, others, -⟩ := bind_ok visited
      exact List.forall_mem_cons.mpr ⟨⟨result, own⟩, inductionHypothesis others⟩

/-- An approved gate that its validator accepts was decided at a time. -/
theorem validateAdmissionGate_decidedAt {platform : Productization.TextPlatform} {value : Value}
    {result : Gate × GateState} (valid : validateAdmissionGate platform value = .ok result)
    (approved : value.get (js "state") = .string (js "approved")) :
    ∃ decidedAt, value.get (js "decidedAt") = .string (isoText decidedAt) := by
  obtain ⟨members, read, accepted⟩ := bind_ok valid
  obtain rfl := strictObject_object read
  obtain ⟨id, -, accepted⟩ := bind_ok accepted
  split at accepted
  · cases accepted
  obtain ⟨state, tokenized, accepted⟩ := bind_ok accepted
  have same : Value.member members (js "state") = .string (js "approved") := approved
  rw [same, (state_token _).2] at tokenized
  obtain rfl := Except.ok.inj tokenized
  rw [if_neg (by decide), if_neg (by simp)] at accepted
  obtain ⟨decidedAt, timed, -⟩ := bind_ok accepted
  cases text : Value.member members (js "decidedAt") with
  | string own =>
      simp only [text, Productization.canonicalTimestamp] at timed
      split at timed
      case isTrue canonical =>
        refine ⟨readTime own, text.trans ?_⟩
        rw [show isoText (readTime own) = own from eq_of_beq canonical]
      case isFalse => cases timed
  | _ =>
      rw [text] at timed
      cases timed

/-- What the dossier check establishes of an admission. -/
structure CheckedAdmission (admission : Value) : Prop where
  revision : ∃ revisionCreatedAt,
    admission.get (js "revisionCreatedAt") = .string (isoText revisionCreatedAt)
  gates : ∀ items, admission.get (js "gates") = .array items →
    ∀ gate ∈ items, gate.get (js "state") = .string (js "approved") →
      ∃ decidedAt, gate.get (js "decidedAt") = .string (isoText decidedAt)

theorem validateTenantAdmission_gates {platform : Productization.TextPlatform} {members : Members}
    {admission : TenantAdmission} {items : List Value}
    (accepted : validateTenantAdmission platform (.object members) = .ok admission)
    (listed : Value.member members (js "gates") = .array items) :
    ∀ gate ∈ items, ∃ result, validateAdmissionGate platform gate = .ok result := by
  obtain ⟨own, read, accepted⟩ := bind_ok accepted
  obtain rfl := Value.object.inj (strictObject_object read)
  split at accepted
  · cases accepted
  rw [listed] at accepted
  dsimp only at accepted
  split at accepted
  · cases accepted
  obtain ⟨gates, visited, -⟩ := bind_ok accepted
  exact mapM_each visited

theorem validateAdmission_ok {tools : Tools} {value : Value} {admission : TenantAdmission}
    (validated : validateAdmission tools value = .ok admission) : CheckedAdmission value := by
  obtain ⟨members, own, passed⟩ := bind_ok validated
  obtain rfl := exactObject_ok own
  obtain ⟨_, -, passed⟩ := bind_ok passed
  obtain ⟨_, -, passed⟩ := bind_ok passed
  obtain ⟨createdAt, timed, passed⟩ := bind_ok passed
  obtain ⟨normalized, accepted, -⟩ := bind_ok passed
  refine ⟨⟨_, canonicalTimestamp_ok timed⟩, fun items listed gate inside approved => ?_⟩
  have valid := mapError_ok accepted
  obtain ⟨result, checked⟩ := validateTenantAdmission_gates valid listed gate inside
  exact validateAdmissionGate_decidedAt checked approved

theorem validateDossier_ok {tools : Tools} {value : Value} {result : Unit}
    (validated : validateDossier tools value = .ok result) :
    CheckedAdmission (value.get (js "admission")) := by
  obtain ⟨members, own, passed⟩ := bind_ok validated
  obtain rfl := exactObject_ok own
  obtain ⟨_, -, passed⟩ := bind_ok passed
  obtain ⟨admission, checked, -⟩ := bind_ok passed
  exact validateAdmission_ok checked

/-- An export that passes was captured at a time, and its admission is checked. -/
theorem validateReadinessExport_ok {tools : Tools} {value : Value} {members : Members}
    (validated : validateReadinessExport tools value = .ok members) :
    value = .object members ∧ CheckedAdmission (exportedAdmission value) ∧
      ∃ capturedAt, value.get (js "capturedAt") = .string (isoText capturedAt) := by
  obtain ⟨keys, -, read⟩ := bind_ok validated
  obtain ⟨own, exact, passed⟩ := bind_ok read
  obtain rfl := exactObject_ok exact
  obtain ⟨_, -, passed⟩ := bind_ok passed
  obtain ⟨capturedAt, timed, passed⟩ := bind_ok passed
  obtain ⟨_, -, passed⟩ := bind_ok passed
  obtain ⟨_, -, passed⟩ := bind_ok passed
  obtain ⟨_, dossier, passed⟩ := bind_ok passed
  obtain ⟨_, -, passed⟩ := bind_ok passed
  obtain ⟨_, -, passed⟩ := bind_ok passed
  have same : own = members := by
    split at passed
    · obtain ⟨_, -, passed⟩ := bind_ok passed
      exact Except.ok.inj passed
    · exact Except.ok.inj passed
  subst same
  exact ⟨rfl, validateDossier_ok dossier, _, canonicalTimestamp_ok timed⟩

/-- What the manifest check establishes of the fields that an admission takes over. -/
structure CheckedManifest (sha256Hex : JsString → JsString) (manifest : Manifest) : Prop where
  covered : digestCanonical sha256Hex (.object (normalizedMembers manifest)) =
    manifest.packageDigest
  packageDigest : isDigest manifest.packageDigest = true
  evidenceReference : opaqueReference manifest.evidenceReference = true
  reviewedAt : isCanonicalTimestamp manifest.reviewedAt = true
  reviewerReference : opaqueReference manifest.reviewerReference = true

theorem textOr_ok {holds : JsString → Bool} {value : Value} {code : String} {text : JsString}
    (passed : textOr holds value code = .ok text) : holds text = true := by
  obtain ⟨-, fits⟩ := Option.filter_eq_some_iff.mp (textOr_iff.mp passed)
  exact fits

theorem validatePilotGateDescriptor_ok {value : Value} {descriptor : Descriptor}
    (validated : validatePilotGateDescriptor value = .ok descriptor) :
    opaqueReference descriptor.evidenceReference = true ∧
      isCanonicalTimestamp descriptor.reviewedAt = true ∧
      opaqueReference descriptor.reviewerReference = true := by
  simp only [validatePilotGateDescriptor, ok_bind_iff] at validated
  obtain ⟨_, -, _, -, _, -, _, -, _, -, _, -, _, evidence, _, reviewed, _, reviewer, _, -, result⟩ :=
    validated
  obtain rfl := Except.ok.inj result
  exact ⟨textOr_ok evidence, textOr_ok reviewed, textOr_ok reviewer⟩

theorem validatePilotGateManifest_ok {sha256Hex : JsString → JsString} {value : Value}
    {manifest : Manifest} (validated : validatePilotGateManifest sha256Hex value = .ok manifest) :
    CheckedManifest sha256Hex manifest := by
  simp only [validatePilotGateManifest, ok_bind_iff, check_iff] at validated
  obtain ⟨_, -, _, -, _, -, _, -, _, -, descriptor, described, _, package, _, covered, result⟩ :=
    validated
  obtain rfl := Except.ok.inj result
  obtain ⟨evidence, reviewed, reviewer⟩ := validatePilotGateDescriptor_ok described
  exact ⟨eq_of_beq covered, textOr_ok package, evidence, reviewed, reviewer⟩

/-! ## Accepted sets are honest -/

theorem readManifests_ok {entries : List Entry} {gates : List Gate} {manifests : List Manifest}
    (read : readManifests setting entries gates = .ok manifests) :
    ∀ gate ∈ gates, ∃ manifest, readGateManifest setting entries gate = .ok manifest := by
  induction gates generalizing manifests with
  | nil => simp
  | cons gate rest inductionHypothesis =>
      obtain ⟨manifest, own, read⟩ := bind_ok read
      obtain ⟨later, others, -⟩ := bind_ok read
      exact List.forall_mem_cons.mpr ⟨⟨manifest, own⟩, inductionHypothesis others⟩

/-- The manifests are read in the order of the gates. -/
theorem readManifests_map {entries : List Entry} {manifest : Gate → Manifest}
    (each : ∀ gate, readGateManifest setting entries gate = .ok (manifest gate))
    (gates : List Gate) : readManifests setting entries gates = .ok (gates.map manifest) := by
  induction gates with
  | nil => rfl
  | cons gate rest inductionHypothesis =>
      rw [readManifests, each, inductionHypothesis]
      rfl

theorem readCanonicalManifest_ok {contents : List Byte} {manifest : Manifest}
    (passed : readCanonicalManifest setting contents = .ok manifest) :
    ∃ text value, CanonicalManifest setting contents manifest text value := by
  obtain ⟨text, decoded, passed⟩ := bind_ok passed
  obtain ⟨value, parsed, passed⟩ := bind_ok passed
  obtain ⟨own, validated, passed⟩ := bind_ok passed
  obtain ⟨canonical, printed, passed⟩ := bind_ok passed
  obtain ⟨_, same, passed⟩ := bind_ok passed
  have result : own = manifest := Except.ok.inj passed
  have exact : canonical = text := eq_of_beq (check_ok same)
  subst result exact
  refine ⟨canonical, value, ?_, ?_, mapError_ok validated, mapError_ok printed⟩
  · unfold manifestText at decoded
    split at decoded
    case h_1 => cases decoded
    case h_2 other whole =>
      obtain ⟨_, -, decoded⟩ := bind_ok decoded
      rw [whole, Except.ok.inj decoded]
  · unfold parseJSON at parsed
    split at parsed
    case h_1 other whole => rw [whole, Except.ok.inj parsed]
    case h_2 => cases parsed

/-- A manifest file that is read holds the canonical text of a manifest of its gate. -/
theorem readGateManifest_ok {entries : List Entry} {gate : Gate} {manifest : Manifest}
    (passed : readGateManifest setting entries gate = .ok manifest) :
    manifest.gateId = .string (gateName gate) ∧ ∃ entry ∈ entries,
      entry.name = manifestName gate ∧
        ∃ text value, CanonicalManifest setting entry.contents manifest text value := by
  obtain ⟨contents, found, passed⟩ := bind_ok passed
  obtain ⟨_, -, passed⟩ := bind_ok passed
  obtain ⟨own, read, passed⟩ := bind_ok passed
  obtain ⟨_, gated, passed⟩ := bind_ok passed
  have result : own = manifest := Except.ok.inj passed
  subst result
  refine ⟨isText_iff.mp (check_ok gated), ?_⟩
  unfold fileContents at found
  split at found
  case h_2 => cases found
  case h_1 entry first =>
    refine ⟨entry, List.mem_of_find?_eq_some first, by simpa using List.find?_some first, ?_⟩
    rw [Except.ok.inj found]
    exact readCanonicalManifest_ok setting read

/-- Each gate of the admission is checked against its own manifest. -/
theorem verifyGateBindings_ok {revisionCreatedAt capturedAt : Time} {manifest : Gate → Manifest}
    {gateIds : List Gate} {gates : List Value} {result : Unit}
    (lengths : gates.length = gateIds.length)
    (passed : verifyGateBindings setting revisionCreatedAt capturedAt gateIds gates
      (gateIds.map manifest) = .ok result) :
    List.Forall₂ (fun gateId gate => verifyGateBinding setting revisionCreatedAt capturedAt gateId
      gate (manifest gateId) = .ok ()) gateIds gates := by
  induction gateIds generalizing gates with
  | nil =>
      rw [List.length_eq_zero_iff.mp lengths]
      exact .nil
  | cons gateId rest inductionHypothesis =>
      cases gates with
      | nil => cases lengths
      | cons gate gates =>
          obtain ⟨_, own, others⟩ := bind_ok passed
          exact .cons own (inductionHypothesis (Nat.succ.inj lengths) others)

/-- A gate that passes records the evidence of its manifest, in the order of time. -/
theorem verifyGateBinding_ok {revisionCreatedAt capturedAt : Time} {gateId : Gate} {gate : Value}
    {manifest : Manifest} {result : Unit}
    (passed : verifyGateBinding setting revisionCreatedAt capturedAt gateId gate manifest =
      .ok result)
    (reviewed : isCanonicalTimestamp manifest.reviewedAt = true)
    (decided : gate.get (js "state") = .string (js "approved") →
      ∃ decidedAt, gate.get (js "decidedAt") = .string (isoText decidedAt)) :
    ∃ decidedAt, Recorded gate gateId manifest decidedAt ∧
      readTime manifest.reviewedAt ≤ decidedAt ∧ decidedAt ≤ revisionCreatedAt := by
  obtain ⟨_, matched, passed⟩ := bind_ok passed
  have matching := check_ok matched
  simp only [Bool.and_eq_true, isText_iff] at matching
  obtain ⟨⟨⟨⟨⟨id, -⟩, state⟩, digest⟩, evidence⟩, reviewer⟩ := matching
  obtain ⟨decidedAt, text⟩ := decided state
  obtain ⟨reviewedAt, first, passed⟩ := bind_ok passed
  obtain ⟨_, second, passed⟩ := bind_ok passed
  have canonical : manifest.reviewedAt = isoText (readTime manifest.reviewedAt) :=
    (eq_of_beq reviewed).symm
  rw [canonical, timestamp_isoText] at first
  rw [text, timestamp_isoText] at second
  obtain rfl := Except.ok.inj first
  obtain rfl := Except.ok.inj second
  have ordered := check_ok passed
  simp only [decide_eq_true_eq, not_or, not_lt] at ordered
  exact ⟨decidedAt, ⟨id, state, digest, evidence, reviewer, text⟩, ordered.1, ordered.2.1⟩

/-- A gate that records the evidence of its manifest passes when the times follow one
another. -/
theorem verifyGateBinding_recorded {revisionCreatedAt capturedAt decidedAt : Time} {gateId : Gate}
    {gate : Value} {manifest : Manifest} (recorded : Recorded gate gateId manifest decidedAt)
    (own : manifest.gateId = .string (gateName gateId))
    (reviewed : isCanonicalTimestamp manifest.reviewedAt = true)
    (ordered : readTime manifest.reviewedAt ≤ decidedAt ∧ decidedAt ≤ revisionCreatedAt ∧
      decidedAt ≤ capturedAt) :
    verifyGateBinding setting revisionCreatedAt capturedAt gateId gate manifest = .ok () := by
  have matched : ∀ text : JsString, isText (.string text) text = true :=
    fun text => isText_iff.mpr rfl
  have reviewedAt := timestamp_isoText setting (readTime manifest.reviewedAt)
  rw [eq_of_beq reviewed] at reviewedAt
  have inTime : ¬(decidedAt < readTime manifest.reviewedAt ∨ revisionCreatedAt < decidedAt ∨
      capturedAt < decidedAt) := by
    simp only [not_or, not_lt]
    exact ordered
  rw [verifyGateBinding, recorded.id, own, recorded.state, recorded.evidenceDigest,
    recorded.evidenceReference, recorded.reviewerReference, recorded.decidedAt, reviewedAt,
    timestamp_isoText]
  simp only [matched, Bool.and_self, check, if_true, bind, Except.bind, inTime,
    not_false_eq_true, decide_true]

theorem verifyGateBindings_map {revisionCreatedAt capturedAt : Time} {gate : Gate → Value}
    {manifest : Gate → Manifest}
    (each : ∀ gateId, verifyGateBinding setting revisionCreatedAt capturedAt gateId (gate gateId)
      (manifest gateId) = .ok ()) (gateIds : List Gate) :
    verifyGateBindings setting revisionCreatedAt capturedAt gateIds (gateIds.map gate)
      (gateIds.map manifest) = .ok () := by
  induction gateIds with
  | nil => rfl
  | cons gateId rest inductionHypothesis =>
      rw [List.map_cons, List.map_cons, verifyGateBindings, each]
      exact inductionHypothesis

/-- A list whose distinct values are one value has that value everywhere. -/
theorem one_scope {manifests : List Manifest}
    (single : (manifests.map Manifest.scopeReference).dedup.length = 1) :
    ∃ scope, ∀ manifest ∈ manifests, manifest.scopeReference = scope := by
  obtain ⟨scope, only⟩ := List.length_eq_one_iff.mp single
  refine ⟨scope, fun manifest inside => ?_⟩
  have member := List.mem_dedup.mpr (List.mem_map_of_mem (f := Manifest.scopeReference) inside)
  rw [only] at member
  exact List.mem_singleton.mp member

theorem sortKeys_perm {left right : List JsString} (same : sortKeys left = sortKeys right) :
    left.Perm right := by
  have sorted : (sortKeys left).Perm left := List.perm_insertionSort _ left
  rw [same] at sorted
  exact sorted.symm.trans (List.perm_insertionSort _ right)

theorem verifiedReadinessExport_ok {expectedDigest expectedKeyFingerprint : Value}
    {contents : List Byte} {exported : Value} {verification : DossierVerification}
    (passed : verifiedReadinessExport setting expectedDigest expectedKeyFingerprint contents =
      .ok (exported, verification)) :
    CheckedAdmission (exportedAdmission exported) ∧
      ∃ capturedAt, exported.get (js "capturedAt") = .string (isoText capturedAt) := by
  obtain ⟨_, -, passed⟩ := bind_ok passed
  obtain ⟨_, -, passed⟩ := bind_ok passed
  obtain ⟨_, -, passed⟩ := bind_ok passed
  obtain ⟨_, -, passed⟩ := bind_ok passed
  obtain ⟨value, -, passed⟩ := bind_ok passed
  obtain ⟨members, validated, passed⟩ := bind_ok passed
  obtain ⟨_, -, passed⟩ := bind_ok passed
  obtain ⟨rfl, rfl⟩ := Prod.mk.inj (Except.ok.inj passed)
  exact (validateReadinessExport_ok validated).2

/-- A set that passes is honest. -/
theorem verifyPilotAdmissionEvidenceSet_ok {expectedDigest expectedKeyFingerprint : Value}
    {dossier : List Byte} {entries : List Entry} {result : EvidenceVerification}
    (passed : verifyPilotAdmissionEvidenceSet setting expectedDigest expectedKeyFingerprint
      dossier entries = .ok result) :
    ∃ exported verification gates manifest scope revisionCreatedAt capturedAt,
      verifiedReadinessExport setting expectedDigest expectedKeyFingerprint dossier =
          .ok (exported, verification) ∧
        HonestSet setting entries exported gates manifest scope revisionCreatedAt capturedAt := by
  obtain ⟨_, inventory, passed⟩ := bind_ok passed
  obtain ⟨manifests, read, passed⟩ := bind_ok passed
  obtain ⟨_, -, passed⟩ := bind_ok passed
  obtain ⟨⟨exported, verification⟩, verified, passed⟩ := bind_ok passed
  obtain ⟨_, bound, -⟩ := bind_ok passed
  obtain ⟨checked, capturedAt, captured⟩ := verifiedReadinessExport_ok setting verified
  obtain ⟨revisionCreatedAt, revision⟩ := checked.revision
  -- one manifest is read for each gate
  choose manifest own using fun gate : Gate =>
    readManifests_ok setting read gate gate.mem_all
  rw [readManifests_map setting own] at read
  obtain rfl := Except.ok.inj read
  unfold verifyAdmissionBindings at bound
  dsimp only at bound
  split at bound
  case h_2 => cases bound
  case h_1 gates listed =>
    obtain ⟨_, complete, bound⟩ := bind_ok bound
    obtain ⟨_, scopes, bound⟩ := bind_ok bound
    obtain ⟨first, revised, bound⟩ := bind_ok bound
    obtain ⟨second, timed, bound⟩ := bind_ok bound
    obtain ⟨_, ordered, bound⟩ := bind_ok bound
    rw [revision, timestamp_isoText] at revised
    rw [captured, timestamp_isoText] at timed
    obtain rfl := Except.ok.inj revised
    obtain rfl := Except.ok.inj timed
    have complete := check_ok complete
    simp only [Bool.and_eq_true, beq_iff_eq] at complete
    obtain ⟨scope, same⟩ := one_scope (eq_of_beq (check_ok scopes))
    have each := verifyGateBindings_ok setting complete.2 bound
    have names := sortKeys_perm (eq_of_beq (Bool.and_eq_true_iff.mp (check_ok inventory)).1)
    refine ⟨exported, verification, gates, manifest, scope, revisionCreatedAt, capturedAt,
      verified, names, listed, ?_, revision, captured, by simpa using check_ok ordered⟩
    refine List.forall₂_iff_get.mpr ⟨each.length_eq, fun index inside within => ?_⟩
    have gateOk := each.get inside within
    generalize Gate.all.get ⟨index, inside⟩ = gateId at gateOk ⊢
    obtain ⟨name, file⟩ := readGateManifest_ok setting (own gateId)
    obtain ⟨entry, member, named, text, value, canonical⟩ := file
    have checkedManifest := validatePilotGateManifest_ok canonical.valid
    exact ⟨⟨entry, member, named, text, value, canonical⟩, name, checkedManifest.covered,
      same _ (List.mem_map_of_mem gateId.mem_all),
      verifyGateBinding_ok setting gateOk checkedManifest.reviewedAt
        (checked.gates gates listed _ (List.get_mem _ _))⟩

end Setting

end Vasi.PilotAdmission
