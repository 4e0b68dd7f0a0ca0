import Vasi.PilotGate

/-!
# Importing a pilot gate manifest in the browser

The admission page checks a manifest file by itself before it fills in a gate's
approval. It reads the same bytes as the offline package and accepts the same
canonical text, with validators of its own that ask for strings where the
package converts. What both accept is stated once, for either way of reading an
id: the two verifiers agree on every file but one whose ids are strings only
after conversion.
-/
namespace Vasi.PilotGateImport

open JsValue Validation Coercion PrettyJson Utf8 PilotGate
open JsonText (parse)
open ReleaseArchive (decodeFatal lowerCase)
open Productization (isDigest)

/-! ## The import -/

def require (holds : Bool) : Option Unit := if holds then some () else none

/-- The name from its last point on; without a point, its last character. -/
def fromLastPoint (name : JsString) : JsString :=
  match name.reverse.findIdx? (· = 46) with
  | none => name.drop (name.length - 1)
  | some fromEnd => name.drop (name.length - fromEnd - 1)

/-- One artifact, and its path. -/
def normalizeArtifact (ids : List Value) (paths : List JsString) (entry : Value) :
    Option (Artifact × JsString) := do
  let artifact ← exactMembers entry artifactKeys
  let bytes ← artifactBytes (Value.member artifact (js "bytes"))
  let id ← stringText (Value.member artifact (js "id"))
  require (isIdentifier id && !has ids (.string id))
  let mediaType ← stringText (Value.member artifact (js "mediaType"))
  let extension ← mediaExtensions.lookup mediaType
  let path ← stringText (Value.member artifact (js "path"))
  require (artifactFilename path && !(js ".").isPrefixOf path && !forbiddenArtifactName path &&
    !paths.contains path)
  require ((fromLastPoint path).map lowerCase == extension)
  let digest ← textWhere isDigest (Value.member artifact (js "sha256"))
  return (⟨bytes, .string id, .string mediaType, .string path, digest⟩, path)

def normalizeArtifactList (ids : List Value) (paths : List JsString) :
    List Value → Option (List Artifact)
  | [] => some []
  | entry :: rest => do
      let (artifact, path) ← normalizeArtifact ids paths entry
      let later ← normalizeArtifactList (add ids artifact.id) (path :: paths) rest
      return artifact :: later

def normalizeArtifacts (value : Value) : Option (List Artifact) := do
  let entries ← boundedArray value
  let artifacts ← normalizeArtifactList [] [] entries
  require (decide (totalBytes artifacts ≤ MAXIMUM_TOTAL_BYTES))
  require (inOrder (artifacts.map Artifact.id))
  return artifacts

/-- Whether an id of a checklist item is a string that names an artifact. -/
def isKnownArtifact (artifactIds : List Value) (id : Value) : Bool :=
  (textWhere isIdentifier id).isSome && has artifactIds id

def normalizeException (outcome : Outcome) (value : Value) : Option (Option JsString) :=
  match outcome, value with
  | .acceptedException, value => (textWhere opaqueReference value).map some
  | .satisfied, .null => some none
  | .satisfied, _ => none

def normalizeChecklistItem (artifactIds : List Value) (required : JsString) (entry : Value) :
    Option ChecklistItem := do
  let item ← exactMembers entry checklistKeys
  require (isItem (Value.member item (js "id")) (some required))
  let ids ← boundedArray (Value.member item (js "artifactIds"))
  require (ids.all (isKnownArtifact artifactIds) && (newSet ids).length == ids.length &&
    inOrder ids)
  let outcome ← outcomeOf (Value.member item (js "outcome"))
  let exceptionReference ← normalizeException outcome (Value.member item (js "exceptionReference"))
  return ⟨ids, exceptionReference, .string required, outcome⟩

/-- The items of a checklist, each with the required id at its index. -/
def normalizeChecklistItems (artifactIds : List Value) :
    List JsString → List Value → Option (List ChecklistItem)
  | required :: others, entry :: rest => do
      let item ← normalizeChecklistItem artifactIds required entry
      let later ← normalizeChecklistItems artifactIds others rest
      return item :: later
  | [], [] => some []
  | _, _ => none

def normalizeChecklist (value : Value) (required : List JsString) (artifactIds : List Value) :
    Option (List ChecklistItem) :=
  match value with
  | .array entries => normalizeChecklistItems artifactIds required entries
  | _ => none

section

variable (sha256Hex : JsString → JsString)

/-- The checks of verifyPilotGateManifestText on the parsed document. -/
def normalizeManifest (value : Value) (expectedGateId : JsString) : Option Manifest := do
  let manifest ← exactMembers value manifestKeys
  require (stringText (Value.member manifest (js "schema")) == some MANIFEST_SCHEMA)
  require (sameArray (Value.member manifest (js "limitations")) LIMITATIONS)
  let gateId ← stringText (Value.member manifest (js "gateId"))
  let required ← CHECKLISTS.lookup gateId
  require (gateId == expectedGateId)
  let artifacts ← normalizeArtifacts (Value.member manifest (js "artifacts"))
  let artifactIds := newSet (artifacts.map Artifact.id)
  let checklist ← normalizeChecklist (Value.member manifest (js "checklist")) required artifactIds
  require ((newSet (checklist.flatMap ChecklistItem.artifactIds)).length == artifacts.length)
  let evidenceReference ← textWhere opaqueReference
    (Value.member manifest (js "evidenceReference"))
  let reviewedAt ← textWhere IsoTime.isCanonicalTimestamp (Value.member manifest (js "reviewedAt"))
  let reviewerReference ← textWhere opaqueReference
    (Value.member manifest (js "reviewerReference"))
  let scopeReference ← textWhere opaqueReference (Value.member manifest (js "scopeReference"))
  let packageDigest ← textWhere isDigest (Value.member manifest (js "packageDigest"))
  let normalized : Manifest := ⟨artifacts, checklist, evidenceReference, .string gateId,
    packageDigest, reviewedAt, reviewerReference, scopeReference⟩
  require (digestCanonical sha256Hex (.object (normalizedMembers normalized)) == packageDigest)
  return normalized

structure PilotGateManifestImport where
  approval : AdmissionEvidence
  artifacts : ℕ
  checklistItems : ℕ
  exceptions : ℕ
  gateId : Value
  packageSha256 : JsString
  reviewedAt : JsString
  totalBytes : ℕ

def importOf (manifest : Manifest) : PilotGateManifestImport :=
  ⟨⟨manifest.packageDigest, manifest.evidenceReference, manifest.reviewerReference⟩,
    manifest.artifacts.length, manifest.checklist.length, exceptions manifest.checklist,
    manifest.gateId, manifest.packageDigest, manifest.reviewedAt, totalBytes manifest.artifacts⟩

def verifyPilotGateManifestText (text : JsString) (expectedGateId : JsString) :
    Option PilotGateManifestImport := do
  require (decide (text ≠ [] ∧ text.length ≤ MAXIMUM_MANIFEST_BYTES) &&
    decide ((encode text).length ≤ MAXIMUM_MANIFEST_BYTES) && !text.contains 0)
  let value ← parse text
  let manifest ← normalizeManifest sha256Hex value expectedGateId
  require (prettyCanonicalJSON (manifestValue manifest) == text)
  return importOf manifest

/-- The verification of a file that holds the given bytes. -/
def verifyPilotGateManifestFile (contents : List Byte) (expectedGateId : JsString) :
    Option PilotGateManifestImport := do
  require (decide (1 ≤ contents.length ∧ contents.length ≤ MAXIMUM_MANIFEST_BYTES))
  let text ← decodeFatal contents
  require (!text.contains 0)
  verifyPilotGateManifestText sha256Hex text expectedGateId

end

/-! ## What both accept -/

/-- How a verifier reads the text of an id, a media type or a gate. -/
abbrev Reads := Value → Option JsString

/-- Whether a value reads as an identifier. -/
def ReadsIdentifier (reads : Reads) (id : Value) : Prop :=
  ∃ text, reads id = some text ∧ isIdentifier text = true

/-- A path that is allowed next to those already seen. -/
structure PathRule (paths : List JsString) (extension path : JsString) : Prop where
  filename : artifactFilename path = true
  visible : (js ".").isPrefixOf path = false
  allowed : forbiddenArtifactName path = false
  fresh : paths.contains path = false
  extension : (extname path).map lowerCase = extension

/-- The media type of an artifact is one of the contract's and goes with its path. -/
def MediaRule (reads : Reads) (paths : List JsString) (mediaType : Value) (path : JsString) :
    Prop :=
  ∃ key extension, reads mediaType = some key ∧ mediaExtensions.lookup key = some extension ∧
    PathRule paths extension path

/-- One artifact of a manifest after those with the given ids and paths. -/
structure ArtifactRule (reads : Reads) (ids : List Value) (paths : List JsString)
    (members : Members) (artifact : Artifact) (path : JsString) : Prop where
  bytes : artifactBytes (Value.member members (js "bytes")) = some artifact.bytes
  id : Value.member members (js "id") = artifact.id
  mediaType : Value.member members (js "mediaType") = artifact.mediaType
  samePath : Value.member members (js "path") = artifact.path
  sha256 : textWhere isDigest (Value.member members (js "sha256")) = some artifact.sha256
  identifier : ReadsIdentifier reads artifact.id
  fresh : has ids artifact.id = false
  pathText : stringText artifact.path = some path
  media : MediaRule reads paths artifact.mediaType path

/-- The artifacts of a manifest, one after the other. -/
inductive Listed (reads : Reads) :
    List Value → List JsString → List Value → List Artifact → Prop
  | nil (ids : List Value) (paths : List JsString) : Listed reads ids paths [] []
  | cons {ids : List Value} {paths : List JsString} {entry : Value} {rest : List Value}
      {members : Members} {artifact : Artifact} {path : JsString} {later : List Artifact}
      (exact : exactMembers entry artifactKeys = some members)
      (rule : ArtifactRule reads ids paths members artifact path)
      (others : Listed reads (add ids artifact.id) (path :: paths) rest later) :
      Listed reads ids paths (entry :: rest) (artifact :: later)

/-- One answer of the checklist. -/
structure AnswerRule (reads : Reads) (artifactIds : List Value) (required : JsString)
    (members : Members) (item : ChecklistItem) : Prop where
  id : stringText (Value.member members (js "id")) = some required
  sameId : item.id = .string required
  ids : boundedArray (Value.member members (js "artifactIds")) = some item.artifactIds
  known : ∀ id ∈ item.artifactIds, ReadsIdentifier reads id ∧ has artifactIds id = true
  distinct : (newSet item.artifactIds).length = item.artifactIds.length
  order : inOrder item.artifactIds = true
  outcome : outcomeOf (Value.member members (js "outcome")) = some item.outcome
  exception : normalizeException item.outcome (Value.member members (js "exceptionReference")) =
    some item.exceptionReference

/-- The answers of a checklist, in the order of the required ids. -/
inductive Answers (reads : Reads) (artifactIds : List Value) :
    List JsString → List Value → List ChecklistItem → Prop
  | nil : Answers reads artifactIds [] [] []
  | cons {required : JsString} {others : List JsString} {entry : Value} {rest : List Value}
      {members : Members} {item : ChecklistItem} {later : List ChecklistItem}
      (exact : exactMembers entry checklistKeys = some members)
      (rule : AnswerRule reads artifactIds required members item)
      (answers : Answers reads artifactIds others rest later) :
      Answers reads artifactIds (required :: others) (entry :: rest) (item :: later)

/-- The artifacts and the checklist of a manifest go together. -/
structure Indexed (reads : Reads) (members : Members) (manifest : Manifest)
    (entries answers : List Value) (key : JsString) (required : List JsString) : Prop where
  bounded : boundedArray (Value.member members (js "artifacts")) = some entries
  artifacts : Listed reads [] [] entries manifest.artifacts
  total : totalBytes manifest.artifacts ≤ MAXIMUM_TOTAL_BYTES
  order : inOrder (manifest.artifacts.map Artifact.id) = true
  gateId : Value.member members (js "gateId") = manifest.gateId
  gate : reads manifest.gateId = some key
  listed : CHECKLISTS.lookup key = some required
  answered : Value.member members (js "checklist") = .array answers
  checklist : Answers reads (newSet (manifest.artifacts.map Artifact.id)) required answers
    manifest.checklist
  referenced : (newSet (manifest.checklist.flatMap ChecklistItem.artifactIds)).length =
    manifest.artifacts.length

/-- The members of a document are those of a manifest. -/
structure Evident (sha256Hex : JsString → JsString) (reads : Reads) (members : Members)
    (manifest : Manifest) : Prop where
  schema : stringText (Value.member members (js "schema")) = some MANIFEST_SCHEMA
  limitations : sameArray (Value.member members (js "limitations")) LIMITATIONS = true
  indexed : ∃ entries answers key required,
    Indexed reads members manifest entries answers key required
  evidenceReference : textWhere opaqueReference (Value.member members (js "evidenceReference")) =
    some manifest.evidenceReference
  reviewedAt : textWhere IsoTime.isCanonicalTimestamp (Value.member members (js "reviewedAt")) =
    some manifest.reviewedAt
  reviewerReference : textWhere opaqueReference (Value.member members (js "reviewerReference")) =
    some manifest.reviewerReference
  scopeReference : textWhere opaqueReference (Value.member members (js "scopeReference")) =
    some manifest.scopeReference
  packageDigest : textWhere isDigest (Value.member members (js "packageDigest")) =
    some manifest.packageDigest
  digest : digestCanonical sha256Hex (.object (normalizedMembers manifest)) =
    manifest.packageDigest

/-! ## What the import accepts -/

theorem require_iff {holds : Bool} {result : Unit} :
    require holds = some result ↔ holds = true := by
  cases holds <;> simp [require]

theorem exists_unit {holds : Unit → Prop} : (∃ value, holds value) ↔ holds () :=
  ⟨fun ⟨_, held⟩ => held, fun held => ⟨(), held⟩⟩

theorem some_bind_iff {α β : Type} {first : Option α} {next : α → Option β} {result : β} :
    (first >>= next) = some result ↔ ∃ value, first = some value ∧ next value = some result :=
  Option.bind_eq_some_iff

/-- A media type's extension is at least two characters long. -/
theorem extension_long {key extension : JsString}
    (found : mediaExtensions.lookup key = some extension) : 2 ≤ extension.length := by
  have each : ∀ entry ∈ mediaExtensions, 2 ≤ entry.2.length := by decide
  obtain ⟨before, after, split, _⟩ := List.lookup_eq_some_iff.mp found
  exact each (key, extension) (by rw [split]; simp)

/-- On a name that starts with a letter or a digit the two ways to find the
extension agree for every extension that the contract has. -/
theorem extension_iff {name extension : JsString} (filename : artifactFilename name = true)
    (long : 2 ≤ extension.length) :
    (fromLastPoint name).map lowerCase = extension ↔ (extname name).map lowerCase = extension := by
  unfold fromLastPoint extname
  cases point : name.reverse.findIdx? (· = 46) with
  | none =>
      constructor
      · rintro rfl
        simp only [List.length_map, List.length_drop] at long
        omega
      · rintro rfl
        simp at long
  | some fromEnd =>
      dsimp only
      by_cases first : fromEnd + 1 = name.length
      · cases name with
        | nil => simp [artifactFilename] at filename
        | cons head rest =>
            obtain ⟨inside, holds, _⟩ := List.findIdx?_eq_some_iff_getElem.mp point
            have same : fromEnd = rest.length := by simpa using first
            subst same
            simp only [List.reverse_cons] at holds
            rw [List.getElem_append_right (by simp)] at holds
            simp only [List.length_reverse, Nat.sub_self, List.getElem_cons_zero,
              decide_eq_true_eq] at holds
            rw [holds] at filename
            simp [artifactFilename, isFilenameUnit, isLowerLetter, isUpperLetter, isDigit]
              at filename
      · rw [if_neg first]

theorem textWhere_eq_some {holds : JsString → Bool} {value : Value} {text : JsString} :
    textWhere holds value = some text ↔ stringText value = some text ∧ holds text = true := by
  simp [textWhere, Option.filter_eq_some_iff]

/-- The import takes an artifact exactly under the rule with its own reading. -/
theorem normalizeArtifact_iff {ids : List Value} {paths : List JsString} {entry : Value}
    {artifact : Artifact} {path : JsString} :
    normalizeArtifact ids paths entry = some (artifact, path) ↔
      ∃ members, exactMembers entry artifactKeys = some members ∧
        ArtifactRule stringText ids paths members artifact path := by
  constructor
  · intro accepted
    unfold normalizeArtifact at accepted
    simp only [some_bind_iff, require_iff, exists_unit, Bool.and_eq_true, Bool.not_eq_true',
      beq_iff_eq]
      at accepted
    obtain ⟨members, exact, bytes, size, id, idText, ⟨identifier, fresh⟩, mediaType, mediaText,
      extension, found, name, pathText, ⟨⟨⟨filename, visible⟩, allowed⟩, unseen⟩, same, digest,
      hashed, result⟩ := accepted
    cases result
    have long := extension_long found
    have rule : PathRule paths extension path :=
      ⟨filename, visible, allowed, unseen, (extension_iff filename long).mp same⟩
    exact ⟨members, exact, size, stringText_eq_some.mp idText, stringText_eq_some.mp mediaText,
      stringText_eq_some.mp pathText, hashed, ⟨id, rfl, identifier⟩, fresh, rfl,
      ⟨mediaType, extension, rfl, found, rule⟩⟩
  · rintro ⟨members, exact, rule⟩
    obtain ⟨id, idText, identifier⟩ := rule.identifier
    obtain ⟨mediaType, extension, mediaText, found, path⟩ := rule.media
    have sameId := stringText_eq_some.mp idText
    have sameMedia := stringText_eq_some.mp mediaText
    have samePath := stringText_eq_some.mp rule.pathText
    have long := extension_long found
    have fresh := rule.fresh
    rw [sameId] at fresh
    unfold normalizeArtifact
    simp only [some_bind_iff, require_iff, exists_unit, Bool.and_eq_true, Bool.not_eq_true',
      beq_iff_eq]
    refine ⟨members, exact, artifact.bytes, rule.bytes, id, by rw [rule.id, idText],
      ⟨identifier, fresh⟩, mediaType, by rw [rule.mediaType, mediaText], extension, found, _,
      by rw [rule.samePath, rule.pathText],
      ⟨⟨⟨path.filename, path.visible⟩, path.allowed⟩, path.fresh⟩,
      (extension_iff path.filename long).mpr path.extension, artifact.sha256, rule.sha256, ?_⟩
    rw [← sameId, ← sameMedia, ← samePath]
    rfl

theorem normalizeArtifactList_iff {ids : List Value} {paths : List JsString}
    {entries : List Value} {artifacts : List Artifact} :
    normalizeArtifactList ids paths entries = some artifacts ↔
      Listed stringText ids paths entries artifacts := by
  induction entries generalizing ids paths artifacts with
  | nil =>
      constructor
      · intro accepted
        cases accepted
        exact .nil ids paths
      · intro listed
        cases listed
        rfl
  | cons entry rest inductionHypothesis =>
      simp only [normalizeArtifactList, some_bind_iff, Prod.exists, normalizeArtifact_iff,
        inductionHypothesis]
      constructor
      · rintro ⟨artifact, path, ⟨members, exact, rule⟩, later, others, result⟩
        cases result
        exact .cons exact rule others
      · rintro (_ | @⟨_, _, _, _, members, artifact, path, later, exact, rule, others⟩)
        exact ⟨artifact, path, ⟨members, exact, rule⟩, later, others, rfl⟩

theorem normalizeArtifacts_iff {value : Value} {artifacts : List Artifact} :
    normalizeArtifacts value = some artifacts ↔ ∃ entries, boundedArray value = some entries ∧
      Listed stringText [] [] entries artifacts ∧ totalBytes artifacts ≤ MAXIMUM_TOTAL_BYTES ∧
        inOrder (artifacts.map Artifact.id) = true := by
  simp only [normalizeArtifacts, some_bind_iff, require_iff, exists_unit, decide_eq_true_eq,
    normalizeArtifactList_iff]
  constructor
  · rintro ⟨entries, bounded, artifacts, listed, total, order, result⟩
    cases result
    exact ⟨entries, bounded, listed, total, order⟩
  · rintro ⟨entries, bounded, listed, total, order⟩
    exact ⟨entries, bounded, artifacts, listed, total, order, rfl⟩

theorem isKnownArtifact_iff {artifactIds : List Value} {id : Value} :
    isKnownArtifact artifactIds id = true ↔
      ReadsIdentifier stringText id ∧ has artifactIds id = true := by
  simp only [isKnownArtifact, Bool.and_eq_true, Option.isSome_iff_exists, textWhere_eq_some,
    ReadsIdentifier]

theorem normalizeChecklistItem_iff {artifactIds : List Value} {required : JsString}
    {entry : Value} {item : ChecklistItem} :
    normalizeChecklistItem artifactIds required entry = some item ↔
      ∃ members, exactMembers entry checklistKeys = some members ∧
        AnswerRule stringText artifactIds required members item := by
  simp only [normalizeChecklistItem, some_bind_iff, require_iff, exists_unit, Bool.and_eq_true,
    beq_iff_eq,
    List.all_eq_true, isKnownArtifact_iff, isItem]
  constructor
  · rintro ⟨members, exact, id, ids, bounded, ⟨⟨known, distinct⟩, order⟩, outcome, same, exception,
      excepted, result⟩
    cases result
    exact ⟨members, exact, id, rfl, bounded, known, distinct, order, same, excepted⟩
  · rintro ⟨members, exact, rule⟩
    refine ⟨members, exact, rule.id, item.artifactIds, rule.ids,
      ⟨⟨rule.known, rule.distinct⟩, rule.order⟩, item.outcome, rule.outcome,
      item.exceptionReference, rule.exception, ?_⟩
    rw [← rule.sameId]
    rfl

theorem normalizeChecklistItems_iff {artifactIds : List Value} {required : List JsString}
    {entries : List Value} {items : List ChecklistItem} :
    normalizeChecklistItems artifactIds required entries = some items ↔
      Answers stringText artifactIds required entries items := by
  induction entries generalizing required items with
  | nil =>
      constructor
      · intro accepted
        cases required with
        | nil =>
            cases accepted
            exact .nil
        | cons => cases accepted
      · intro answers
        cases answers
        rfl
  | cons entry rest inductionHypothesis =>
      cases required with
      | nil =>
          constructor
          · intro accepted
            cases accepted
          · intro answers
            cases answers
      | cons required others =>
          simp only [normalizeChecklistItems, some_bind_iff, normalizeChecklistItem_iff,
            inductionHypothesis]
          constructor
          · rintro ⟨item, ⟨members, exact, rule⟩, later, answers, result⟩
            cases result
            exact .cons exact rule answers
          · rintro (_ | @⟨_, _, _, _, members, item, later, exact, rule, answers⟩)
            exact ⟨item, ⟨members, exact, rule⟩, later, answers, rfl⟩

/-- The import accepts exactly the documents of a manifest whose ids are strings,
for the gate that it names. -/
theorem normalizeManifest_iff {sha256Hex : JsString → JsString} {value : Value}
    {expectedGateId : JsString} {manifest : Manifest} :
    normalizeManifest sha256Hex value expectedGateId = some manifest ↔
      ∃ members, exactMembers value manifestKeys = some members ∧
        Evident sha256Hex stringText members manifest ∧
        manifest.gateId = .string expectedGateId := by
  constructor
  · intro accepted
    unfold normalizeManifest at accepted
    simp only [some_bind_iff, require_iff, exists_unit, beq_iff_eq, normalizeArtifacts_iff]
      at accepted
    obtain ⟨members, exact, schema, limitations, gateId, gateText, required, found, rfl,
      artifacts, ⟨entries, bounded, listed, total, order⟩, checklist, answered, referenced,
      evidenceReference, evidence, reviewedAt, reviewed, reviewerReference, reviewer,
      scopeReference, scope, packageDigest, package, digest, result⟩ := accepted
    cases result
    have gate := stringText_eq_some.mp gateText
    unfold normalizeChecklist at answered
    split at answered
    case h_1 answers same =>
      exact ⟨members, exact, ⟨schema, limitations, ⟨entries, answers, gateId, required, bounded,
        listed, total, order, gate, rfl, found, same, normalizeChecklistItems_iff.mp answered,
        referenced⟩, evidence, reviewed, reviewer, scope, package, digest⟩, rfl⟩
    case h_2 => cases answered
  · rintro ⟨members, exact, evident, own⟩
    obtain ⟨entries, answers, key, required, indexed⟩ := evident.indexed
    have gate := indexed.gate
    rw [own] at gate
    cases gate
    unfold normalizeManifest
    simp only [some_bind_iff, require_iff, exists_unit, beq_iff_eq, normalizeArtifacts_iff]
    refine ⟨members, exact, evident.schema, evident.limitations, expectedGateId,
      by rw [indexed.gateId, own]; rfl, required, indexed.listed, rfl, manifest.artifacts,
      ⟨entries, indexed.bounded, indexed.artifacts, indexed.total, indexed.order⟩,
      manifest.checklist, ?_, indexed.referenced, manifest.evidenceReference,
      evident.evidenceReference, manifest.reviewedAt, evident.reviewedAt,
      manifest.reviewerReference, evident.reviewerReference, manifest.scopeReference,
      evident.scopeReference, manifest.packageDigest, evident.packageDigest, ?_, ?_⟩
    · rw [indexed.answered]
      exact normalizeChecklistItems_iff.mpr indexed.checklist
    · rw [← own]
      exact evident.digest
    · rw [← own]
      rfl

end Vasi.PilotGateImport
