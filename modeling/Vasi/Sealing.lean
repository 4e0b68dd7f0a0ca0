import Vasi.EvidenceEvents
import Vasi.EngineRows

/-!
# Sealing and reading an evidence record

The manifest and the seals that completing an assignment stores, the check of an
evidence record, and the record that is read back from the stored rows. A
manifest is sealed by the integrity key and, if one is configured, by a
certificate. A stored manifest is kept as the database returns it, and the seals
come back in another order; neither shows in the check.

Of the check, the chain of events, the seals and the primary key are modelled.
What the sections of the manifest have to say, and the cryptography, are
parameters: both see values by name or in canonical form only, which is all that
is asked of them.
-/
namespace Vasi.Sealing

open JsValue IsoTime Validation CanonicalJson EngineRows EvidenceEvents

/-! ## Seals -/

/-- An object whose members are texts: a public key, a certificate's description. -/
structure TextRecord where
  members : List (JsString × JsString)
  distinct : (members.map Prod.fst).Nodup

def TextRecord.value (record : TextRecord) : Value :=
  .object (record.members.map fun member => (member.1, .string member.2))

/-- A key with a certificate. -/
structure CertificateKey where
  keyId : JsString
  algorithm : JsString
  certificate : TextRecord
  chain : List JsString
  publicJWK : TextRecord
  sign : JsString → JsString

/-- The signing provider: the integrity key and perhaps a certificate. -/
structure SigningProvider where
  keyId : JsString
  publicJWK : TextRecord
  sign : JsString → JsString
  certificate : Option CertificateKey

def INTEGRITY_PROFILE : JsString := js "vasi-integrity-seal/v1"

def CERTIFICATE_PROFILE : JsString := js "vasi-certificate-seal/v1"

def INTEGRITY_ROLE : JsString := js "vasi_integrity"

def CERTIFICATE_ROLE : JsString := js "certificate"

/-- createDetachedIntegritySeal over the canonical text of a manifest. -/
def integritySeal (env : Environment) (provider : SigningProvider) (createdAt manifestText : JsString) :
    Seal where
  algorithm := js "Ed25519"
  certificate := .undefined
  certificateChain := .undefined
  createdAt := createdAt
  keyId := provider.keyId
  manifestHash := env.sha256Hex manifestText
  profile := INTEGRITY_PROFILE
  publicJWK := provider.publicJWK.value
  role := INTEGRITY_ROLE
  signature := provider.sign manifestText
  validationScope := .undefined

/-- createCertificateSeal over the canonical text of a manifest. -/
def certificateSeal (env : Environment) (key : CertificateKey) (createdAt manifestText : JsString) :
    Seal where
  algorithm := key.algorithm
  certificate := key.certificate.value
  certificateChain := .array (key.chain.map .string)
  createdAt := createdAt
  keyId := key.keyId
  manifestHash := env.sha256Hex manifestText
  profile := CERTIFICATE_PROFILE
  publicJWK := key.publicJWK.value
  role := CERTIFICATE_ROLE
  signature := key.sign manifestText
  validationScope := .string (js "leaf_signature_and_key_match")

/-- signManifest, with the time that sealing gives each seal. -/
def signManifest (env : Environment) (provider : SigningProvider) (createdAt : JsString)
    (manifest : Value) : Except JsString (List Seal) := do
  let manifestText ← canonicalJSON manifest
  return integritySeal env provider createdAt manifestText ::
    (provider.certificate.map fun key => certificateSeal env key createdAt manifestText).toList

def primarySeal (seals : List Seal) : Option Seal :=
  seals.find? fun candidate => candidate.role = INTEGRITY_ROLE

/-! ## The check of a record -/

/-- An evidence record as the check receives it. -/
structure EvidenceRecord where
  events : List EvidenceEvent
  manifest : Value
  primary : Seal
  seals : List Seal

/-- Two seals that differ at most in the member order of their objects. -/
structure SameSeal (first second : Seal) : Prop where
  algorithm : first.algorithm = second.algorithm
  keyId : first.keyId = second.keyId
  manifestHash : first.manifestHash = second.manifestHash
  profile : first.profile = second.profile
  signature : first.signature = second.signature
  certificate : canonicalValue first.certificate = canonicalValue second.certificate
  certificateChain : canonicalValue first.certificateChain = canonicalValue second.certificateChain
  publicJWK : canonicalValue first.publicJWK = canonicalValue second.publicJWK
  validationScope : canonicalValue first.validationScope = canonicalValue second.validationScope

/-- What the check leaves to other modules: the sections of a manifest against the
events, a signature over a text by a public key, and a certificate seal over a
text. None of them sees the member order of an object. -/
structure Verifier where
  sections : Value → List EvidenceEvent → List JsString
  verifySignature : JsString → Value → JsString → Bool
  verifyCertificateSeal : JsString → Seal → Bool
  sections_canonical : ∀ first second events,
    canonicalValue first = canonicalValue second → sections first events = sections second events
  verifySignature_canonical : ∀ manifestText first second signature,
    canonicalValue first = canonicalValue second →
      verifySignature manifestText first signature = verifySignature manifestText second signature
  verifyCertificateSeal_same : ∀ manifestText first second, SameSeal first second →
    verifyCertificateSeal manifestText first = verifyCertificateSeal manifestText second

/-- An error code that names an event by its place. -/
def eventError (sequence : ℕ) (suffix : JsString) : JsString :=
  js "event_" ++ decimal sequence ++ js "_" ++ suffix

def errorIf (condition : Bool) (code : JsString) : List JsString := if condition then [code] else []

/-- The errors of one event in the chain: its place, the hash it follows, both
again as its document states them, and its own hash. -/
def eventErrors (env : Environment) (sequence : ℕ) (previousHash : JsString)
    (event : EvidenceEvent) : List JsString :=
  errorIf (event.sequence ≠ sequence) (eventError sequence (js "sequence_invalid")) ++
  errorIf (event.previous ≠ previousHash ||
    !isText (event.body.get (js "previousHash")) previousHash)
    (eventError sequence (js "previous_hash_invalid")) ++
  errorIf (!isNatural (event.body.get (js "sequence")) event.sequence)
    (eventError sequence (js "embedded_sequence_invalid")) ++
  match hashCanonicalJSON env.sha256Hex event.body with
  | .ok digest => errorIf (digest ≠ event.digest) (eventError sequence (js "hash_invalid"))
  | .error _ => [eventError sequence (js "canonical_invalid")]
where
  isText (value : Value) (text : JsString) : Bool :=
    match value with
    | .string found => found = text
    | _ => false
  isNatural (value : Value) (number : ℕ) : Bool :=
    match value with
    | .number (.finite found) => found = number
    | _ => false

/-- The errors of a chain after an event with the given place and hash. -/
def chainErrors (env : Environment) : ℕ → JsString → List EvidenceEvent → List JsString
  | _, _, [] => []
  | sequence, previousHash, event :: rest =>
      eventErrors env (sequence + 1) previousHash event ++
        chainErrors env (sequence + 1) event.digest rest

/-- A seal is valid for the canonical text of a manifest. -/
def sealValid (env : Environment) (verifier : Verifier) (manifestText : JsString)
    (candidate : Seal) : Bool :=
  if candidate.profile = CERTIFICATE_PROFILE then
    verifier.verifyCertificateSeal manifestText candidate
  else
    candidate.algorithm = js "Ed25519" && candidate.profile = INTEGRITY_PROFILE &&
      env.sha256Hex manifestText = candidate.manifestHash &&
      verifier.verifySignature manifestText candidate.publicJWK candidate.signature

/-- The error of a seal. A manifest without a canonical form has no valid seal. -/
def sealErrors (env : Environment) (verifier : Verifier) (manifest : Value) (candidate : Seal) :
    List JsString :=
  let valid := match canonicalJSON manifest with
    | .ok manifestText => sealValid env verifier manifestText candidate
    | .error _ => false
  errorIf (!valid) (js "seal_" ++ candidate.keyId ++ js "_invalid")

/-- The errors of the primary seal; its key is compared when one is expected. -/
def primaryErrors (env : Environment) (primary : Seal) (expectedPublicJWK : Option Value) :
    List JsString :=
  errorIf (primary.profile ≠ INTEGRITY_PROFILE) (js "primary_seal_missing") ++
  match expectedPublicJWK with
  | none => []
  | some expected =>
      match hashCanonicalJSON env.sha256Hex primary.publicJWK,
        hashCanonicalJSON env.sha256Hex expected with
      | .ok found, .ok wanted => errorIf (found ≠ wanted) (js "primary_seal_key_unexpected")
      | _, _ => [js "primary_seal_key_invalid"]

/-- verifyEvidenceRecord: the errors of a record. -/
def verifyEvidenceRecord (env : Environment) (verifier : Verifier) (record : EvidenceRecord)
    (expectedPublicJWK : Option Value) : List JsString :=
  errorIf record.events.isEmpty (js "event_chain_missing") ++
  errorIf record.seals.isEmpty (js "seal_missing") ++
  chainErrors env 0 GENESIS_HASH record.events ++
  verifier.sections record.manifest record.events ++
  record.seals.flatMap (sealErrors env verifier record.manifest) ++
  primaryErrors env record.primary expectedPublicJWK

/-! ## Storing and reading -/

/-- The evidence_seal row of a seal. -/
def sealRow (env : Environment) (completedAt : Time) (candidate : Seal) : SealRow where
  profile := candidate.profile
  algorithm := candidate.algorithm
  keyId := candidate.keyId
  publicJwk := readBack env.order candidate.publicJWK
  signature := candidate.signature
  sealRole := candidate.role
  certificateChain :=
    if candidate.certificateChain.truthy then some (readBack env.order candidate.certificateChain)
    else none
  metadata :=
    if candidate.certificate.truthy then
      some (readBack env.order candidate.certificate, readBack env.order candidate.validationScope)
    else none
  createdAt := completedAt

/-- The evidence_manifest row with its seals. -/
def manifestRow (env : Environment) (manifestId : Uuid) (manifest : Value) (primary : Seal)
    (seals : List Seal) (completedAt : Time) : ManifestRow where
  id := manifestId
  manifest := readBack env.order manifest
  manifestHash := primary.manifestHash
  createdAt := completedAt
  seals := seals.map (sealRow env completedAt)

/-- A seal as it is read back. -/
def readSeal (row : ManifestRow) (candidate : SealRow) : Seal where
  algorithm := candidate.algorithm
  certificate := (candidate.metadata.map Prod.fst).getD .undefined
  certificateChain := candidate.certificateChain.getD .undefined
  createdAt := isoText candidate.createdAt
  keyId := candidate.keyId
  manifestHash := row.manifestHash
  profile := candidate.profile
  publicJWK := candidate.publicJwk
  role := candidate.sealRole
  signature := candidate.signature
  validationScope := (candidate.metadata.map Prod.snd).getD .undefined

/-- Integrity seals first, then by key. -/
def sealOrder (left right : SealRow) : Prop :=
  let rank (row : SealRow) : ℕ := if row.sealRole = INTEGRITY_ROLE then 0 else 1
  rank left < rank right ∨ (rank left = rank right ∧ left.keyId ≤ right.keyId)

instance : DecidableRel sealOrder := fun _ _ => instDecidableOr

/-- The record that the stored rows make up. -/
def storedRecord (row : ManifestRow) (events : List EvidenceEvent) : Option EvidenceRecord :=
  let seals := (row.seals.insertionSort sealOrder).map (readSeal row)
  (primarySeal seals).map fun primary => ⟨events, row.manifest, primary, seals⟩

/-- The manifest row that sealing inserts. An assignment has one manifest, and a
record that does not verify is not sealed. -/
def persistSeal (env : Environment) (provider : SigningProvider) (verifier : Verifier)
    (completedAt : Time) (record : Case) (manifest : Document) (manifestId : Uuid) :
    Except JsString ManifestRow := do
  let seals ← signManifest env provider (isoText completedAt) manifest.val
  match primarySeal seals, record.manifest with
  | none, _ => .error (js "seal_key_mismatch")
  | _, some _ => .error (js "23505")
  | some primary, none =>
      if (verifyEvidenceRecord env verifier ⟨record.chain.events, manifest.val, primary, seals⟩
          (some provider.publicJWK.value)).isEmpty then
        .ok (manifestRow env manifestId manifest.val primary seals completedAt)
      else .error (js "integrity_check_failed")

/-- The sealed record of an assignment, checked again on every read. -/
def loadEvidenceRecord (env : Environment) (verifier : Verifier) (store : EngineStore)
    (requestId : Uuid) : Except JsString EvidenceRecord :=
  match caseAt store requestId with
  | none => .error (js "receipt_unavailable")
  | some record =>
      match record.manifest.bind fun row => storedRecord row record.chain.events with
      | none => .error (js "receipt_unavailable")
      | some loaded =>
          if (verifyEvidenceRecord env verifier loaded none).isEmpty then .ok loaded
          else .error (js "integrity_check_failed")

end Vasi.Sealing
