import Vasi.Sample

/-!
# The evidence chain of a case

The events of a case form one intact chain in every reachable state, because the
chain starts empty and grows by appends only. A manifest is stored only for a
case that the same step completes, and no step appends to a completed case, so
the chain is frozen from then on. The record was checked before it was sealed;
reading it back puts the members of its objects and its seals in another order,
which the check does not see.
-/
namespace Vasi.EvidenceChain

open JsValue IsoTime CanonicalJson ReadCommitted EngineRows EvidenceEvents EngineCases
  EvidenceStore Sealing Respond RequestActions Worker EngineEffects Engine

/-! ## A sealed record reads back -/

theorem TextRecord.value_wellFormed (record : TextRecord) : WellFormed record.value := by
  refine ⟨by simpa [Function.comp_def] using record.distinct, ?_⟩
  induction record.members with
  | nil => trivial
  | cons member rest inductionHypothesis => exact ⟨trivial, inductionHypothesis⟩

theorem TextRecord.value_representable (record : TextRecord) : Representable record.value := by
  unfold TextRecord.value Representable
  induction record.members with
  | nil => trivial
  | cons member rest inductionHypothesis => exact ⟨.inr trivial, inductionHypothesis⟩

/-- A list of texts is a well-formed value with a canonical form. -/
theorem texts_wellFormed (texts : List JsString) :
    WellFormed (.array (texts.map .string)) ∧ Representable (.array (texts.map .string)) := by
  unfold WellFormed Representable
  induction texts with
  | nil => exact ⟨trivial, trivial⟩
  | cons text rest inductionHypothesis =>
      exact ⟨⟨trivial, inductionHypothesis.1⟩, ⟨trivial, inductionHypothesis.2⟩⟩

/-- What the provider makes of a manifest: the integrity seal, then the seal of
its certificate, both over one hash. -/
theorem signManifest_ok {env : Environment} {provider : SigningProvider} {createdAt : JsString}
    {manifest : Value} {seals : List Seal}
    (signed : signManifest env provider createdAt manifest = .ok seals) :
    ∃ manifestText, canonicalJSON manifest = .ok manifestText ∧
      seals = integritySeal env provider createdAt manifestText ::
        (provider.certificate.map fun key =>
          certificateSeal env key createdAt manifestText).toList := by
  obtain ⟨manifestText, canonical, result⟩ := Validation.bind_ok signed
  exact ⟨manifestText, canonical, (Except.ok.inj result).symm⟩

/-- The stored seal differs from the one that was made in member order at most. -/
structure StoredSeal (env : Environment) (completedAt : Time) (row : ManifestRow)
    (candidate : Seal) : Prop where
  same : SameSeal (readSeal row (sealRow env completedAt candidate)) candidate
  role : (readSeal row (sealRow env completedAt candidate)).role = candidate.role

variable {env : Environment} {provider : SigningProvider} {verifier : Verifier}
  {completedAt : Time} {row : ManifestRow}

theorem integritySeal_stored {createdAt manifestText : JsString}
    (hashed : row.manifestHash = env.sha256Hex manifestText) :
    StoredSeal env completedAt row (integritySeal env provider createdAt manifestText) where
  same := by
    have key := canonicalValue_readBack env.order env.rearranges provider.publicJWK.value
      (TextRecord.value_wellFormed _) (TextRecord.value_representable _)
    exact ⟨rfl, rfl, hashed, rfl, rfl, rfl, rfl, key, rfl⟩
  role := rfl

theorem certificateSeal_stored {key : CertificateKey} {createdAt manifestText : JsString}
    (hashed : row.manifestHash = env.sha256Hex manifestText) :
    StoredSeal env completedAt row (certificateSeal env key createdAt manifestText) where
  same := by
    have publicKey := canonicalValue_readBack env.order env.rearranges key.publicJWK.value
      (TextRecord.value_wellFormed _) (TextRecord.value_representable _)
    have certificate := canonicalValue_readBack env.order env.rearranges key.certificate.value
      (TextRecord.value_wellFormed _) (TextRecord.value_representable _)
    have formed := texts_wellFormed key.chain
    have chain := canonicalValue_readBack env.order env.rearranges _ formed.1 formed.2
    exact ⟨rfl, rfl, hashed, rfl, rfl, certificate, chain, publicKey, rfl⟩
  role := rfl

/-- Each seal of a stored manifest is one that the provider made. -/
theorem stored_of_signed {createdAt manifestText : JsString} {candidate : Seal}
    (hashed : row.manifestHash = env.sha256Hex manifestText)
    (member : candidate ∈ integritySeal env provider createdAt manifestText ::
      (provider.certificate.map fun key => certificateSeal env key createdAt manifestText).toList) :
    StoredSeal env completedAt row candidate := by
  rcases List.mem_cons.mp member with rfl | certified
  · exact integritySeal_stored hashed
  · obtain ⟨key, _, rfl⟩ := Option.map_eq_some_iff.mp (Option.mem_toList.mp certified)
    exact certificateSeal_stored hashed

/-- Of the seals that the provider makes only the integrity seal has its role. -/
theorem profile_of_role {createdAt manifestText : JsString} {candidate : Seal}
    (member : candidate ∈ integritySeal env provider createdAt manifestText ::
      (provider.certificate.map fun key => certificateSeal env key createdAt manifestText).toList)
    (role : candidate.role = INTEGRITY_ROLE) : candidate.profile = INTEGRITY_PROFILE := by
  rcases List.mem_cons.mp member with rfl | certified
  · rfl
  · obtain ⟨key, _, rfl⟩ := Option.map_eq_some_iff.mp (Option.mem_toList.mp certified)
    exact absurd (show CERTIFICATE_ROLE = INTEGRITY_ROLE from role) (by decide)

/-- A seal is as valid as the one that it was stored from. -/
theorem sealErrors_stored {first second : Seal} {manifest : Value}
    (same : SameSeal first second) :
    sealErrors env verifier manifest first = sealErrors env verifier manifest second := by
  have valid : ∀ manifestText, sealValid env verifier manifestText first =
      sealValid env verifier manifestText second := by
    intro manifestText
    unfold sealValid
    rw [same.profile, same.algorithm, same.manifestHash, same.signature,
      verifier.verifyCertificateSeal_same manifestText first second same,
      verifier.verifySignature_canonical manifestText _ _ second.signature same.publicJWK]
  unfold sealErrors
  rw [same.keyId]
  simp only [valid]

/-- The manifest of a case makes up, with its chain, a record that verifies. -/
def Loads (env : Environment) (verifier : Verifier) (row : ManifestRow)
    (events : List EvidenceEvent) : Prop :=
  ∃ loaded, storedRecord row events = some loaded ∧
    verifyEvidenceRecord env verifier loaded none = []

theorem errorIf_nil {condition : Bool} {code : JsString} (none : errorIf condition code = []) :
    condition = false := by
  cases condition with
  | false => rfl
  | true => cases none

/-- A record that was sealed reads back as a record that verifies. -/
theorem persistSeal_loads {record : Case} {manifest : Document} {manifestId : Uuid}
    (persisted : persistSeal env provider verifier completedAt record manifest manifestId =
      .ok row) : Loads env verifier row record.chain.events := by
  obtain ⟨seals, signed, persisted⟩ := Validation.bind_ok persisted
  obtain ⟨manifestText, canonical, made⟩ := signManifest_ok signed
  have primary : primarySeal seals =
      some (integritySeal env provider (isoText completedAt) manifestText) := by
    rw [made]
    rfl
  rw [primary] at persisted
  cases stored : record.manifest with
  | some earlier => rw [stored] at persisted; cases persisted
  | none =>
  rw [stored] at persisted
  dsimp only at persisted
  split at persisted
  · rename_i verified
    obtain rfl := Except.ok.inj persisted
    generalize rowEq : manifestRow env manifestId manifest.val
      (integritySeal env provider (isoText completedAt) manifestText) seals completedAt = row
    have hashed : row.manifestHash = env.sha256Hex manifestText := by rw [← rowEq]; rfl
    have rowSeals : row.seals = seals.map (sealRow env completedAt) := by rw [← rowEq]; rfl
    have rowManifest : row.manifest = readBack env.order manifest.val := by rw [← rowEq]; rfl
    have fromSeals : ∀ candidate ∈ (row.seals.insertionSort sealOrder).map (readSeal row),
        ∃ original ∈ seals, candidate = readSeal row (sealRow env completedAt original) := by
      intro candidate member
      obtain ⟨stored, storedMember, rfl⟩ := List.mem_map.mp member
      have inRow := (List.perm_insertionSort sealOrder row.seals).mem_iff.mp storedMember
      rw [rowSeals] at inRow
      obtain ⟨original, originalMember, rfl⟩ := List.mem_map.mp inRow
      exact ⟨original, originalMember, rfl⟩
    have storedSeal : ∀ original ∈ seals, StoredSeal env completedAt row original := by
      intro original member
      rw [made] at member
      exact stored_of_signed hashed member
    have found : ∃ candidate, primarySeal ((row.seals.insertionSort sealOrder).map (readSeal row)) =
        some candidate := by
      refine Option.isSome_iff_exists.mp (List.find?_isSome.mpr ?_)
      refine ⟨readSeal row (sealRow env completedAt
        (integritySeal env provider (isoText completedAt) manifestText)), ?_, decide_eq_true rfl⟩
      refine List.mem_map.mpr ⟨_, (List.perm_insertionSort sealOrder row.seals).mem_iff.mpr ?_, rfl⟩
      rw [rowSeals, made]
      exact List.mem_map.mpr ⟨_, List.mem_cons_self, rfl⟩
    obtain ⟨candidate, candidateFound⟩ := found
    refine ⟨⟨record.chain.events, row.manifest, candidate,
      (row.seals.insertionSort sealOrder).map (readSeal row)⟩, ?_, ?_⟩
    · rw [storedRecord, candidateFound]
      rfl
    have checked := List.isEmpty_iff.mp verified
    simp only [verifyEvidenceRecord, List.append_eq_nil_iff] at checked
    obtain ⟨⟨⟨⟨⟨noEvents, noSeals⟩, chain⟩, sections⟩, sealsValid⟩, _⟩ := checked
    have sameManifest : canonicalValue row.manifest = canonicalValue manifest.val := by
      rw [rowManifest]
      refine canonicalValue_readBack env.order env.rearranges _ manifest.property ?_
      rw [← canonicalValue_succeeds]
      unfold canonicalJSON at canonical
      cases rebuilt : canonicalValue manifest.val with
      | ok value => exact ⟨value, rfl⟩
      | error message => rw [rebuilt] at canonical; cases canonical
    simp only [verifyEvidenceRecord, List.append_eq_nil_iff]
    refine ⟨⟨⟨⟨⟨noEvents, ?_⟩, chain⟩, ?_⟩, ?_⟩, ?_⟩
    · have member := List.mem_of_find?_eq_some candidateFound
      cases list : (row.seals.insertionSort sealOrder).map (readSeal row) with
      | nil => rw [list] at member; cases member
      | cons first rest => rfl
    · rw [verifier.sections_canonical _ _ _ sameManifest]
      exact sections
    · rw [List.flatMap_eq_nil_iff] at sealsValid ⊢
      intro candidate member
      obtain ⟨original, originalMember, rfl⟩ := fromSeals candidate member
      have errors := sealsValid original originalMember
      have sameText : canonicalJSON row.manifest = canonicalJSON manifest.val := by
        rw [canonicalJSON, canonicalJSON, sameManifest]
      rw [sealErrors_stored (storedSeal original originalMember).same]
      unfold sealErrors at errors ⊢
      rw [sameText]
      exact errors
    · obtain ⟨original, originalMember, rfl⟩ :=
        fromSeals candidate (List.mem_of_find?_eq_some candidateFound)
      have role : original.role = INTEGRITY_ROLE := by
        have selected := List.find?_some candidateFound
        rw [← (storedSeal original originalMember).role]
        exact of_decide_eq_true selected
      rw [made] at originalMember
      have profile := profile_of_role originalMember role
      rw [made] at storedSeal
      rw [primaryErrors, (storedSeal original originalMember).same.profile, profile]
      rfl
  · cases persisted

/-! ## Steps -/

/-- What holds of the chain and the manifest of a case in every reachable state. -/
structure Sealed (platform : Platform) (record : Case) : Prop where
  intact : IntactChain platform.env record.chain
  ended : record.manifest.isSome → record.request.status.active = false ∧
    record.assignment.status = .completed
  loads : ∀ row, record.manifest = some row →
    Loads platform.env platform.verifier row record.chain.events

variable {platform : Platform} {guard : EngineGuard} {name : TransactionName} {record after : Case}

/-- A chain that grows by appends stays intact. -/
theorem extends_intact {chain longer : ChainRow} (grown : Extends env chain longer)
    (intact : IntactChain env chain) : IntactChain env longer := by
  induction grown with
  | refl => exact intact
  | tail _ appended inductionHypothesis =>
      obtain ⟨event, appended⟩ := appended
      exact appendEvent_intact appended inductionHypothesis

/-- No step changes a case that has a manifest. -/
theorem CaseStep.frozen (step : CaseStep platform guard name record after)
    (sealed : Sealed platform record) (stored : record.manifest.isSome) : after = record := by
  obtain ⟨ended, completed⟩ := sealed.ended stored
  cases step with
  | opened command now interactionId eventId _ _ notCompleted step =>
      exact absurd completed notCompleted
  | recorded recording command now eventId _ _ step =>
      obtain ⟨⟨_, active⟩, _⟩ := recordCase_ok step
      rw [ended] at active
      cases active
  | presented command now eventId _ _ step =>
      obtain ⟨_, same | ⟨notCompleted, _⟩⟩ := openArtifactCase_ok step
      · exact same
      · exact absurd completed notCompleted
  | saved command _ workflow completedAt answered answering intent =>
      exact absurd completed answering.notCompleted
  | submitted command _ workflow completedAt answered responseId eventId next _ answering intent
      step =>
      exact absurd completed answering.notCompleted
  | completed command _ workflow completedAt answered responseId eventId submitted evidence
      manifestId _ answering intent step sealed =>
      exact absurd completed answering.notCompleted
  | completedTerms command _ now completedAt eventId responded manifestId _ available notCompleted
      terms step sealed =>
      exact absurd completed notCompleted
  | revoked _ actor eventType payload now eventId _ _ active step =>
      rw [ended] at active
      cases active
  | advanced databaseClock now eventId _ _ due decided step =>
      rw [isDue_active due] at ended
      cases ended

/-- A step other than a completion stores no manifest. -/
theorem CaseStep.manifest (step : CaseStep platform guard name record after) :
    after.manifest = record.manifest ∨ (after.request.status.active = false ∧
      after.assignment.status = .completed ∧
      ∃ row, after.manifest = some row ∧
        Loads platform.env platform.verifier row after.chain.events) := by
  cases step with
  | opened command now interactionId eventId _ _ notCompleted step =>
      obtain ⟨_, interaction, chain, activities, _, _, rfl⟩ := openCase_ok step
      left
      unfold bindParticipant issueScheduled setStatus
      split <;> split <;> rfl
  | recorded recording command now eventId _ _ step =>
      obtain ⟨_, chain, event, _, rfl⟩ := recordCase_ok step
      exact .inl rfl
  | presented command now eventId _ _ step =>
      obtain ⟨_, rfl | ⟨_, chain, event, _, rfl⟩⟩ := openArtifactCase_ok step
      · exact .inl rfl
      · exact .inl rfl
  | saved command _ workflow completedAt answered answering intent =>
      obtain ⟨now, revisionId, eventId, recorded⟩ := answering.answered
      obtain ⟨_, _, _, _, _, _, _, _, _, result⟩ := answerActivity_ok recorded
      rw [result]
      exact .inl rfl
  | submitted command _ workflow completedAt answered responseId eventId next _ answering intent
      step =>
      obtain ⟨now, revisionId, eventId, recorded⟩ := answering.answered
      obtain ⟨_, _, _, _, _, _, _, _, _, result⟩ := answerActivity_ok recorded
      obtain ⟨_, _, _, _, _, rfl⟩ := submitResponse_ok step
      rw [result]
      exact .inl rfl
  | completed command _ workflow completedAt answered responseId eventId submitted evidence
      manifestId _ answering intent step sealed =>
      obtain ⟨row, persisted, rfl⟩ := sealCase_ok sealed
      have loads := persistSeal_loads persisted
      exact .inr ⟨rfl, rfl, row, rfl, loads⟩
  | completedTerms command _ now completedAt eventId responded manifestId _ available notCompleted
      terms step sealed =>
      obtain ⟨row, persisted, rfl⟩ := sealCase_ok sealed
      have loads := persistSeal_loads persisted
      exact .inr ⟨rfl, rfl, row, rfl, loads⟩
  | revoked _ actor eventType payload now eventId _ _ active step =>
      obtain ⟨chain, event, _, rfl⟩ := revokeCase_ok step
      exact .inl rfl
  | advanced databaseClock now eventId _ _ due decided step =>
      obtain ⟨chain, event, _, rfl⟩ := advanceCase_ok step
      exact .inl rfl

/-- A step keeps what holds of the chain and the manifest. -/
theorem CaseStep.sealed (step : CaseStep platform guard name record after)
    (sealed : Sealed platform record) : Sealed platform after := by
  by_cases stored : record.manifest.isSome
  · rw [CaseStep.frozen step sealed stored]
    exact sealed
  · have intact := extends_intact step.extends sealed.intact
    rcases CaseStep.manifest step with same | ⟨ended, completed, row, found, loads⟩
    · refine ⟨intact, ?_, ?_⟩
      · intro there
        rw [same] at there
        exact absurd there stored
      · intro row there
        rw [same] at there
        exact absurd (Option.isSome_of_eq_some there) stored
    · refine ⟨intact, fun _ => ⟨ended, completed⟩, ?_⟩
      intro other there
      obtain rfl : row = other := Option.some.inj (found.symm.trans there)
      exact loads

/-- An issued case has an intact chain and no manifest. -/
theorem CaseMove.sealed {known : List (Sigma Row)}
    (move : CaseMove platform guard name known none (some record)) : Sealed platform record := by
  have started : ∃ event, appendEvent platform.env event newChain = .ok record.chain ∧
      record.manifest = none := by
    cases move with
    | issued command now requestId assignmentId eventId eventType _ row _ _ _ step =>
        obtain ⟨event, chain, appended, rfl⟩ := appendCase_ok step
        exact ⟨event, appended, rfl⟩
    | issuedTerms command now requestId assignmentId eventId _ row _ _ _ step =>
        obtain ⟨event, chain, appended, rfl⟩ := appendCase_ok step
        exact ⟨event, appended, rfl⟩
  obtain ⟨event, appended, none⟩ := started
  refine ⟨appendEvent_intact appended (newChain_intact platform.env), ?_, ?_⟩
  · intro there
    rw [none] at there
    cases there
  · intro row there
    rw [none] at there
    cases there

/-! ## Runs -/

theorem reachable_sealed {state : EngineState} (reachable : Reachable platform guard state)
    {requestId : Uuid} (found : caseAt state.store requestId = some record) :
    Sealed platform record :=
  case_reachable (Sealed platform) (fun _ _ _ move => CaseMove.sealed move)
    (fun _ _ _ sealed step => CaseStep.sealed step sealed) reachable found

/-- A case with a manifest is loaded as a record that verifies. -/
theorem loadEvidenceRecord_ok {store : EngineStore} {requestId : Uuid}
    (found : caseAt store requestId = some record) {row : ManifestRow}
    (stored : record.manifest = some row)
    (loads : Loads platform.env platform.verifier row record.chain.events) :
    ∃ loaded, loadEvidenceRecord platform.env platform.verifier store requestId = .ok loaded ∧
      verifyEvidenceRecord platform.env platform.verifier loaded none = [] := by
  obtain ⟨loaded, read, verified⟩ := loads
  refine ⟨loaded, ?_, verified⟩
  simp only [loadEvidenceRecord, found, stored, Option.bind_some, read, verified,
    List.isEmpty_nil, if_true]

/-- The participant answers the terms request. -/
def answering : List EngineLabel :=
  Sample.session 3 (.respond Sample.answer)
    [Sample.moment 2 0, Sample.moment 2 0, Sample.moment 2 0, Sample.moment 2 6,
      Sample.moment 2 7]

end Vasi.EvidenceChain
