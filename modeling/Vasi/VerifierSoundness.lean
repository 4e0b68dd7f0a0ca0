import Vasi.EvidenceVerifier
import Vasi.HashChain
import Vasi.ParsedForms
import Vasi.VerifierTotality

/-!
# What a verified record is

A record in which the verifier finds nothing wrong is one intact chain of events under its
manifest, and every one of its seals verifies. The primary seal states the hash of the
manifest, the manifest the hash of the last event, and each event the hash of the one before
it. Two verified records with one primary hash therefore have the same manifest and the same
events, or two of the texts that they hash collide.
-/
namespace Vasi.EngineCrypto

open JsValue Coercion
open CanonicalJson (canonicalJSON)
open Productization (isText)

/-- The check of an integrity seal. The check of a signature by a key, over the bytes of a
text, is the platform's and none where it throws. -/
def verifyDetachedIntegritySeal (sha256Hex : JsString → JsString)
    (verify : JsString → Value → JsString → Option Bool) (payload sealed : Value)
    (allowedProfiles : List JsString) : Bool :=
  isText (sealed.get (js "algorithm")) (js "Ed25519") &&
    allowedProfiles.any (isText (sealed.get (js "profile"))) &&
    ((stringText (sealed.get (js "signature"))).bind fun signature =>
      (canonicalJSON payload).toOption.bind fun text =>
        if isText (sealed.get (js "manifestHash")) (sha256Hex text) then
          verify text (sealed.get (js "publicJWK")) signature
        else some false).getD false

theorem isText_iff {value : Value} {text : JsString} :
    isText value text = true ↔ value = .string text := by
  cases value <;> simp [isText, eq_comm]

/-- A seal that verifies states the hash of what it seals and is signed over its text. -/
theorem verifyDetachedIntegritySeal_states {sha256Hex : JsString → JsString}
    {verify : JsString → Value → JsString → Option Bool} {payload sealed : Value}
    {allowedProfiles : List JsString}
    (verified :
      verifyDetachedIntegritySeal sha256Hex verify payload sealed allowedProfiles = true) :
    ∃ text signature, canonicalJSON payload = .ok text ∧
      sealed.get (js "manifestHash") = .string (sha256Hex text) ∧
      sealed.get (js "signature") = .string signature ∧
      verify text (sealed.get (js "publicJWK")) signature = some true := by
  simp only [verifyDetachedIntegritySeal, Bool.and_eq_true] at verified
  obtain ⟨-, checked⟩ := verified
  have found : ∀ {answer : Option Bool}, answer.getD false = true → answer = some true := by
    intro answer is
    cases answer with
    | none => cases is
    | some value => exact congrArg some is
  obtain ⟨signature, signed, checked⟩ := Option.bind_eq_some_iff.mp (found checked)
  obtain ⟨text, written, checked⟩ := Option.bind_eq_some_iff.mp checked
  split at checked
  case isTrue states =>
    refine ⟨text, signature, ?_, isText_iff.mp states, stringText_eq_some.mp signed, checked⟩
    cases built : canonicalJSON payload with
    | error message => simp [built, Except.toOption] at written
    | ok own => simpa [built, Except.toOption] using written
  case isFalse => cases checked

end Vasi.EngineCrypto

namespace Vasi.EvidenceVerifier

open JsValue Coercion HashChain CanonicalForm
open CanonicalJson (canonicalJSON)
open JsonText (parse stringify)
open Productization (TextPlatform isText wholeNumber)
open Redaction (Stored)
open EngineCrypto (isText_iff)

/-- The tools with the engine's own check of integrity seals. -/
def Tools.sealing (tools : Tools) (verify : JsString → Value → JsString → Option Bool) : Tools :=
  { tools with
    verifyDetachedIntegritySeal :=
      EngineCrypto.verifyDetachedIntegritySeal tools.sha256Hex verify }

/-! ## The chain -/

section Tools

variable (tools : Tools)

/-- The events as links; what an event states about itself is checked elsewhere. -/
def eventLinks (sequence : ℕ) (previous : JsString) : List Value → List (Link Value JsString)
  | [] => []
  | event :: rest =>
      let digest := (stringText (event.get (js "eventHash"))).getD []
      ⟨sequence + 1, previous, event, digest⟩ :: eventLinks (sequence + 1) digest rest

/-- An event that states its place, what it follows and its own hash, outside and inside,
and belongs to what the manifest names. -/
structure EventBound (manifest : Value) (link : Link Value JsString) : Prop where
  sequence : same (link.body.get (js "sequence")) (wholeNumber link.sequence) = true
  embeddedSequence : same ((link.body.get (js "eventData")).get (js "sequence"))
    (link.body.get (js "sequence")) = true
  previousHash : link.body.get (js "previousHash") = .string link.previous
  embeddedPreviousHash :
    (link.body.get (js "eventData")).get (js "previousHash") = .string link.previous
  eventHash : link.body.get (js "eventHash") = .string link.digest
  hash : hashOf tools (link.body.get (js "eventData")) = some link.digest
  assignment : same ((link.body.get (js "eventData")).get (js "assignmentId"))
    (path manifest ["assignment", "id"]) = true
  request : same ((link.body.get (js "eventData")).get (js "requestId"))
    (path manifest ["request", "id"]) = true
  tenant : same ((link.body.get (js "eventData")).get (js "tenantId"))
    (path manifest ["tenant", "id"]) = true

theorem report_eq_nil {wrong : Bool} {code : String} : report wrong code = [] ↔ wrong = false := by
  cases wrong <;> simp [report]

variable {tools} {manifest : Value}

/-- An event without an error is bound to its place, with the hash that it states. -/
theorem eventErrors_nil {event : Value} {sequence : ℕ} {previous : JsString}
    (clean : eventErrors tools manifest event (sequence + 1) previous = []) :
    ∃ digest, event.get (js "eventHash") = .string digest ∧
      EventBound tools manifest ⟨sequence + 1, previous, event, digest⟩ := by
  simp only [eventErrors, List.append_eq_nil_iff] at clean
  obtain ⟨⟨⟨⟨⟨⟨place, follows⟩, embedded⟩, assignment⟩, request⟩, tenant⟩, hashed⟩ := clean
  have passes : ∀ {wrong : Bool} {error : JsString}, (if wrong then [error] else []) = [] →
      wrong = false := by
    intro wrong error none
    cases wrong
    · rfl
    · cases none
  have follows := passes follows
  simp only [Bool.or_eq_false_iff, Bool.not_eq_false', isText_iff] at follows
  cases digest : hashOf tools (event.get (js "eventData")) with
  | none => simp [digest] at hashed
  | some hash =>
      simp only [digest] at hashed
      have states := passes hashed
      simp only [Bool.not_eq_false', isText_iff] at states
      exact ⟨hash, states,
        { sequence := by simpa using passes place
          embeddedSequence := by simpa using passes embedded
          previousHash := follows.1
          embeddedPreviousHash := follows.2
          eventHash := states
          hash := digest
          assignment := by simpa using passes assignment
          request := by simpa using passes request
          tenant := by simpa using passes tenant }⟩

/-- Errors that were found stay. -/
theorem visitChain_errors {sequence : ℕ} {chain : Chain} {events : List Value}
    (clean : (visitChain tools manifest sequence chain events).errors = []) :
    chain.errors = [] := by
  induction events generalizing sequence chain with
  | nil => exact clean
  | cons event rest inductionHypothesis =>
      have next := inductionHypothesis clean
      split at next <;> exact (List.append_eq_nil_iff.mp next).1

/-- What a walk without an error has seen is an intact chain. -/
theorem visitChain_intact {sequence : ℕ} {chain : Chain} {events : List Value}
    (clean : (visitChain tools manifest (sequence + 1) chain events).errors = []) :
    Intact (EventBound tools manifest) sequence chain.previousHash
        (eventLinks sequence chain.previousHash events) ∧
      (visitChain tools manifest (sequence + 1) chain events).previousHash =
        lastDigest chain.previousHash (eventLinks sequence chain.previousHash events) := by
  induction events generalizing sequence chain with
  | nil => exact ⟨trivial, rfl⟩
  | cons event rest inductionHypothesis =>
      have first : eventErrors tools manifest event (sequence + 1) chain.previousHash = [] := by
        rw [visitChain] at clean
        have next := visitChain_errors clean
        split at next <;> exact (List.append_eq_nil_iff.mp next).2
      obtain ⟨digest, states, bound⟩ := eventErrors_nil first
      have own : (stringText (event.get (js "eventHash"))).getD [] = digest := by
        rw [states]
        rfl
      rw [visitChain, states] at clean ⊢
      obtain ⟨intact, last⟩ := inductionHypothesis clean
      rw [eventLinks, own]
      exact ⟨⟨rfl, rfl, bound, intact⟩, last⟩

/-! ## The record -/

/-- The events of a record as links after the genesis hash. -/
def recordLinks (record : Value) : List (Link Value JsString) :=
  eventLinks 0 GENESIS_HASH (recordEvents record)

/-- What the verifier has established about a record in which it finds nothing wrong. -/
structure Sound (tools : Tools) (record : Value) : Prop where
  manifest : isReference (record.get (js "manifest")) = true
  events : recordEvents record ≠ []
  chain : Intact (EventBound tools (record.get (js "manifest"))) 0 GENESIS_HASH
    (recordLinks record)
  count : same (path (record.get (js "manifest")) ["evidence", "eventCount"])
    (wholeNumber (recordEvents record).length) = true
  head : path (record.get (js "manifest")) ["evidence", "headHash"] =
    .string (lastDigest GENESIS_HASH (recordLinks record))
  seals : normalizedSeals record ≠ []
  sealed : ∀ sealed ∈ normalizedSeals record,
    recordSealVerified tools (record.get (js "manifest")) sealed = true
  primary : (primarySeal (normalizedSeals record)).get (js "profile") =
    .string (js "vasi-integrity-seal/v1")

theorem visitSeals_nil {seals : List Value} {results : List SealResult}
    (visited : visitSeals tools manifest seals = some (results, [])) :
    ∀ sealed ∈ seals, recordSealVerified tools manifest sealed = true := by
  induction seals generalizing results with
  | nil => simp
  | cons sealed rest inductionHypothesis =>
      simp only [visitSeals, Option.bind_eq_bind, Option.bind_eq_some_iff, Option.pure_def,
        Option.some.injEq, Prod.mk.injEq, List.append_eq_nil_iff] at visited
      obtain ⟨⟨result, errors⟩, first, ⟨others, later⟩, following, -, rfl, rfl⟩ := visited
      refine List.forall_mem_cons.mpr ⟨?_, inductionHypothesis following⟩
      by_cases verifies : recordSealVerified tools manifest sealed = true
      · exact verifies
      · unfold visitSeal at first
        split at first
        · cases first
        · simp only [if_neg verifies] at first
          obtain ⟨name, -, first⟩ := Option.bind_eq_some_iff.mp first
          simp at first

theorem manifestErrors_nil {events : List Value} (truthy : manifest.truthy = true)
    (found : manifestErrors tools manifest events = some []) :
    (visitChain tools manifest 1 ⟨GENESIS_HASH, [], []⟩ events).errors = [] ∧
      evidenceErrors (manifest.get (js "evidence")) events
        (visitChain tools manifest 1 ⟨GENESIS_HASH, [], []⟩ events) = [] := by
  rw [manifestErrors, if_neg (not_not.mpr truthy)] at found
  simp only [Option.bind_eq_bind, Option.bind_eq_some_iff, Option.pure_def, Option.some.injEq,
    List.append_eq_nil_iff] at found
  obtain ⟨_, -, _, -, _, -, _, -, _, -, _, -, clean⟩ := found
  exact clean.1.1.1.1.1.1

theorem isReference_truthy {value : Value} (reference : isReference value = true) :
    value.truthy = true := by
  cases value <;> first | rfl | cases reference

/-- A verified record is sound. -/
theorem verified_sound {expectedPublicJWK record : Value} {result : RecordResult}
    (returned : verifyEvidenceRecord tools expectedPublicJWK record = some result)
    (verified : result.verified = true) : Sound tools record := by
  simp only [verifyEvidenceRecord, Option.bind_eq_bind, Option.bind_eq_some_iff, Option.pure_def,
    Option.some.injEq] at returned
  obtain ⟨found, checked, ⟨results, sealErrors⟩, visited, rfl⟩ := returned
  simp only [List.isEmpty_iff, List.append_eq_nil_iff, report_eq_nil] at verified
  obtain ⟨⟨⟨⟨⟨events, manifest⟩, seals⟩, rfl⟩, rfl⟩, primary⟩ := verified
  have reference : isReference (record.get (js "manifest")) = true := by simpa using manifest
  obtain ⟨clean, evidence⟩ := manifestErrors_nil (isReference_truthy reference) checked
  obtain ⟨intact, last⟩ := visitChain_intact clean
  simp only [evidenceErrors, List.append_eq_nil_iff, report_eq_nil, Bool.not_eq_false',
    isText_iff] at evidence
  obtain ⟨⟨⟨⟨count, -⟩, -⟩, head⟩, -⟩ := evidence
  simp only [primaryErrors, List.append_eq_nil_iff, report_eq_nil, Bool.or_eq_false_iff,
    Bool.not_eq_false', isText_iff] at primary
  exact {
    manifest := reference
    events := by simpa using events
    chain := intact
    count := count
    head := head.trans (congrArg Value.string last)
    seals := by simpa using seals
    sealed := visitSeals_nil visited
    primary := primary.1.2 }

/-- The primary seal is one of the seals. -/
theorem primarySeal_mem {seals : List Value} (some : seals ≠ []) : primarySeal seals ∈ seals := by
  obtain ⟨first, rest, rfl⟩ := List.exists_cons_of_ne_nil some
  unfold primarySeal
  split
  case h_1 found selected =>
    split
    · exact List.mem_of_find?_eq_some selected
    · exact List.mem_cons_self
  case h_2 => exact List.mem_cons_self

/-- The primary seal of a sound record states the hash of the manifest and is signed over it. -/
theorem Sound.states {verify : JsString → Value → JsString → Option Bool} {record : Value}
    (sound : Sound (tools.sealing verify) record) :
    ∃ text signature, canonicalJSON (record.get (js "manifest")) = .ok text ∧
      (primarySeal (normalizedSeals record)).get (js "manifestHash") =
        .string (tools.sha256Hex text) ∧
      verify text ((primarySeal (normalizedSeals record)).get (js "publicJWK")) signature =
        some true := by
  have verifies := sound.sealed _ (primarySeal_mem sound.seals)
  have other : isText (.string (js "vasi-integrity-seal/v1")) (js "vasi-certificate-seal/v1") =
      false := by decide
  rw [recordSealVerified, sealVerified, sound.primary, other, if_neg (by decide)] at verifies
  obtain ⟨text, signature, written, states, -, signed⟩ :=
    EngineCrypto.verifyDetachedIntegritySeal_states verifies
  exact ⟨text, signature, written, states, signed⟩

/-! ## Two records -/

/-- The canonical texts that the verifier hashes of a record: of the manifest and of what each
event states. -/
def hashedTexts (record : Value) : List JsString :=
  (record.get (js "manifest") :: (recordEvents record).map (Value.get · (js "eventData"))).filterMap
    fun value => (canonicalJSON value).toOption

/-- No two different ones of the inputs have one digest. -/
def NoCollision {α β : Type} (digest : α → β) (inputs : List α) : Prop :=
  ∀ left ∈ inputs, ∀ right ∈ inputs, digest left = digest right → left = right

/-- Two values with one canonical text; where neither loses a member in it they are the same
up to the order of members. -/
structure SameText (left right : Value) : Prop where
  text : ∃ text, canonicalJSON left = .ok text ∧ canonicalJSON right = .ok text
  upToOrder : Kept false left → Kept false right → SameUpToOrder false left right

/-- Two events at one place of their chains. -/
structure SameEvent (left right : Value) : Prop where
  data : SameText (left.get (js "eventData")) (right.get (js "eventData"))
  eventHash : left.get (js "eventHash") = right.get (js "eventHash")
  previousHash : left.get (js "previousHash") = right.get (js "previousHash")
  sequence : same (left.get (js "sequence")) (right.get (js "sequence")) = true

/-- Two records with one manifest and one chain of events. -/
structure SameEvidence (left right : Value) : Prop where
  manifest : SameText (left.get (js "manifest")) (right.get (js "manifest"))
  events : List.Forall₂ SameEvent (recordEvents left) (recordEvents right)

theorem sameText_of_text {left right : Value} (storedLeft : Stored left)
    (storedRight : Stored right) {text : JsString} (first : canonicalJSON left = .ok text)
    (second : canonicalJSON right = .ok text) : SameText left right where
  text := ⟨text, first, second⟩
  upToOrder := (alike_of_text storedLeft storedRight first second).sameUpToOrder storedLeft
    storedRight

theorem eventLinks_bodies (sequence : ℕ) (previous : JsString) (events : List Value) :
    (eventLinks sequence previous events).map Link.body = events := by
  induction events generalizing sequence previous with
  | nil => rfl
  | cons event rest inductionHypothesis => simp [eventLinks, inductionHypothesis]

theorem same_wholeNumber {value : Value} {number : ℕ} :
    same value (wholeNumber number) = true ↔
      ∃ own : JsNumber, value = .number own ∧ own.toRat? = some (number : ℚ) := by
  cases value with
  | number own =>
      have whole : JsNumber.toRat? (.finite (number : ℚ)) = some (number : ℚ) := rfl
      simp only [same, sameMember, wholeNumber, whole, Bool.and_eq_true, decide_eq_true_eq,
        Bool.or_eq_true, Value.number.injEq, exists_eq_left']
      exact ⟨And.left, fun found => ⟨found, .inr (by rw [found]; rfl)⟩⟩
  | _ => simp [same, sameMember, wholeNumber]

theorem canonicalJSON_of_hash {value : Value} {digest : JsString}
    (hashed : hashOf tools value = some digest) :
    ∃ text, canonicalJSON value = .ok text ∧ tools.sha256Hex text = digest := by
  unfold hashOf CanonicalJson.hashCanonicalJSON at hashed
  cases built : canonicalJSON value with
  | error message => simp [built, Except.map, Except.toOption] at hashed
  | ok text => exact ⟨text, rfl, by simpa [built, Except.map, Except.toOption] using hashed⟩

section Records

variable {record : Value}

theorem stored_events (stored : Stored record) : ∀ event ∈ recordEvents record, Stored event := by
  intro event inside
  unfold recordEvents at inside
  rcases stored.get (.name (js "events")) with missing | there
  · rw [show record.get (js "events") = .undefined from missing] at inside
    cases inside
  · change Stored (record.get (js "events")) at there
    cases found : record.get (js "events") with
    | array items =>
        rw [found] at inside there
        exact (Redaction.stored_array items).mp there event inside
    | _ =>
        rw [found] at inside
        cases inside

/-- A member with a canonical text is stored. -/
theorem stored_member (stored : Stored record) {key text : JsString}
    (written : canonicalJSON (record.get key) = .ok text) : Stored (record.get key) := by
  rcases stored.get (.name key) with missing | there
  · rw [show record.get key = .undefined from missing] at written
    cases written
  · exact there

theorem stored_or (stored : Stored record ∨ record = .undefined) (key : JsString) :
    Stored (record.get key) ∨ record.get key = .undefined := by
  rcases stored with stored | rfl
  · exact (stored.get (.name key)).symm
  · exact .inr rfl

theorem mem_hashedTexts_manifest {text : JsString}
    (written : canonicalJSON (record.get (js "manifest")) = .ok text) :
    text ∈ hashedTexts record :=
  List.mem_filterMap.mpr ⟨_, List.mem_cons_self, by rw [written]; rfl⟩

theorem mem_hashedTexts_event {event : Value} (inside : event ∈ recordEvents record)
    {text : JsString} (written : canonicalJSON (event.get (js "eventData")) = .ok text) :
    text ∈ hashedTexts record :=
  List.mem_filterMap.mpr
    ⟨_, List.mem_cons_of_mem _ (List.mem_map_of_mem inside), by rw [written]; rfl⟩

theorem body_mem {link : Link Value JsString} (inside : link ∈ recordLinks record) :
    link.body ∈ recordEvents record := by
  have listed := List.mem_map_of_mem (f := Link.body) inside
  rwa [recordLinks, eventLinks_bodies] at listed

end Records

/-- What the events of two sound records state is the same where they state one hash. -/
theorem Sound.link_text {first second : Value} {link other : Link Value JsString}
    (storedFirst : Stored first) (storedSecond : Stored second)
    (distinct : NoCollision tools.sha256Hex (hashedTexts first ++ hashedTexts second))
    (inFirst : link ∈ recordLinks first) (inSecond : other ∈ recordLinks second)
    (bound : EventBound tools (first.get (js "manifest")) link)
    (otherBound : EventBound tools (second.get (js "manifest")) other)
    (agree : link.digest = other.digest) :
    ∃ text, Stored (link.body.get (js "eventData")) ∧ Stored (other.body.get (js "eventData")) ∧
      canonicalJSON (link.body.get (js "eventData")) = .ok text ∧
      canonicalJSON (other.body.get (js "eventData")) = .ok text := by
  obtain ⟨text, written, digest⟩ := canonicalJSON_of_hash bound.hash
  obtain ⟨otherText, otherWritten, otherDigest⟩ := canonicalJSON_of_hash otherBound.hash
  have one := mem_hashedTexts_event (body_mem inFirst) written
  have two := mem_hashedTexts_event (body_mem inSecond) otherWritten
  obtain rfl := distinct text (List.mem_append_left _ one) otherText
    (List.mem_append_right _ two) (by rw [digest, otherDigest, agree])
  exact ⟨text, stored_member (stored_events storedFirst _ (body_mem inFirst)) written,
    stored_member (stored_events storedSecond _ (body_mem inSecond)) otherWritten, written,
    otherWritten⟩

/-- Two sound records whose manifests have one text have the same evidence. -/
theorem Sound.sameEvidence {first second : Value} (sound : Sound tools first)
    (otherSound : Sound tools second) (storedFirst : Stored first) (storedSecond : Stored second)
    (distinct : NoCollision tools.sha256Hex (hashedTexts first ++ hashedTexts second))
    {text : JsString} (written : canonicalJSON (first.get (js "manifest")) = .ok text)
    (otherWritten : canonicalJSON (second.get (js "manifest")) = .ok text) :
    SameEvidence first second := by
  have storedManifest := stored_member storedFirst written
  have storedOther := stored_member storedSecond otherWritten
  have alike := alike_of_text storedManifest storedOther written otherWritten
  have evidence := alike.get (.inl storedManifest) (.inl storedOther)
    (show js "evidence" ≠ js "__proto__" by decide)
  have below := stored_or (.inl storedManifest) (js "evidence")
  have otherBelow := stored_or (.inl storedOther) (js "evidence")
  -- The manifests state one head and one number of events.
  have heads : lastDigest GENESIS_HASH (recordLinks first) =
      lastDigest GENESIS_HASH (recordLinks second) := by
    have stated := (evidence.get below otherBelow
      (show js "headHash" ≠ js "__proto__" by decide)).string sound.head
    exact Value.string.inj (stated.symm.trans otherSound.head)
  have lengths : (recordLinks first).length = (recordLinks second).length := by
    obtain ⟨own, counted, count⟩ := same_wholeNumber.mp sound.count
    obtain ⟨other, otherCounted, otherCount⟩ := same_wholeNumber.mp otherSound.count
    obtain ⟨stated, states, agree⟩ := (evidence.get below otherBelow
      (show js "eventCount" ≠ js "__proto__" by decide)).number counted
    obtain rfl := JsValue.Value.number.inj (states.symm.trans otherCounted)
    have sizes : (recordEvents first).length = (recordEvents second).length := by
      simpa [count, otherCount] using agree.symm
    calc (recordLinks first).length = ((recordLinks first).map Link.body).length := by simp
      _ = (recordEvents first).length := by rw [recordLinks, eventLinks_bodies]
      _ = (recordEvents second).length := sizes
      _ = ((recordLinks second).map Link.body).length := by rw [recordLinks, eventLinks_bodies]
      _ = (recordLinks second).length := by simp
  have bound := intact_sound sound.chain
  have otherBound := intact_sound otherSound.chain
  have links := intact_agree sound.chain otherSound.chain lengths heads (by
    intro link inFirst other inSecond agree
    obtain ⟨data, one, two, wrote, otherWrote⟩ := Sound.link_text storedFirst storedSecond
      distinct inFirst inSecond (bound link inFirst) (otherBound other inSecond) agree
    have stated := ((alike_of_text one two wrote otherWrote).get (.inl one) (.inl two)
      (show js "previousHash" ≠ js "__proto__" by decide)).string
        (bound link inFirst).embeddedPreviousHash
    exact Value.string.inj (stated.symm.trans (otherBound other inSecond).embeddedPreviousHash))
  refine ⟨sameText_of_text storedManifest storedOther written otherWritten, ?_⟩
  rw [← eventLinks_bodies 0 GENESIS_HASH (recordEvents first),
    ← eventLinks_bodies 0 GENESIS_HASH (recordEvents second), List.forall₂_map_left_iff,
    List.forall₂_map_right_iff]
  obtain ⟨-, agree⟩ := List.forall₂_iff_zip.mp links
  refine List.forall₂_iff_zip.mpr ⟨lengths, fun {link other} paired => ?_⟩
  obtain ⟨inFirst, inSecond⟩ := List.of_mem_zip paired
  obtain ⟨place, previous, digest⟩ := agree paired
  have own := bound link inFirst
  have others := otherBound other inSecond
  obtain ⟨data, one, two, wrote, otherWrote⟩ := Sound.link_text storedFirst storedSecond
    distinct inFirst inSecond own others digest
  exact {
    data := sameText_of_text one two wrote otherWrote
    eventHash := by rw [own.eventHash, others.eventHash, digest]
    previousHash := by rw [own.previousHash, others.previousHash, previous]
    sequence := by
      obtain ⟨number, stated, value⟩ := same_wholeNumber.mp own.sequence
      obtain ⟨otherNumber, otherStated, otherValue⟩ := same_wholeNumber.mp others.sequence
      rw [stated, otherStated]
      simp [same, sameMember, value, otherValue, place] }

/-- The verifier returns, and finds nothing wrong. -/
def verifies (tools : Tools) (expectedPublicJWK record : Value) : Bool :=
  (verifyEvidenceRecord tools expectedPublicJWK record).any RecordResult.verified

theorem verifies_sound {expectedPublicJWK record : Value}
    (verified : verifies tools expectedPublicJWK record = true) : Sound tools record := by
  unfold verifies at verified
  cases returned : verifyEvidenceRecord tools expectedPublicJWK record with
  | none => simp [returned] at verified
  | some result => exact verified_sound returned (by simpa [returned] using verified)

/-- Two records that verify, under any keys, and whose primary seals state one hash carry the
same evidence: the manifest and every event are the same text, so they are the same up to the
order of members. The only way out is a collision of two texts that the verifier hashes. -/
theorem sealed_records_agree (tools : Tools)
    (verify : JsString → Value → JsString → Option Bool) (firstText secondText : JsString)
    (first second firstKey secondKey : Value) (firstRead : parse firstText = some first)
    (secondRead : parse secondText = some second)
    (firstVerifies : verifies (tools.sealing verify) firstKey first = true)
    (secondVerifies : verifies (tools.sealing verify) secondKey second = true)
    (sameHash : (primarySeal (normalizedSeals first)).get (js "manifestHash") =
      (primarySeal (normalizedSeals second)).get (js "manifestHash"))
    (distinct : NoCollision tools.sha256Hex (hashedTexts first ++ hashedTexts second)) :
    SameEvidence first second := by
  have sound := verifies_sound firstVerifies
  have otherSound := verifies_sound secondVerifies
  obtain ⟨text, signature, written, states, -⟩ := sound.states
  obtain ⟨otherText, otherSignature, otherWritten, otherStates, -⟩ := otherSound.states
  have digests : tools.sha256Hex text = tools.sha256Hex otherText :=
    Value.string.inj (states.symm.trans (sameHash.trans otherStates))
  obtain rfl := distinct text (List.mem_append_left _ (mem_hashedTexts_manifest written))
    otherText (List.mem_append_right _ (mem_hashedTexts_manifest otherWritten)) digests
  exact sound.sameEvidence otherSound (parse_stored firstRead) (parse_stored secondRead) distinct
    written otherWritten

end Tools

/-- A digest that tells texts of different lengths apart. -/
def lengthDigest (text : JsString) : JsString := [Fin.ofNat _ text.length]

/-- A record of one event with the members of its documents in the order given. -/
def sampleRecord (order : Members → Members) : Value :=
  let named (name : String) : Value := .object [(js "id", .string (js name))]
  let eventData : Value := .object (order [(js "assignmentId", .string (js "a")),
    (js "previousHash", .string GENESIS_HASH), (js "requestId", .string (js "r")),
    (js "sequence", wholeNumber 1), (js "tenantId", .string (js "t"))])
  let hash : Value := .string [146]
  let event : Value := .object [(js "eventData", eventData), (js "eventHash", hash),
    (js "previousHash", .string GENESIS_HASH), (js "sequence", wholeNumber 1)]
  let evidence : Value := .object (order [(js "eventCount", wholeNumber 1),
    (js "eventHashes", .array [hash]), (js "firstSequence", wholeNumber 1),
    (js "headHash", hash), (js "lastSequence", wholeNumber 1)])
  let manifest : Value := .object (order [(js "assignment", named "a"), (js "evidence", evidence),
    (js "request", named "r"), (js "tenant", named "t")])
  let sealed : Value := .object [(js "algorithm", .string (js "Ed25519")),
    (js "manifestHash", .string [164]), (js "profile", .string (js "vasi-integrity-seal/v1")),
    (js "signature", .string (js "s"))]
  .object [(js "events", .array [event]), (js "manifest", manifest), (js "seals", .array [sealed])]

/-- Tools with that digest. -/
def sampleTools : Tools := { refusingTools with sha256Hex := lengthDigest }

/-- The text of a value that JSON.parse reads back as it is. -/
theorem sampleRecord_read (order : Members → Members) (formed : WellFormed (sampleRecord order))
    (doubles : JsonText.Doubles (sampleRecord order))
    (arranged : CanonicalJson.readBack propertyOrder (sampleRecord order) = sampleRecord order) :
    ∃ text, parse text = some (sampleRecord order) := by
  have back := JsonText.parse_stringify_readBack formed doubles rfl
  obtain ⟨text, -, read⟩ := Option.bind_eq_some_iff.mp back
  exact ⟨text, by rw [read, arranged]⟩

theorem isDouble_one : JsonText.IsDouble 1 := 
  ⟨by decide +kernel, by rw [abs_one]; exact one_lt_pow₀ (by norm_num) (by norm_num)⟩

/-- A record and the same record with the members of its documents in the opposite order. -/
theorem sealed_records_agree_sample :
    SameEvidence (sampleRecord id) (sampleRecord List.reverse) := by
  obtain ⟨firstText, firstRead⟩ := sampleRecord_read id
    (by
      simp only [sampleRecord, WellFormed, WellFormedItems, WellFormedMembers, wholeNumber, id]
      decide +kernel)
    (by
      simp only [sampleRecord, JsonText.Doubles, JsonText.DoublesItems, JsonText.DoublesMembers,
        wholeNumber, id, Nat.cast_one, isDouble_one, and_self])
    rfl
  obtain ⟨secondText, secondRead⟩ := sampleRecord_read List.reverse
    (by
      simp only [sampleRecord, WellFormed, WellFormedItems, WellFormedMembers, wholeNumber,
        List.reverse_cons, List.reverse_nil, List.nil_append, List.cons_append]
      decide +kernel)
    (by
      simp only [sampleRecord, JsonText.Doubles, JsonText.DoublesItems, JsonText.DoublesMembers,
        wholeNumber, List.reverse_cons, List.reverse_nil, List.nil_append, List.cons_append,
        Nat.cast_one, isDouble_one, and_self])
    rfl
  exact sealed_records_agree sampleTools (fun _ _ _ => some true) firstText secondText
    (sampleRecord id) (sampleRecord List.reverse) .undefined .undefined firstRead secondRead
    (by decide +kernel) (by decide +kernel) rfl (by unfold NoCollision; decide +kernel)

end Vasi.EvidenceVerifier
