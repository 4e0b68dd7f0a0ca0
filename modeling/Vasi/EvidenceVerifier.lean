import Vasi.Coercion
import Vasi.ConfigurationStore
import Vasi.JsonStringify
import Vasi.StoredZip

/-!
# The evidence verifier

The verification of an evidence record and of a bundle that carries one. Every
check reports what it finds wrong and goes on; nothing is meant to be thrown. A
value of none is a TypeError that no handler catches.

What is called inside a handler is a parameter, with none for whatever it throws;
so are the two seal checks, which catch everything themselves. The limits of the
stack and of the memory are left out.
-/
namespace Vasi.EvidenceVerifier

open JsValue Validation Coercion IsoTime Admission
open CanonicalJson (hashCanonicalJSON)
open JsonText (parse stringify)
open Productization (MAX_SAFE_INTEGER TextPlatform isDigest isText admissionValue validateTenantAdmission wholeNumber)
open StoredZip (Entry parseStoredZip)
open Utf8 (Byte decode)

structure Tools where
  platform : TextPlatform
  crc32 : List Byte → ℕ
  sha256Hex : JsString → JsString
  sha256Bytes : List Byte → JsString
  verifyCertificateSeal : Value → Value → Bool
  verifyDetachedIntegritySeal : Value → Value → List JsString → Bool
  calculateActivityInteractionSummary : Value → List Value → Option Value
  participantContextPolicy : Value → Option Value
  validateStoredParticipantContextSnapshot : Value → Option Value
  notificationDeliveryFailure : Value → Value → Option JsString
  authenticationAssurancePolicy : Value → Option Value
  evaluateAuthenticationAssurance : Value → Value → Value → Option Value
  evidenceReports : Value → Option (List (JsString × List Byte))

def GENESIS_HASH : JsString := List.replicate 64 48

/-! ## Fields -/

/-- Strict equality of two values at different places of parsed documents. -/
def same (left right : Value) : Bool := sameMember left right

def isObject : Value → Bool
  | .object _ => true
  | _ => false

/-- typeof value === "object" for a value that is there. -/
def isReference : Value → Bool
  | .array _ | .object _ => true
  | _ => false

def arrayItems : Value → Option (List Value)
  | .array items => some items
  | _ => none

def boundedText (value : Value) (maximum : ℕ) : Option JsString :=
  (stringText value).filter fun text =>
    text ≠ [] && text.length ≤ maximum && !text.any isControl

def canonicalTimestamp (value : Value) : Bool := (stringText value).any isCanonicalTimestamp

def boundedInteger (value : Value) (minimum maximum : ℤ) : Option ℤ :=
  match value with
  | .number number =>
      let integer := (number.toRat?.getD 0).num
      if number.isSafeInteger ∧ minimum ≤ integer ∧ integer ≤ maximum then some integer else none
  | _ => none

/-- A value, or a text in place of one that is falsy. -/
def orText (value : Value) (text : JsString) : Value :=
  if value.truthy then value else .string text

/-- The test of the digest pattern, which converts what it is put to. -/
def hashPattern (value : Value) : Option Bool := (toText (orText value [])).map isDigest

def report (wrong : Bool) (code : String) : List JsString := if wrong then [js code] else []

/-- The parts of an identity, separated by NUL. -/
def identity (parts : List JsString) : JsString := join [0] parts

/-- A path of members. -/
def path (value : Value) (keys : List String) : Value :=
  keys.foldl (fun inner key => inner.get (js key)) value

section Tools

variable (tools : Tools)

/-- hashCanonicalJSON; none when it throws. -/
def hashOf (value : Value) : Option JsString := (hashCanonicalJSON tools.sha256Hex value).toOption

/-- Whether a value has the given hash; a hash that throws is no hash. -/
def hasHash (value hash : Value) : Bool :=
  match hashOf tools value with
  | some actual => isText hash actual
  | none => false

/-- Whether two values have one hash; none when hashing throws. -/
def sameHash (left right : Value) : Option Bool :=
  (hashOf tools left).bind fun first => (hashOf tools right).map fun second => first == second

/-! ## The event chain -/

structure Chain where
  previousHash : JsString
  eventHashes : List JsString
  errors : List JsString

def eventErrors (manifest event : Value) (sequence : ℕ) (previousHash : JsString) :
    List JsString :=
  let eventData := event.get (js "eventData")
  let code (suffix : String) : JsString := js "event_" ++ decimal sequence ++ js suffix
  let check (wrong : Bool) (suffix : String) : List JsString := if wrong then [code suffix] else []
  check (!same (event.get (js "sequence")) (wholeNumber sequence)) "_sequence_invalid" ++
    check (!isText (event.get (js "previousHash")) previousHash ||
      !isText (eventData.get (js "previousHash")) previousHash) "_previous_hash_invalid" ++
    check (!same (eventData.get (js "sequence")) (event.get (js "sequence")))
      "_embedded_sequence_invalid" ++
    check (!same (eventData.get (js "assignmentId")) (path manifest ["assignment", "id"]))
      "_assignment_invalid" ++
    check (!same (eventData.get (js "requestId")) (path manifest ["request", "id"]))
      "_request_invalid" ++
    check (!same (eventData.get (js "tenantId")) (path manifest ["tenant", "id"]))
      "_tenant_invalid" ++
    (match hashOf tools eventData with
      | some hash => check (!isText (event.get (js "eventHash")) hash) "_hash_invalid"
      | none => [code "_canonical_invalid"])

def visitChain (manifest : Value) (sequence : ℕ) (chain : Chain) : List Value → Chain
  | [] => chain
  | event :: rest =>
      let errors := chain.errors ++ eventErrors tools manifest event sequence chain.previousHash
      let next : Chain := match event.get (js "eventHash") with
        | .string hash => ⟨hash, chain.eventHashes ++ [hash], errors⟩
        | _ => { chain with errors }
      visitChain manifest (sequence + 1) next rest

def evidenceErrors (evidence : Value) (events : List Value) (chain : Chain) : List JsString :=
  report (!same (evidence.get (js "eventCount")) (wholeNumber events.length))
      "manifest_event_count_invalid" ++
    report (!same (evidence.get (js "firstSequence")) (wholeNumber 1))
      "manifest_first_sequence_invalid" ++
    report (!same (evidence.get (js "lastSequence")) (wholeNumber events.length))
      "manifest_last_sequence_invalid" ++
    report (!isText (evidence.get (js "headHash")) chain.previousHash)
      "manifest_head_hash_invalid" ++
    report (stringify (evidence.get (js "eventHashes")) !=
      stringify (.array (chain.eventHashes.map .string))) "manifest_event_hashes_invalid"

/-! ## Activity interactions -/

def INTERACTION_TYPES : List JsString := [js "presented", js "visible", js "hidden", js "focus",
  js "blur", js "heartbeat", js "interaction", js "disconnect"]

structure InteractionEvent where
  activityId : JsString
  batchId : JsString
  eventId : JsString
  interactionId : JsString
  sessionId : JsString
  sequence : ℤ
  monotonicMs : ℤ
  source : Value

/-- An event whose fields are in order. -/
def interactionEvent (event : Value) : Option InteractionEvent := do
  let activityId ← boundedText (event.get (js "activityId")) 64
  let batchId ← boundedText (event.get (js "batchId")) 128
  let eventId ← boundedText (event.get (js "id")) 128
  let interactionId ← boundedText (event.get (js "interactionId")) 128
  let sessionId ← boundedText (event.get (js "telemetrySessionId")) 128
  let type ← boundedText (event.get (js "type")) 32
  let sequence ← boundedInteger (event.get (js "sequence")) 1 100000
  let own := event.get (js "event")
  let monotonicMs ← boundedInteger (own.get (js "monotonicMs")) 0 604800000
  let occurredAt := own.get (js "clientOccurredAt")
  if type ∈ INTERACTION_TYPES ∧ isText (own.get (js "id")) eventId ∧
      same (own.get (js "sequence")) (event.get (js "sequence")) ∧
      isText (own.get (js "type")) type ∧ canonicalTimestamp (event.get (js "receivedAt")) ∧
      (occurredAt.isUndefined ∨ canonicalTimestamp occurredAt) then
    some { activityId, batchId, eventId, interactionId, sessionId, sequence, monotonicMs,
           source := event }
  else none

structure EventState where
  eventIdentities : List JsString
  sequenceIdentities : List JsString
  sessionProgress : List (JsString × ℤ × ℤ)
  accepted : List InteractionEvent
  errors : List JsString

def visitEvent (state : EventState) (event : Value) : EventState :=
  match interactionEvent event with
  | none => { state with errors := state.errors ++ [js "activity_interaction_event_invalid"] }
  | some own =>
      let session := identity [own.activityId, own.sessionId]
      let eventIdentity := identity [session, own.eventId]
      let sequenceIdentity := identity [session, decimal own.sequence.toNat]
      let early := (state.sessionProgress.lookup session).any fun previous =>
        own.sequence ≤ previous.1 || own.monotonicMs < previous.2
      { eventIdentities := eventIdentity :: state.eventIdentities
        sequenceIdentities := sequenceIdentity :: state.sequenceIdentities
        sessionProgress := (session, own.sequence, own.monotonicMs) :: state.sessionProgress
        accepted := state.accepted ++ [own]
        errors := state.errors ++
          report (state.eventIdentities.contains eventIdentity)
            "activity_interaction_event_id_duplicate" ++
          report (state.sequenceIdentities.contains sequenceIdentity)
            "activity_interaction_event_sequence_duplicate" ++
          report early "activity_interaction_event_order_invalid" }

structure BatchFields where
  activityId : JsString
  actorPrincipalId : JsString
  id : JsString
  interactionId : JsString
  telemetrySessionId : JsString
  eventCount : ℤ

/-- The fields of a batch that are checked before its payload hash. -/
def batchFields (batch : Value) : Option BatchFields := do
  let activityId ← boundedText (batch.get (js "activityId")) 64
  let actorPrincipalId ← boundedText (batch.get (js "actorPrincipalId")) 128
  let id ← boundedText (batch.get (js "id")) 128
  let interactionId ← boundedText (batch.get (js "interactionId")) 128
  let telemetrySessionId ← boundedText (batch.get (js "telemetrySessionId")) 128
  let eventCount ← boundedInteger (batch.get (js "eventCount")) 1 100
  return { activityId, actorPrincipalId, id, interactionId, telemetrySessionId, eventCount }

structure BatchState where
  batches : List (JsString × Value)
  chainLinks : List (JsString × Value)
  errors : List JsString

def BatchState.fail (state : BatchState) (code : String) : BatchState :=
  { state with errors := state.errors ++ [js code] }

/-- The events of a batch by sequence. -/
def groupedEvents (accepted : List InteractionEvent) (id : JsString) : List InteractionEvent :=
  (accepted.filter fun event => event.batchId = id).insertionSort fun left right =>
    left.sequence ≤ right.sequence

def payloadOf (event : Value) : Value := path event ["eventData", "payload"]

/-- The payload of the one chain event that names a batch and agrees with it. -/
def boundPayload (chainEvents : List Value) (fields : BatchFields) (batch : Value) :
    Option Value :=
  match chainEvents.filter fun event => isText (path (payloadOf event) ["batch", "id"]) fields.id with
  | [link] =>
      let payload := payloadOf link
      let own := payload.get (js "batch")
      if isText (payload.get (js "activityId")) fields.activityId ∧
          same (own.get (js "eventCount")) (batch.get (js "eventCount")) ∧
          same (own.get (js "payloadHash")) (batch.get (js "payloadHash")) ∧
          isText (own.get (js "telemetrySessionId")) fields.telemetrySessionId ∧
          isText (path link ["eventData", "actor", "principalId"]) fields.actorPrincipalId then
        some payload
      else none
  | _ => none

def batchErrors (grouped : List InteractionEvent) (fields : BatchFields) (batch : Value)
    (bound : Option Value) : List JsString :=
  report (grouped.length != fields.eventCount.toNat || grouped.any fun event =>
      event.activityId ≠ fields.activityId || event.interactionId ≠ fields.interactionId ||
        event.sessionId ≠ fields.telemetrySessionId)
      "activity_interaction_batch_event_binding_invalid" ++
    report (!hasHash tools (.object [(js "activityId", .string fields.activityId),
        (js "batchId", .string fields.id),
        (js "events", .array (grouped.map fun event => event.source.get (js "event"))),
        (js "interactionId", .string fields.interactionId),
        (js "telemetrySessionId", .string fields.telemetrySessionId)])
      (batch.get (js "payloadHash"))) "activity_interaction_batch_hash_invalid" ++
    report bound.isNone "activity_interaction_batch_chain_binding_invalid"

def visitBatch (accepted : List InteractionEvent) (chainEvents : List Value) (state : BatchState)
    (batch : Value) : Option BatchState :=
  match batchFields batch with
  | none => some (state.fail "activity_interaction_batch_invalid")
  | some fields => do
      let hashed ← hashPattern (batch.get (js "payloadHash"))
      if ¬(hashed ∧ canonicalTimestamp (batch.get (js "receivedAt"))) then
        return state.fail "activity_interaction_batch_invalid"
      else if (state.batches.lookup fields.id).isSome then
        return state.fail "activity_interaction_batch_duplicate"
      else
        let bound := boundPayload chainEvents fields batch
        return { batches := state.batches ++ [(fields.id, batch)]
                 chainLinks := state.chainLinks ++ (bound.map fun link => (fields.id, link)).toList
                 errors := state.errors ++
                   batchErrors tools (groupedEvents accepted fields.id) fields batch bound }

def visitBatches (accepted : List InteractionEvent) (chainEvents : List Value) :
    BatchState → List Value → Option BatchState
  | state, [] => some state
  | state, batch :: rest => do
      let next ← visitBatch tools accepted chainEvents state batch
      visitBatches accepted chainEvents next rest

structure SummaryFields where
  activityId : JsString
  revision : ℤ

/-- The fields of a summary that are checked before its hash. -/
def summaryFields (summary : Value) : Option SummaryFields := do
  let activityId ← boundedText (summary.get (js "activityId")) 64
  let _ ← boundedText (summary.get (js "id")) 128
  let revision ← boundedInteger (summary.get (js "revision")) 1 MAX_SAFE_INTEGER
  if canonicalTimestamp (summary.get (js "calculatedAt")) ∧
      isObject (summary.get (js "policy")) ∧ isObject (summary.get (js "summary")) then
    some { activityId, revision }
  else none

structure SummaryState where
  latest : List (JsString × ℤ × Value)
  byRevision : List (JsString × Value)
  errors : List JsString

def visitSummary (state : SummaryState) (summary : Value) : Option SummaryState :=
  match summaryFields summary with
  | none =>
      some { state with errors := state.errors ++ [js "activity_interaction_summary_invalid"] }
  | some fields => do
      let hashed ← hashPattern (summary.get (js "summaryHash"))
      if ¬hashed then
        return { state with
          errors := state.errors ++ [js "activity_interaction_summary_invalid"] }
      else
        let revision := identity [fields.activityId, decimal fields.revision.toNat]
        let hashError := match hashOf tools (summary.get (js "summary")) with
          | some hash => report (!isText (summary.get (js "summaryHash")) hash)
              "activity_interaction_summary_hash_invalid"
          | none => [js "activity_interaction_summary_canonical_invalid"]
        let newer := (state.latest.lookup fields.activityId).all fun latest =>
          latest.1 < fields.revision
        return {
          latest := if newer then (fields.activityId, fields.revision, summary) :: state.latest
            else state.latest
          byRevision := (revision, summary) :: state.byRevision
          errors := state.errors ++
            report (state.byRevision.lookup revision).isSome
              "activity_interaction_summary_revision_duplicate" ++ hashError }

def visitSummaries : SummaryState → List Value → Option SummaryState
  | state, [] => some state
  | state, summary :: rest => do
      let next ← visitSummary tools state summary
      visitSummaries next rest

/-- A link of a batch to a summary: the identity that it names, and what is wrong. -/
def visitLink (batches : List (JsString × Value)) (byRevision : List (JsString × Value))
    (link : JsString × Value) : Option (JsString × List JsString) := do
  let revision ← toText (link.2.get (js "summaryRevision"))
  let batch := (batches.lookup link.1).getD .undefined
  let activityId := (stringText (batch.get (js "activityId"))).getD []
  let summaryIdentity := identity [activityId, revision]
  let bound := (byRevision.lookup summaryIdentity).any fun summary =>
    same (summary.get (js "summaryHash")) (link.2.get (js "summaryHash"))
  return (summaryIdentity, report (!bound) "activity_interaction_summary_chain_binding_invalid")

def visitLinks (batches byRevision : List (JsString × Value)) :
    List (JsString × Value) → Option (List JsString × List JsString)
  | [] => some ([], [])
  | link :: rest => do
      let (linked, errors) ← visitLink batches byRevision link
      let (others, later) ← visitLinks batches byRevision rest
      return (linked :: others, errors ++ later)

/-- What is wrong with the latest summary of an activity that has events. -/
def calculationErrors (accepted : List InteractionEvent) (latest : List (JsString × ℤ × Value))
    (activityId : JsString) : List JsString :=
  match latest.lookup activityId with
  | none => [js "activity_interaction_summary_missing"]
  | some (_, summary) =>
      let events := (accepted.filter fun event => event.activityId = activityId).map
        InteractionEvent.source
      let correct := (tools.calculateActivityInteractionSummary (summary.get (js "policy"))
        events).any fun calculated => hasHash tools calculated (summary.get (js "summaryHash"))
      report (!correct) "activity_interaction_summary_calculation_invalid"

/-- The keys of a Map in the order of their insertion. -/
def keys (entries : List JsString) : List JsString := entries.reverse.dedup.reverse

def ofType (type : String) (events : List Value) : List Value :=
  events.filter fun event => isText (path event ["eventData", "eventType"]) (js type)

structure InteractionEvidence where
  batches : List Value
  events : List Value
  summaries : List Value

def interactionEvidence (value : Value) : Option InteractionEvidence := do
  if isObject value then
    let batches ← arrayItems (value.get (js "batches"))
    let events ← arrayItems (value.get (js "events"))
    let summaries ← arrayItems (value.get (js "summaries"))
    return { batches, events, summaries }
  else none

def InteractionEvidence.unbounded (evidence : InteractionEvidence) : Bool :=
  decide (100000 < evidence.batches.length) || decide (100000 < evidence.events.length) ||
    decide (100000 < evidence.summaries.length)

def verifyActivityInteractionEvidence (value : Value) (evidenceEvents : List Value) :
    Option (List JsString) :=
  match interactionEvidence value with
  | none => some [js "activity_interaction_evidence_invalid"]
  | some evidence =>
      if evidence.unbounded then some [js "activity_interaction_evidence_unbounded"]
      else do
        let visited := evidence.events.foldl visitEvent ⟨[], [], [], [], []⟩
        let accepted := visited.accepted
        let chainEvents := ofType "activity.interaction.recorded" evidenceEvents
        let batched ← visitBatches tools accepted chainEvents ⟨[], [], []⟩ evidence.batches
        let unbatched := (keys (accepted.map InteractionEvent.batchId)).filter fun id =>
          (batched.batches.lookup id).isNone
        let summarized ← visitSummaries tools ⟨[], [], []⟩ evidence.summaries
        let (linked, linkErrors) ← visitLinks batched.batches summarized.byRevision
          batched.chainLinks
        let revisions := keys (summarized.byRevision.reverse.map Prod.fst)
        let activities := keys (accepted.map InteractionEvent.activityId)
        return visited.errors ++ batched.errors ++
          unbatched.flatMap (fun _ => [js "activity_interaction_event_batch_missing"]) ++
          report (chainEvents.length != batched.batches.length)
            "activity_interaction_batch_chain_count_invalid" ++
          summarized.errors ++ linkErrors ++
          revisions.flatMap (fun revision => report (!linked.contains revision)
            "activity_interaction_summary_chain_missing") ++
          activities.flatMap (calculationErrors tools accepted summarized.latest) ++
          (keys (summarized.latest.reverse.map Prod.fst)).flatMap fun activityId =>
            report (!activities.contains activityId) "activity_interaction_summary_orphaned"

/-! ## Participant context -/

structure SnapshotFields where
  activityId : JsString
  actorPrincipalId : JsString
  contextSessionId : JsString
  gatewaySessionId : JsString
  id : JsString
  interactionId : JsString
  sequence : ℤ

/-- The fields of a snapshot that are checked before its payload hash. -/
def snapshotFields (entry : Value) : Option SnapshotFields := do
  let activityId ← boundedText (entry.get (js "activityId")) 64
  let actorPrincipalId ← boundedText (entry.get (js "actorPrincipalId")) 512
  let contextSessionId ← boundedText (entry.get (js "contextSessionId")) 128
  let gatewaySessionId ← boundedText (entry.get (js "gatewaySessionId")) 512
  let id ← boundedText (entry.get (js "id")) 128
  let interactionId ← boundedText (entry.get (js "interactionId")) 128
  let sequence ← boundedInteger (entry.get (js "sequence")) 1 64
  if [js "presentation", js "save", js "submission"].any (isText (entry.get (js "purpose"))) ∧
      isText (entry.get (js "schema")) (js "vasi-participant-context/v1") then
    some { activityId, actorPrincipalId, contextSessionId, gatewaySessionId, id, interactionId,
           sequence }
  else none

def validRequestContext : Value → Bool
  | .undefined | .null => true
  | .object members => members.all fun entry =>
      entry.1 ∈ [js "acceptLanguage", js "clientHints", js "ipAddress", js "userAgent"] &&
        (boundedText entry.2 512).isSome
  | _ => false

/-- A value, or null in place of one that is missing. -/
def orNull (value : Value) : Value := if value.isPresent then value else .null

def sameCanonicalValue (left right : Value) : Bool :=
  (sameHash tools (orNull left) (orNull right)).getD false

structure ContextState where
  snapshotIds : List JsString
  sequenceIds : List JsString
  sessionProgress : List (JsString × ℤ × Value)
  activities : List JsString
  errors : List JsString

def ContextState.fail (state : ContextState) : ContextState :=
  { state with errors := state.errors ++ [js "participant_context_snapshot_invalid"] }

/-- Whether the first of two numbers is the smaller one. -/
def below (left right : Value) : Bool :=
  match left, right with
  | .number first, .number second =>
      (first.toRat?.bind fun low => second.toRat?.map fun high => decide (low < high)).getD false
  | _, _ => false

def contextBound (fields : SnapshotFields) (entry : Value) : List Value → Bool
  | [link] =>
      let payload := payloadOf link
      let own := payload.get (js "snapshot")
      let actor := path link ["eventData", "actor"]
      isText (payload.get (js "activityId")) fields.activityId &&
        isText (payload.get (js "contextSessionId")) fields.contextSessionId &&
        isText (payload.get (js "interactionId")) fields.interactionId &&
        [js "payloadHash", js "purpose", js "schema", js "sequence"].all (fun key =>
          same (own.get key) (entry.get key)) &&
        isText (actor.get (js "principalId")) fields.actorPrincipalId &&
        isText (actor.get (js "gatewaySessionId")) fields.gatewaySessionId &&
        sameCanonicalValue tools (actor.get (js "requestContext"))
          (entry.get (js "requestContext"))
  | _ => false

/-- The snapshot that an entry stores, when it is its own normal form. -/
def storedSnapshot (fields : SnapshotFields) (entry : Value) : Option Value := do
  let snapshot ← tools.validateStoredParticipantContextSnapshot (entry.get (js "snapshot"))
  let normal ← sameHash tools snapshot (entry.get (js "snapshot"))
  if normal ∧ isText (snapshot.get (js "id")) fields.id ∧
      [js "sequence", js "purpose", js "schema"].all (fun key =>
        same (snapshot.get key) (entry.get key)) then
    some snapshot
  else none

def acceptSnapshot (maximum : ℤ) (chainEvents : List Value) (state : ContextState)
    (fields : SnapshotFields) (entry snapshot : Value) : ContextState :=
  let session := identity [fields.activityId, fields.contextSessionId]
  let sequenceId := identity [session, decimal fields.sequence.toNat]
  let monotonicMs := snapshot.get (js "monotonicMs")
  let sequenceError := match state.sessionProgress.lookup session with
    | none => fields.sequence != 1 || !isText (entry.get (js "purpose")) (js "presentation")
    | some (sequence, earlier) => fields.sequence ≤ sequence || below monotonicMs earlier
  let activities := fields.activityId :: state.activities
  let links := chainEvents.filter fun event =>
    isText (path (payloadOf event) ["snapshot", "id"]) fields.id
  { snapshotIds := fields.id :: state.snapshotIds
    sequenceIds := sequenceId :: state.sequenceIds
    sessionProgress := (session, fields.sequence, monotonicMs) :: state.sessionProgress
    activities
    errors := state.errors ++
      report (state.snapshotIds.contains fields.id) "participant_context_snapshot_duplicate" ++
      report (state.sequenceIds.contains sequenceId) "participant_context_sequence_duplicate" ++
      report sequenceError "participant_context_sequence_invalid" ++
      report (decide (maximum < activities.count fields.activityId))
        "participant_context_activity_limit_invalid" ++
      report (!hasHash tools (.object [(js "activityId", .string fields.activityId),
          (js "contextSessionId", .string fields.contextSessionId),
          (js "interactionId", .string fields.interactionId), (js "snapshot", snapshot)])
        (entry.get (js "payloadHash"))) "participant_context_snapshot_hash_invalid" ++
      report (!contextBound tools fields entry links)
        "participant_context_snapshot_chain_binding_invalid" }

def visitSnapshot (maximum : ℤ) (chainEvents : List Value) (state : ContextState)
    (entry : Value) : Option ContextState :=
  match snapshotFields entry with
  | none => some state.fail
  | some fields => do
      let hashed ← hashPattern (entry.get (js "payloadHash"))
      if ¬(hashed ∧ canonicalTimestamp (entry.get (js "receivedAt")) ∧
          validRequestContext (entry.get (js "requestContext"))) then
        return state.fail
      else
        match storedSnapshot tools fields entry with
        | none => return state.fail
        | some snapshot => return acceptSnapshot tools maximum chainEvents state fields entry snapshot

def visitSnapshots (maximum : ℤ) (chainEvents : List Value) :
    ContextState → List Value → Option ContextState
  | state, [] => some state
  | state, entry :: rest => do
      let next ← visitSnapshot tools maximum chainEvents state entry
      visitSnapshots maximum chainEvents next rest

def contextSnapshots (value : Value) : Option (List Value) :=
  if isObject value ∧ isObject (value.get (js "policy")) then
    arrayItems (value.get (js "snapshots"))
  else none

def contextMaximum (value : Value) : Option ℤ :=
  boundedInteger (path value ["policy", "maxSnapshotsPerActivity"]) 2 64

def policyErrors (value : Value) : List JsString :=
  let policy := value.get (js "policy")
  let expected := (tools.participantContextPolicy (policy.get (js "maxSnapshotsPerActivity"))).bind
    fun expected => sameHash tools policy expected
  report (!expected.getD false) "participant_context_policy_invalid"

def verifyParticipantContextEvidence (value : Value) (evidenceEvents : List Value) :
    Option (List JsString) :=
  match contextSnapshots value with
  | none => some [js "participant_context_evidence_invalid"]
  | some snapshots =>
      if 100000 < snapshots.length then some [js "participant_context_evidence_unbounded"]
      else match contextMaximum value with
        | none => some [js "participant_context_policy_invalid"]
        | some maximum => do
            let chainEvents := ofType "participant.context.recorded" evidenceEvents
            let visited ← visitSnapshots tools maximum chainEvents ⟨[], [], [], [], []⟩ snapshots
            let missing := chainEvents.filter fun event =>
              !visited.snapshotIds.any (isText (path (payloadOf event) ["snapshot", "id"]))
            return policyErrors tools value ++ visited.errors ++
              missing.flatMap (fun _ => [js "participant_context_snapshot_missing"]) ++
              report (chainEvents.length != snapshots.length)
                "participant_context_snapshot_chain_count_invalid"

/-! ## Requester, admission and authentication -/

def verifyNotificationDeliveryEvidence (value completedAt : Value) : List JsString :=
  match tools.notificationDeliveryFailure value completedAt with
  | none => []
  | some message =>
      if (js "notification_").isPrefixOf message then [message]
      else [js "notification_delivery_evidence_invalid"]

structure RequesterSnapshot where
  email : Option JsString
  principalId : JsString

def REQUESTER_PROVENANCE : List JsString := [js "authenticated_actor_at_issuance",
  js "evidence_event_backfill", js "membership_backfill", js "legacy_unavailable"]

def normalizedEmail (value : Value) : Option JsString :=
  ((stringText value).map fun text => tools.platform.toLowerCase (trim text)).filter fun text =>
    text.length ≤ 320 && Productization.isEmail text

/-- The snapshot's own text fields are trimmed. -/
def trimmedText (value : Value) (maximum : ℕ) : Option JsString :=
  ((stringText value).map trim).filter fun text => text ≠ [] && text.length ≤ maximum

def validateRequesterSnapshot : Value → Option RequesterSnapshot
  | .object members => do
      let read := Value.member members
      let principalId ← trimmedText (read (js "principalId")) 512
      let email := match read (js "email") with
        | .null => none
        | value => normalizedEmail tools value
      if (members.map Prod.fst).insertionSort (· ≤ ·) = [js "email", js "principalId",
            js "provenance", js "relationship", js "schema"] ∧
          isText (read (js "schema")) (js "vasi-requester-snapshot/v1") ∧
          isText (read (js "relationship")) (js "requesting_organization") ∧
          REQUESTER_PROVENANCE.any (isText (read (js "provenance"))) ∧
          (isText (read (js "provenance")) (js "legacy_unavailable") ∨ email.isSome) then
        some { email, principalId }
      else none
  | _ => none

/-- The event that issued or scheduled the request. -/
def issuance (events : List Value) : Option Value :=
  events.find? fun event => [js "request.issued", js "request.scheduled"].any
    (isText (path event ["eventData", "eventType"]))

/-- value?.toLowerCase(), for which a value that is there must be a string. -/
def lowerCased : Value → Option (Option JsString)
  | .undefined | .null => some none
  | .string text => some (some (tools.platform.toLowerCase text))
  | _ => none

def requesterEmailErrors (requester : RequesterSnapshot) (actor : Value) :
    Option (List JsString) :=
  match requester.email with
  | none => some []
  | some email => do
      let actual ← lowerCased tools (actor.get (js "email"))
      return report (actual != some email) "requester_email_binding_invalid"

def verifyRequesterEvidence (value : Value) (events : List Value) : Option (List JsString) :=
  match validateRequesterSnapshot tools value with
  | none => some [js "requester_snapshot_invalid"]
  | some requester =>
      match issuance events with
      | none => some [js "requester_issuance_event_missing"]
      | some issued => do
          let actor := path issued ["eventData", "actor"]
          let emailErrors ← requesterEmailErrors tools requester actor
          return report (!isText (actor.get (js "principalId")) requester.principalId)
            "requester_principal_binding_invalid" ++ emailErrors

def tenantAdmissionErrors (value : Value) (events : List Value) (status admissionHash : JsString) :
    List JsString :=
  report (status != js "admitted") "tenant_admission_status_invalid" ++
    report (!isText (value.get (js "admissionHash")) admissionHash)
      "tenant_admission_hash_invalid" ++
    report (!isText (value.get (js "bindingProvenance")) (js "issued") ||
      (boundedText (value.get (js "revisionId")) 128).isNone ||
      (boundedInteger (value.get (js "revision")) 1 MAX_SAFE_INTEGER).isNone)
      "tenant_admission_binding_invalid" ++
    match issuance events with
    | none => [js "tenant_admission_issuance_event_missing"]
    | some issued => report
        (!(sameHash tools ((payloadOf issued).get (js "admission")) value).getD false)
        "tenant_admission_issuance_binding_invalid"

/-- The hash of the admission is taken outside a handler. -/
def verifyTenantAdmissionEvidence (value : Value) (events : List Value) : Option (List JsString) :=
  if ¬isObject value then some [js "tenant_admission_missing"]
  else match validateTenantAdmission tools.platform (value.get (js "admission")) with
    | .error _ => some [js "tenant_admission_invalid"]
    | .ok admission => do
        let admissionHash ← hashOf tools (admissionValue admission)
        return tenantAdmissionErrors tools value events (Productization.admissionStatus admission)
          admissionHash

def AUTHENTICATION_ASSURANCE_EVENT_TYPES : List JsString := [js "activity.response.saved",
  js "activity.response.submitted", js "document.downloaded", js "document.presented",
  js "media.telemetry.recorded", js "participant.opened", js "participant.responded"]

/-- The events that need an evaluation. -/
def isMaterial (manifest event : Value) : Bool :=
  same (path event ["eventData", "actor", "principalId"])
      (path manifest ["assignment", "principalId"]) &&
    AUTHENTICATION_ASSURANCE_EVENT_TYPES.any (isText (path event ["eventData", "eventType"]))

structure AssuranceState where
  boundEvents : List JsString
  errors : List JsString

/-- The event that an evaluation is bound to; of two with one id, the later one. -/
def assuredEvent (manifest : Value) (events : List Value) (bound : List JsString)
    (entry : Value) : Option (JsString × Value) := do
  let eventId ← boundedText (entry.get (js "eventId")) 128
  let eventType ← boundedText (entry.get (js "eventType")) 64
  let event ← events.reverse.find? fun event =>
    isText (path event ["eventData", "eventId"]) eventId
  if ¬bound.contains eventId ∧ isText (path event ["eventData", "eventType"]) eventType ∧
      isMaterial manifest event then
    some (eventId, event)
  else none

def evaluationErrors (policy event entry : Value) : List JsString :=
  match tools.evaluateAuthenticationAssurance policy (path event ["eventData", "actor"])
      (path event ["eventData", "receivedAt"]) with
  | none => [js "authentication_assurance_evaluation_invalid"]
  | some expected =>
      let recorded := (payloadOf event).get (js "authenticationAssurance")
      let first := (sameHash tools expected (entry.get (js "evaluation"))).getD false
      let second := (sameHash tools expected recorded).getD false
      report (!(expected.get (js "satisfied")).truthy)
          "authentication_assurance_unsatisfied_event" ++
        report (!(first && second)) "authentication_assurance_evaluation_invalid"

def visitEvaluation (manifest : Value) (events : List Value) (policy : Value)
    (state : AssuranceState) (entry : Value) : AssuranceState :=
  match assuredEvent manifest events state.boundEvents entry with
  | none => { state with
      errors := state.errors ++ [js "authentication_assurance_event_binding_invalid"] }
  | some (eventId, event) =>
      ⟨eventId :: state.boundEvents, state.errors ++ evaluationErrors tools policy event entry⟩

/-- The policy of the request, when the workflow's can be compared with it. -/
def assurancePolicy (value manifest : Value) : Option (Value × Bool) := do
  let policy ← tools.authenticationAssurancePolicy (path manifest ["request", "accessPolicy"])
  let workflow ← tools.authenticationAssurancePolicy
    (path manifest ["workflow", "snapshot", "access"])
  let first ← sameHash tools policy workflow
  if ¬first then return (policy, false)
  else
    let second ← sameHash tools policy (value.get (js "policy"))
    return (policy, second)

def assuranceEvaluations (value : Value) (events : List Value) : Option (List Value) := do
  let evaluations ← arrayItems (value.get (js "evaluations"))
  if isText (value.get (js "schema")) (js "vasi-authentication-assurance-evidence/v1") ∧
      evaluations.length ≤ events.length then
    some evaluations
  else none

def verifyAuthenticationAssuranceEvidence (value manifest : Value) (events : List Value) :
    List JsString :=
  match assuranceEvaluations value events with
  | none => [js "authentication_assurance_evidence_invalid"]
  | some evaluations =>
      match assurancePolicy tools value manifest with
      | none => [js "authentication_assurance_policy_invalid"]
      | some (policy, agrees) =>
          let visited := evaluations.foldl (visitEvaluation tools manifest events policy) ⟨[], []⟩
          let material := events.filter (isMaterial manifest)
          report (!agrees) "authentication_assurance_policy_binding_invalid" ++ visited.errors ++
            report (material.length != evaluations.length || material.any fun event =>
              !visited.boundEvents.any (isText (path event ["eventData", "eventId"])))
              "authentication_assurance_material_event_missing"

/-! ## The record -/

def normalizedSeals (record : Value) : List Value :=
  match record.get (js "seals") with
  | .array (first :: rest) => first :: rest
  | _ => if (record.get (js "seal")).truthy then [record.get (js "seal")] else []

/-- The manifest schemas from a version on. -/
def schemasFrom (version : ℕ) : List JsString :=
  ((List.range 11).filter fun other => version ≤ other).map fun other =>
    js "vasi-evidence-manifest/v" ++ decimal other

def hasSchema (manifest : Value) (version : ℕ) : Bool :=
  (schemasFrom version).any (isText (manifest.get (js "schema")))

/-- A check that only manifests from a version on have. -/
def since (manifest : Value) (version : ℕ) (check : Option (List JsString)) :
    Option (List JsString) :=
  if hasSchema manifest version then check else some []

def manifestErrors (manifest : Value) (events : List Value) : Option (List JsString) :=
  if ¬manifest.truthy then some []
  else do
    let chain := visitChain tools manifest 1 ⟨GENESIS_HASH, [], []⟩ events
    let interaction ← since manifest 5 (verifyActivityInteractionEvidence tools
      (manifest.get (js "activityInteraction")) events)
    let context ← since manifest 6 (verifyParticipantContextEvidence tools
      (manifest.get (js "participantContext")) events)
    let delivery ← since manifest 7 (some (verifyNotificationDeliveryEvidence tools
      (manifest.get (js "notificationDelivery")) (path manifest ["timestamps", "completedAt"])))
    let requester ← since manifest 8 (verifyRequesterEvidence tools
      (manifest.get (js "requester")) events)
    let admission ← since manifest 9 (verifyTenantAdmissionEvidence tools
      (manifest.get (js "admission")) events)
    let assurance ← since manifest 10 (some (verifyAuthenticationAssuranceEvidence tools
      (manifest.get (js "authenticationAssurance")) manifest events))
    return chain.errors ++ evidenceErrors (manifest.get (js "evidence")) events chain ++
      interaction ++ context ++ delivery ++ requester ++ admission ++ assurance

structure SealResult where
  algorithm : Value
  keyId : Value
  profile : Value
  role : Value
  verified : Bool

def sealRole (sealed : Value) : Value := orText (sealed.get (js "role")) (js "vasi_integrity")

/-- Whether a seal of one of two kinds verifies. -/
def sealVerified (certificateProfile integrityProfile : String) (payload sealed : Value) : Bool :=
  if isText (sealed.get (js "profile")) (js certificateProfile) then
    tools.verifyCertificateSeal payload sealed
  else tools.verifyDetachedIntegritySeal payload sealed [js integrityProfile]

/-- The name of a seal in an error; the key identifier is converted to a string. -/
def sealName (sealed : Value) : Option JsString :=
  toText (orText (sealed.get (js "keyId")) (js "unknown"))

def recordSealVerified (manifest sealed : Value) : Bool :=
  sealVerified tools "vasi-certificate-seal/v1" "vasi-integrity-seal/v1" manifest sealed

/-- One seal of a record, which must be there to have a profile. -/
def visitSeal (manifest sealed : Value) : Option (SealResult × List JsString) :=
  if ¬sealed.isPresent then none
  else
    let verified := recordSealVerified tools manifest sealed
    let profile := sealed.get (js "profile")
    let role := if (sealed.get (js "role")).truthy then sealed.get (js "role")
      else .string (if isText profile (js "vasi-integrity-seal/v1") then js "vasi_integrity"
        else js "certificate")
    let result : SealResult :=
      ⟨sealed.get (js "algorithm"), sealed.get (js "keyId"), profile, role, verified⟩
    if verified then some (result, [])
    else do
      let name ← sealName sealed
      return (result, [js "seal_" ++ name ++ js "_invalid"])

def visitSeals (manifest : Value) : List Value → Option (List SealResult × List JsString)
  | [] => some ([], [])
  | sealed :: rest => do
      let (result, errors) ← visitSeal tools manifest sealed
      let (others, later) ← visitSeals manifest rest
      return (result :: others, errors ++ later)

/-- The first seal of the integrity role, or the first one. -/
def primarySeal (seals : List Value) : Value :=
  match seals.find? fun sealed => isText (sealRole sealed) (js "vasi_integrity") with
  | some found => if found.truthy then found else seals.head?.getD .undefined
  | none => seals.head?.getD .undefined

def primaryErrors (primary expectedPublicJWK : Value) : List JsString :=
  report (!primary.truthy || !isText (primary.get (js "profile")) (js "vasi-integrity-seal/v1"))
      "primary_seal_missing" ++
    if expectedPublicJWK.truthy ∧ primary.truthy then
      match sameHash tools (primary.get (js "publicJWK")) expectedPublicJWK with
      | some agrees => report (!agrees) "primary_seal_key_unexpected"
      | none => [js "primary_seal_key_invalid"]
    else []

structure RecordChecks where
  eventChain : Bool
  activityInteraction : Bool
  authenticationAssurance : Bool
  notificationDelivery : Bool
  participantContext : Bool
  requester : Bool
  tenantAdmission : Bool
  manifest : Bool
  primarySeal : Bool

def recordChecks (manifest primary : Value) (seals : List SealResult) (errors : List JsString) :
    RecordChecks :=
  let without (start : String) : Bool := !errors.any fun error => (js start).isPrefixOf error
  { eventChain := without "event_" && without "manifest_event" &&
      !errors.contains (js "manifest_head_hash_invalid")
    activityInteraction := without "activity_interaction_"
    authenticationAssurance := without "authentication_assurance_"
    notificationDelivery := without "notification_delivery_"
    participantContext := without "participant_context_"
    requester := without "requester_"
    tenantAdmission := without "tenant_admission_"
    manifest := manifest.truthy && !errors.contains (js "manifest_missing")
    primarySeal := primary.truthy && !errors.contains (js "primary_seal_missing") &&
      seals.any fun result => isText result.role (js "vasi_integrity") && result.verified }

structure RecordResult where
  checks : RecordChecks
  errors : List JsString
  seals : List SealResult
  verified : Bool

def recordEvents (record : Value) : List Value := (arrayItems (record.get (js "events"))).getD []

def verifyEvidenceRecord (expectedPublicJWK record : Value) : Option RecordResult := do
  let events := recordEvents record
  let manifest := record.get (js "manifest")
  let seals := normalizedSeals record
  let manifestFound ← manifestErrors tools manifest events
  let (results, sealErrors) ← visitSeals tools manifest seals
  let primary := primarySeal seals
  let errors := report events.isEmpty "event_chain_missing" ++
    report (!isReference manifest) "manifest_missing" ++ report seals.isEmpty "seal_missing" ++
    manifestFound ++ sealErrors ++ primaryErrors tools primary expectedPublicJWK
  return { checks := recordChecks manifest primary results errors, errors, seals := results,
           verified := errors.isEmpty }

/-! ## The bundle -/

def entryBytes (entries : List Entry) (name : JsString) : Option (List Byte) :=
  (entries.find? fun entry => entry.path = name).map Entry.bytes

/-- A control document of a bundle, or undefined. -/
def parseJSONEntry (entries : List Entry) (name : String) : Value × List JsString :=
  match entryBytes entries (js name) with
  | none => (.undefined, [js "bundle_control_missing:" ++ js name])
  | some bytes =>
      match parse (decode bytes) with
      | none => (.undefined, [js "bundle_json_invalid:" ++ js name])
      | some value => (value, [])

def visitDescriptor (entries : List Entry) (state : List JsString × List JsString)
    (descriptor : Value) : List JsString × List JsString :=
  match stringText (descriptor.get (js "path")) with
  | none => (state.1, state.2 ++ [js "bundle_entry_descriptor_invalid"])
  | some name =>
      if state.1.contains name then (state.1, state.2 ++ [js "bundle_entry_descriptor_invalid"])
      else
        let found := match entryBytes entries name with
          | none => [js "bundle_entry_missing:" ++ name]
          | some bytes =>
              if same (descriptor.get (js "byteLength")) (wholeNumber bytes.length) ∧
                  isText (descriptor.get (js "sha256")) (tools.sha256Bytes bytes) then []
              else [js "bundle_entry_hash_invalid:" ++ name]
        (name :: state.1, state.2 ++ found)

def indexErrors (entries : List Entry) (index : Value) : List JsString :=
  let listed := index.get (js "entries")
  if ¬listed.truthy then []
  else match arrayItems listed with
    | none => [js "bundle_root_hash_invalid"]
    | some descriptors =>
        if ¬hasHash tools listed (index.get (js "rootHash")) then [js "bundle_root_hash_invalid"]
        else
          let (declared, errors) := descriptors.foldl (visitDescriptor tools entries)
            ([js "bundle-index.json", js "bundle-seals.json"], [])
          errors ++ entries.flatMap fun entry =>
            if declared.contains entry.path then [] else [js "bundle_entry_undeclared:" ++ entry.path]

/-- The characters that a string is iterated over. -/
def characters : JsString → List Value
  | [] => []
  | [unit] => [.string [unit]]
  | unit :: next :: rest =>
      if isHighSurrogate unit && isLowSurrogate next then .string [unit, next] :: characters rest
      else .string [unit] :: characters (next :: rest)

/-- What a loop over a value, or over an empty array in its place, visits; a value that
cannot be iterated throws. -/
def iterated (value : Value) : Option (List Value) :=
  if ¬value.truthy then some []
  else match value with
    | .array items => some items
    | .string text => some (characters text)
    | _ => none

structure BundleSealResult where
  keyId : Value
  profile : Value
  verified : Bool

def bundleSealVerified (index sealed : Value) : Bool :=
  sealVerified tools "vasi-certificate-seal/v1" "vasi-bundle-seal/v1" index sealed

def visitBundleSeal (index sealed : Value) : Option (BundleSealResult × List JsString) :=
  if ¬sealed.isPresent then none
  else
    let verified := bundleSealVerified tools index sealed
    let result : BundleSealResult :=
      ⟨sealed.get (js "keyId"), sealed.get (js "profile"), verified⟩
    if verified then some (result, [])
    else do
      let name ← sealName sealed
      return (result, [js "bundle_seal_invalid:" ++ name])

def visitBundleSeals (index : Value) :
    List Value → Option (List BundleSealResult × List JsString)
  | [] => some ([], [])
  | sealed :: rest => do
      let (result, errors) ← visitBundleSeal tools index sealed
      let (others, later) ← visitBundleSeals index rest
      return (result :: others, errors ++ later)

/-- The verification of the record of a bundle, when there is one. -/
def bundledRecord (record : Value) : Option (Option RecordResult) :=
  if record.truthy then (verifyEvidenceRecord tools .undefined record).map some else some none

def recordResultErrors : Option RecordResult → List JsString
  | none => [js "record:record_invalid"]
  | some result => if result.verified then [] else result.errors.map fun error => js "record:" ++ error

def sourceManifestErrors (index record : Value) : List JsString :=
  let primary := (normalizedSeals record).find? fun sealed =>
    isText (sealRole sealed) (js "vasi_integrity")
  let manifestHash := (primary.getD .undefined).get (js "manifestHash")
  report (index.truthy && !same manifestHash (index.get (js "sourceManifestHash")))
    "bundle_source_manifest_hash_invalid"

def reportErrors (entries : List Entry) (record : Value) : List JsString :=
  if ¬record.truthy then []
  else match tools.evidenceReports record with
    | none => [js "bundle_report_regeneration_failed"]
    | some reports => reports.flatMap fun expected =>
        if entryBytes entries expected.1 = some expected.2 then []
        else [js "bundle_report_invalid:" ++ expected.1]

structure BundleResult where
  errors : List JsString
  index : Value
  record : Option RecordResult
  seals : List BundleSealResult
  verified : Bool

def bundleResult (errors : List JsString) (index : Value) (record : Option RecordResult)
    (seals : List BundleSealResult) : BundleResult :=
  ⟨errors, index, record, seals, errors.isEmpty⟩

/-- The parser writes nothing, so it never fails outside a range. -/
def zipFailure : StoredZip.ZipError → JsString
  | .failure message => js "zip_invalid:" ++ message
  | .outOfRange => js "zip_invalid:range"

/-- What is verified once the archive is read. -/
def verifyBundleEntries (entries : List Entry) : Option BundleResult := do
  let (index, indexMissing) := parseJSONEntry entries "bundle-index.json"
  let (sealDocument, sealsMissing) := parseJSONEntry entries "bundle-seals.json"
  let (record, recordMissing) := parseJSONEntry entries "record.json"
  let listed := sealDocument.get (js "seals")
  let seals ← iterated listed
  let (results, sealErrors) ← visitBundleSeals tools index seals
  let recordResult ← bundledRecord tools record
  let errors := indexMissing ++ sealsMissing ++ recordMissing ++
    report (!isText (index.get (js "schema")) (js "vasi-evidence-bundle/v1"))
      "bundle_index_profile_invalid" ++
    report (!isText (sealDocument.get (js "schema")) (js "vasi-bundle-seals/v1") ||
      (arrayItems listed).isNone) "bundle_seals_invalid" ++
    indexErrors tools entries index ++ sealErrors ++
    report (!results.any fun result =>
      isText result.profile (js "vasi-bundle-seal/v1") && result.verified)
      "bundle_primary_seal_missing" ++
    recordResultErrors recordResult ++ sourceManifestErrors index record ++
    reportErrors tools entries record
  return bundleResult errors index recordResult results

def verifyEvidenceBundle (maxBytes maxEntries : ℕ) (bytes : List Byte) : Option BundleResult :=
  match parseStoredZip tools.crc32 maxBytes maxEntries bytes with
  | .error failure => some (bundleResult [zipFailure failure] .undefined none [])
  | .ok entries => verifyBundleEntries tools entries

end Tools

end Vasi.EvidenceVerifier
