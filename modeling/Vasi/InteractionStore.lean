import Vasi.EvidenceEvents
import Vasi.InteractionCredit
import Vasi.StagedRows

/-!
# The recorder of presence events

A participant's browser sends batches of presence events and sends a batch again when it has
had no answer. The recorder validates a batch, inserts it with its events and a new revision of
the summary, and appends what it did to the evidence of the assignment, in one transaction that
holds the rows of the case. A batch that is there already is not recorded again.

An activity is known by its assignment and its own identifier. Its events and summaries are kept
with its row, under whose lock they are inserted. What the rest of the engine does to the rows
of a case comes as operations that may put any row there; the columns that the recorder does not
read are left out, and so is the purge of a record.
-/
namespace Vasi.InteractionStore

open JsValue IsoTime CanonicalJson ReadCommitted Validation
open EngineRows (ActivityStatus ChainRow Status Uuid)
open EvidenceEvents (Actor Document Environment NewEvent appendEvent newChain wholeNumber)
open ActivityInteraction (ACTIVITY_INTERACTION_EVENT_TYPES EventType Policy StoredRow Summary
  calculateActivityInteractionSummary canonicalTimestamp invalid isInvalid token)

/-! ## Batches -/

/-- A normalized event of a batch. -/
structure BatchEvent where
  clientOccurredAt : Option JsString
  id : JsString
  monotonicMs : ℕ
  sequence : ℕ
  type : EventType

def strictObject (value : Value) (name : JsString) (allowed : List JsString) : Checked Members :=
  match value with
  | .object members =>
      if ∀ entry ∈ members, entry.1 ∈ allowed then .ok members
      else .error (invalid (js "The " ++ name ++ js " contains unsupported fields."))
  | _ => .error (invalid (js "The " ++ name ++ js " must be an object."))

def tokenOf (value : Value) (name : JsString) (maximum : ℕ) : Checked JsString :=
  match value with
  | .string text => token text name maximum
  | _ => .error (isInvalid name)

def integerOf (value : Value) (name : JsString) (minimum maximum : ℕ) : Checked ℕ :=
  match value with
  | .number number =>
      let whole := (number.toRat?.getD 0).num
      if number.isSafeInteger ∧ minimum ≤ whole ∧ whole ≤ maximum then .ok whole.toNat
      else .error (isInvalid name)
  | _ => .error (isInvalid name)

def optionalTimestampOf (value : Value) : Checked (Option JsString) :=
  match value with
  | .undefined | .null => .ok none
  | .string text => (canonicalTimestamp text (js "event.clientOccurredAt")).map some
  | _ => .error (isInvalid (js "event.clientOccurredAt"))

def eventTypeOf (value : Value) : Checked EventType :=
  let unsupported :=
    Except.error (invalid (js "The activity interaction event type is unsupported."))
  match value with
  | .string text =>
      match ACTIVITY_INTERACTION_EVENT_TYPES.find? fun type => type.name = text with
      | some type => .ok type
      | none => unsupported
  | _ => unsupported

def normalizeEvent (value : Value) (index : ℕ) : Checked BatchEvent := do
  let input ← strictObject value (js "activity interaction event " ++ decimal (index + 1))
    [js "clientOccurredAt", js "id", js "monotonicMs", js "sequence", js "type"]
  let type ← eventTypeOf (Value.member input (js "type"))
  let clientOccurredAt ← optionalTimestampOf (Value.member input (js "clientOccurredAt"))
  let id ← tokenOf (Value.member input (js "id")) (js "event.id") 128
  let monotonicMs ← integerOf (Value.member input (js "monotonicMs")) (js "event.monotonicMs")
    0 604800000
  let sequence ← integerOf (Value.member input (js "sequence")) (js "event.sequence") 1 100000
  return { clientOccurredAt, id, monotonicMs, sequence, type }

/-- The second event continues the first. -/
def Continues (earlier later : BatchEvent) : Prop :=
  earlier.sequence < later.sequence ∧ earlier.monotonicMs ≤ later.monotonicMs

instance : DecidableRel Continues := fun _ _ => inferInstanceAs (Decidable (_ ∧ _))

/-- A validated batch; its events continue one another and have identifiers of their own. -/
structure InteractionBatch where
  activityId : JsString
  batchId : JsString
  events : List BatchEvent
  handle : JsString
  interactionId : JsString
  telemetrySessionId : JsString
  continues : events.IsChain Continues
  distinct : (events.map BatchEvent.id).Nodup

/-- The events of a batch, one to a hundred. -/
def batchItems (events : Value) : Checked (List Value) :=
  let bounds :=
    Except.error (invalid (js "An activity interaction batch requires 1 to 100 events."))
  match events with
  | .array items => if items = [] ∨ items.length > 100 then bounds else .ok items
  | _ => bounds

def validateActivityInteractionBatch (value : Value) : Checked InteractionBatch := do
  let input ← strictObject value (js "activity interaction batch")
    [js "activityId", js "batchId", js "events", js "handle", js "interactionId",
      js "telemetrySessionId"]
  let items ← batchItems (Value.member input (js "events"))
  let events ← items.zipIdx.mapM fun entry => normalizeEvent entry.1 entry.2
  if continues : events.IsChain Continues then
    if distinct : (events.map BatchEvent.id).Nodup then
      let activityId ← tokenOf (Value.member input (js "activityId")) (js "activityId") 64
      let batchId ← tokenOf (Value.member input (js "batchId")) (js "batchId") 128
      let handle ← tokenOf (Value.member input (js "handle")) (js "handle") 64
      let interactionId ← tokenOf (Value.member input (js "interactionId"))
        (js "interactionId") 128
      let telemetrySessionId ← tokenOf (Value.member input (js "telemetrySessionId"))
        (js "telemetrySessionId") 128
      return { activityId, batchId, events, handle, interactionId, telemetrySessionId
               continues, distinct }
    else .error (invalid
      (js "An activity interaction event ID cannot repeat within a batch."))
  else .error (invalid
    (js "Activity interaction sequence and monotonic time must increase within a batch."))

/-! ## Documents -/

def optionalText (text : Option JsString) : Value := (text.map Value.string).getD .undefined

def BatchEvent.toValue (event : BatchEvent) : Value :=
  .object [(js "clientOccurredAt", optionalText event.clientOccurredAt),
    (js "id", .string event.id), (js "monotonicMs", wholeNumber event.monotonicMs),
    (js "sequence", wholeNumber event.sequence), (js "type", .string event.type.name)]

/-- The object that identifies what a batch holds. -/
def batchDocument (input : InteractionBatch) : Value :=
  .object [(js "activityId", .string input.activityId), (js "batchId", .string input.batchId),
    (js "events", .array (input.events.map BatchEvent.toValue)),
    (js "interactionId", .string input.interactionId),
    (js "telemetrySessionId", .string input.telemetrySessionId)]

def ACTIVITY_INTERACTION_SUMMARY_SCHEMA : JsString := js "vasi-activity-interaction-summary/v1"

/-- The summary as the object that is hashed and stored. -/
def summaryDocument (summary : Summary) : Value :=
  .object [(js "calculation", .object [(js "clock", .string (js "browser_monotonic")),
      (js "policyVersion", .string summary.policy.version),
      (js "telemetryPolicy", .object [
        (js "heartbeatSeconds", wholeNumber summary.policy.heartbeatSeconds),
        (js "idleSeconds", wholeNumber summary.policy.idleSeconds),
        (js "maxCreditedGapSeconds", wholeNumber summary.policy.maxCreditedGapSeconds)])]),
    (js "confidence", .object [(js "level", .string summary.confidence.level),
      (js "limitations", .array (summary.confidence.limitations.map .string))]),
    (js "events", .object [(js "count", wholeNumber summary.events.count),
      (js "firstClientOccurredAt", optionalText summary.events.firstClientOccurredAt),
      (js "firstReceivedAt", optionalText summary.events.firstReceivedAt),
      (js "heartbeatCount", wholeNumber summary.events.heartbeatCount),
      (js "focusCount", wholeNumber summary.events.focusCount),
      (js "interactionCount", wholeNumber summary.events.interactionCount),
      (js "lastClientOccurredAt", optionalText summary.events.lastClientOccurredAt),
      (js "lastReceivedAt", optionalText summary.events.lastReceivedAt),
      (js "presentedCount", wholeNumber summary.events.presentedCount),
      (js "visibleCount", wholeNumber summary.events.visibleCount)]),
    (js "schema", .string ACTIVITY_INTERACTION_SUMMARY_SCHEMA),
    (js "sessions", .object [(js "count", wholeNumber summary.sessions.count),
      (js "disconnectCount", wholeNumber summary.sessions.disconnectCount),
      (js "incompleteCount", wholeNumber summary.sessions.incompleteCount)]),
    (js "timing", .object [
      (js "backgroundOrHiddenMilliseconds",
        wholeNumber summary.timing.backgroundOrHiddenMilliseconds),
      (js "engagedMilliseconds", wholeNumber summary.timing.engagedMilliseconds),
      (js "foregroundVisibleMilliseconds",
        wholeNumber summary.timing.foregroundVisibleMilliseconds),
      (js "idleForegroundMilliseconds", wholeNumber summary.timing.idleForegroundMilliseconds),
      (js "openMilliseconds", wholeNumber summary.timing.openMilliseconds),
      (js "uncreditedGapMilliseconds", wholeNumber summary.timing.uncreditedGapMilliseconds)])]

/-! ## Rows -/

/-- A participant_assignment row. -/
structure ParticipantAssignment where
  id : Uuid
  tenantId : Uuid
  requestId : Uuid
  intendedEmail : JsString
  principalId : Option JsString
  status : Status

/-- A request_instance row. -/
structure RequestInstance where
  status : Status
  scheduledFor : Option Time
  expiresAt : Time

/-- An interaction_session row. -/
structure InteractionSession where
  assignmentId : Uuid
  principalId : JsString
  completedAt : Option Time

/-- An activity_interaction_event row. -/
structure EventRow where
  batchId : JsString
  interactionId : JsString
  telemetrySessionId : JsString
  event : BatchEvent
  receivedAt : Time

/-- An activity_interaction_summary_revision row. -/
structure SummaryRevision where
  id : Uuid
  revision : ℕ
  policy : Policy
  summary : Summary
  summaryHash : JsString
  calculatedAt : Time

/-- An activity_instance row, with the events and summaries that are inserted under its lock. -/
structure ActivityInstance where
  status : ActivityStatus
  events : List EventRow
  summaries : List SummaryRevision

/-- An activity of an assignment. -/
structure ActivityKey where
  assignmentId : Uuid
  activityId : JsString
deriving DecidableEq

/-- An activity_interaction_event_batch row. -/
structure BatchRow where
  activity : ActivityKey
  interactionId : JsString
  telemetrySessionId : JsString
  actorPrincipalId : JsString
  eventCount : ℕ
  payloadHash : JsString
  receivedAt : Time

/-- The rows by what they are found by. -/
inductive Key where
  | assignment (handleDigest : JsString)
  | request (id : Uuid)
  | activity (key : ActivityKey)
  | session (interactionId : JsString)
  | batch (id : JsString)
  | chain (assignmentId : Uuid)
deriving DecidableEq

abbrev Row : Key → Type
  | .assignment _ => ParticipantAssignment
  | .request _ => RequestInstance
  | .activity _ => ActivityInstance
  | .session _ => InteractionSession
  | .batch _ => BatchRow
  | .chain _ => ChainRow

abbrev CaseRows := Store Row

abbrev activityAt (store : CaseRows) (key : ActivityKey) : Option ActivityInstance :=
  store.lookup (Key.activity key)

abbrev batchAt (store : CaseRows) (id : JsString) : Option BatchRow := store.lookup (Key.batch id)

abbrev chainAt (store : CaseRows) (assignmentId : Uuid) : Option ChainRow :=
  store.lookup (Key.chain assignmentId)

/-! ## Recording -/

/-- The platform, the order in which a query returns rows, and the settings of the store. -/
structure Settings extends Environment where
  arrange : List EventRow → List EventRow
  arranges : ∀ rows, (arrange rows).Perm rows
  policy : Policy
  maxEventsPerActivity : ℕ

def EventRow.stored (row : EventRow) : StoredRow where
  clientOccurredAt := row.event.clientOccurredAt
  eventType := row.event.type.name
  monotonicMs := row.event.monotonicMs
  receivedAt := isoText row.receivedAt
  sequence := row.event.sequence
  telemetrySessionId := row.telemetrySessionId

/-- The rows of a batch. -/
def InteractionBatch.rows (input : InteractionBatch) (receivedAt : Time) : List EventRow :=
  input.events.map fun event =>
    ⟨input.batchId, input.interactionId, input.telemetrySessionId, event, receivedAt⟩

/-- `order by "sequence" desc` -/
def descending (left right : EventRow) : Prop := right.event.sequence ≤ left.event.sequence

instance : DecidableRel descending :=
  fun left right => inferInstanceAs (Decidable (right.event.sequence ≤ left.event.sequence))

/-- The row of a telemetry session with the highest sequence. -/
def lastOfSession (rows : List EventRow) (telemetrySessionId : JsString) : Option EventRow :=
  ((rows.filter fun row => row.telemetrySessionId = telemetrySessionId).insertionSort
    descending).head?

/-- The events of a batch go on where its telemetry session ends. -/
def InteractionBatch.goesOn (input : InteractionBatch) (previous : EventRow) : Bool :=
  input.events.head?.all fun first => previous.event.sequence < first.sequence &&
    previous.event.monotonicMs ≤ first.monotonicMs

/-- No event of a session has the identifier or the sequence of another one. -/
def apart (row other : EventRow) : Bool :=
  row.telemetrySessionId ≠ other.telemetrySessionId ||
    (row.event.id ≠ other.event.id && row.event.sequence ≠ other.event.sequence)

variable (settings : Settings)

/-- The checks that precede the first insertion. -/
def ActivityInstance.admits (activity : ActivityInstance) (input : InteractionBatch) :
    Except JsString Unit :=
  if activity.events.length + input.events.length > settings.maxEventsPerActivity then
    .error (js "activity_interaction_event_limit_reached")
  else if (lastOfSession activity.events input.telemetrySessionId).all input.goesOn then .ok ()
  else .error (js "activity_interaction_event_sequence_conflict")

def failureCode {α : Type} (result : Checked α) : Except JsString α :=
  result.mapError Failure.code

/-- `coalesce(max("revision"), 0) + 1` -/
def nextRevision (summaries : List SummaryRevision) : ℕ :=
  (summaries.map SummaryRevision.revision).foldl max 0 + 1

/-- The events of a batch, inserted, and the summary of all events. -/
def ActivityInstance.insertBatch (activity : ActivityInstance) (input : InteractionBatch)
    (receivedAt : Time) (summaryId : Uuid) :
    Except JsString (ActivityInstance × SummaryRevision) := do
  let added := input.rows receivedAt
  if ∀ row ∈ added, ∀ other ∈ activity.events, apart row other then
    let events := activity.events ++ added
    let summary ← failureCode (calculateActivityInteractionSummary settings.policy
      ((settings.arrange events).map EventRow.stored))
    let summaryHash ← hashCanonicalJSON settings.sha256Hex (summaryDocument summary)
    let revision : SummaryRevision :=
      { id := summaryId, revision := nextRevision activity.summaries, policy := settings.policy
        summary, summaryHash, calculatedAt := receivedAt }
    return ({ activity with events, summaries := activity.summaries ++ [revision] }, revision)
  else .error (js "activity_interaction_event_sequence_conflict")

def RECORDED : JsString := js "activity.interaction.recorded"

/-- What the evidence says of a batch. -/
def recordedPayload (input : InteractionBatch) (payloadHash : JsString)
    (revision : SummaryRevision) : Value :=
  let sequence (event : Option BatchEvent) : Value :=
    (event.map fun event => wholeNumber event.sequence).getD .undefined
  .object [(js "activityId", .string input.activityId),
    (js "batch", .object [(js "eventCount", wholeNumber input.events.length),
      (js "firstSequence", sequence input.events.head?), (js "id", .string input.batchId),
      (js "lastSequence", sequence input.events.getLast?),
      (js "payloadHash", .string payloadHash),
      (js "telemetrySessionId", .string input.telemetrySessionId)]),
    (js "limitation", .string (js "Browser-reported activity presence is supporting evidence " ++
      js "and does not prove attention or comprehension.")),
    (js "summaryHash", .string revision.summaryHash),
    (js "summaryRevision", wholeNumber revision.revision)]

theorem recordedPayload_wellFormed (input : InteractionBatch) (payloadHash : JsString)
    (revision : SummaryRevision) : WellFormed (recordedPayload input payloadHash revision) := by
  have defined (event : Option BatchEvent) : WellFormed
      ((event.map fun event => wholeNumber event.sequence).getD .undefined) := by
    cases event <;> exact trivial
  refine ⟨?_, trivial, ⟨?_, ?_⟩, trivial, trivial, trivial, trivial⟩
  · simp only [List.map_cons, List.map_nil]
    decide
  · simp only [List.map_cons, List.map_nil]
    decide
  · exact ⟨trivial, defined _, trivial, defined _, trivial, trivial, trivial⟩

/-! ## Programs -/

/-- What a statement takes from outside the rows. -/
structure Outside where
  clock : Time
  uuid : Uuid

inductive Point where
  | statement
  | commit
deriving DecidableEq

inductive Outcome where
  | done
  | recorded (accepted : ℕ) (revision : SummaryRevision)
  | duplicate (summary : Option Summary)
  | refused (code : JsString)

abbrev Program := Transaction Row Outside Point Outcome

def require (condition : Bool) (code : JsString) : Program Unit :=
  if condition then pure () else finish (.refused code)

/-- What has been computed, or a refusal. -/
def computed {α : Type} (result : Except JsString α) : Program α :=
  match result with
  | .ok value => pure value
  | .error code => finish (.refused code)

def clock : Program Time := fromOutside .statement Outside.clock

def randomUUID : Program Uuid := fromOutside .statement Outside.uuid

/-- A row that must be there, locked. -/
abbrev lockRow (key : Key) : Program (Row key) := lockFound .statement key fun _ => true

def commitWith (outcome : Outcome) : Program Outcome := do
  commitChanges .commit
  return outcome

/-- Append an event under the lock of the head of its chain. -/
def appendEvidence (event : Uuid → NewEvent) (assignmentId : Uuid) : Program Unit := do
  let chain ← lockRow (.chain assignmentId)
  let eventId ← randomUUID
  let next ← computed (appendEvent settings.toEnvironment (event eventId) chain)
  stageChanges fun changes => changes.updateRow (.chain assignmentId) next

/-! ## The participant's call -/

/-- What is read of a call before its transaction. -/
structure PreliminaryInput where
  activityId : JsString
  handle : JsString
  interactionId : JsString

def preliminaryToken (value : Value) (field : JsString) (maximum : ℕ) :
    Except JsString JsString :=
  match value with
  | .string text =>
      if text = [] ∨ text.length > maximum ∨ text.any isControl then
        .error (js "invalid_" ++ field)
      else .ok text
  | _ => .error (js "invalid_" ++ field)

def preliminaryInput (value : Value) : Except JsString PreliminaryInput :=
  match value with
  | .object members => do
      let activityId ← preliminaryToken (Value.member members (js "activityId"))
        (js "activity_id") 64
      let handle ← preliminaryToken (Value.member members (js "handle")) (js "handle") 64
      let interactionId ← preliminaryToken (Value.member members (js "interactionId"))
        (js "interaction_id") 128
      return { activityId, handle, interactionId }
  | _ => .error (js "invalid_activity_interaction")

/-- The pattern ^[A-Za-z0-9_-]{43}$ of handles. -/
def isHandle (text : JsString) : Bool :=
  text.length = 43 && text.all fun unit =>
    isLowerLetter unit || isUpperLetter unit || isDigit unit || unit.val ∈ [95, 45]

/-- The rows that a call selects and locks. -/
structure Selected where
  assignment : ParticipantAssignment
  request : RequestInstance
  activity : ActivityInstance
  session : InteractionSession

def selectRecord (handleDigest : JsString) (input : PreliminaryInput) (principalId : JsString) :
    Program Selected :=
  query .statement fun _ view => do
    let assignment : ParticipantAssignment ← view.lookup (Key.assignment handleDigest)
    let request : RequestInstance ← view.lookup (Key.request assignment.requestId)
    let activity ← activityAt view ⟨assignment.id, input.activityId⟩
    let session : InteractionSession ← view.lookup (Key.session input.interactionId)
    if session.assignmentId = assignment.id ∧ session.principalId = principalId then
      some ([(.assignment handleDigest, .update), (.request assignment.requestId, .update),
          (.activity ⟨assignment.id, input.activityId⟩, .update),
          (.session input.interactionId, .update)],
        { assignment, request, activity, session })
    else none

def authorizeParticipant (record : Selected) (actor : Actor) : Except JsString Unit :=
  if settings.toLowerCase record.assignment.intendedEmail ≠ actor.email ∨
      record.assignment.principalId.any fun id => id ≠ actor.principalId then
    .error (js "not_found")
  else .ok ()

def assertActivityAvailable (record : Selected) (now : Time) : Except JsString Unit :=
  if record.assignment.status = .revoked ∨ record.request.status = .revoked then
    .error (js "assignment_revoked")
  else if record.assignment.status = .completed ∨ record.request.status = .completed then
    .error (js "activity_interaction_unavailable")
  else if record.assignment.status = .expired ∨ record.request.status = .expired ∨
      record.request.expiresAt ≤ now then .error (js "assignment_expired")
  else if record.request.scheduledFor.any fun scheduledFor => scheduledFor > now then
    .error (js "assignment_not_yet_available")
  else .ok ()

/-- The call names the activity and the interaction of the rows it selected. -/
def sameState (preliminary : PreliminaryInput) (input : InteractionBatch) : Bool :=
  input.activityId = preliminary.activityId && input.interactionId = preliminary.interactionId

/-- A batch that is there is answered if it is the same one. -/
def answerReplay (batch : BatchRow) (key : ActivityKey) (input : InteractionBatch)
    (payloadHash : JsString) (activity : ActivityInstance) : Program Outcome := do
  require (batch.activity = key) (js "not_found")
  require (batch.interactionId = input.interactionId &&
    batch.telemetrySessionId = input.telemetrySessionId && batch.payloadHash = payloadHash)
    (js "activity_interaction_batch_replay_conflict")
  return .duplicate (activity.summaries.getLast?.map SummaryRevision.summary)

/-- Record a batch that is not there. -/
def recordBatch (actor : Actor) (record : Selected) (input : InteractionBatch)
    (payloadHash : JsString) : Program Outcome := do
  let key : ActivityKey := ⟨record.assignment.id, input.activityId⟩
  computed (record.activity.admits settings input)
  let receivedAt ← clock
  insertFresh .statement (.batch input.batchId)
    { activity := key, interactionId := input.interactionId
      telemetrySessionId := input.telemetrySessionId, actorPrincipalId := actor.principalId
      eventCount := input.events.length, payloadHash, receivedAt }
  let summaryId ← randomUUID
  let (activity, revision) ←
    computed (record.activity.insertBatch settings input receivedAt summaryId)
  stageChanges fun changes => changes.updateRow (.activity key) activity
  appendEvidence settings (fun eventId =>
    { actor := actor.document, assignmentId := record.assignment.id, eventId
      eventType := RECORDED
      payload := ⟨recordedPayload input payloadHash revision, recordedPayload_wellFormed _ _ _⟩
      receivedAt, requestId := record.assignment.requestId
      tenantId := record.assignment.tenantId })
    record.assignment.id
  commitWith (.recorded input.events.length revision)

def recordParticipantEvents (actor : Actor) (payload : Value) : Program Outcome := do
  require (actor.principalId ≠ [] && actor.email ≠ []) (js "participant_identity_required")
  let preliminary ← computed (preliminaryInput payload)
  require (isHandle preliminary.handle) (js "not_found")
  let record ← selectRecord (settings.sha256Hex preliminary.handle) preliminary actor.principalId
  computed (authorizeParticipant settings record actor)
  let now ← clock
  computed (assertActivityAvailable record now)
  require (record.activity.status = .available && record.session.completedAt.isNone)
    (js "activity_interaction_unavailable")
  let input ← computed (failureCode (validateActivityInteractionBatch payload))
  require (sameState preliminary input) (js "activity_interaction_state_conflict")
  let payloadHash ← computed (hashCanonicalJSON settings.sha256Hex (batchDocument input))
  let replay ← readRows .statement fun _ view => batchAt view input.batchId
  match replay with
  | some batch =>
      answerReplay batch ⟨record.assignment.id, input.activityId⟩ input payloadHash record.activity
  | none => recordBatch settings actor record input payloadHash

/-! ## The rest of the engine -/

/-- An evidence event of another kind. -/
abbrev OtherEvent := { event : NewEvent // event.eventType ≠ RECORDED }

/-- What else happens to the rows of a case. -/
inductive CaseChange where
  | assignment (handleDigest : JsString) (row : ParticipantAssignment)
  | request (id : Uuid) (row : RequestInstance)
  | session (interactionId : JsString) (row : InteractionSession)
  | newActivity (key : ActivityKey) (status : ActivityStatus)
  | activityStatus (key : ActivityKey) (status : ActivityStatus)
  | newChain (assignmentId : Uuid)
  | event (event : OtherEvent)

def changeStatus (key : ActivityKey) (status : ActivityStatus) : Program Unit := do
  let activity : ActivityInstance ← lockRow (.activity key)
  stageChanges fun changes => changes.updateRow (.activity key) { activity with status }

def applyChange : CaseChange → Program Unit
  | .assignment handleDigest row => putRow .statement (.assignment handleDigest) row
  | .request id row => putRow .statement (.request id) row
  | .session interactionId row => putRow .statement (.session interactionId) row
  | .newActivity key status => insertFresh .statement (.activity key) ⟨status, [], []⟩
  | .activityStatus key status => changeStatus key status
  | .newChain assignmentId => insertFresh .statement (.chain assignmentId) newChain
  | .event event => appendEvidence settings (fun eventId => { event.val with eventId })
      event.val.assignmentId

inductive Operation where
  | recordParticipantEvents (actor : Actor) (payload : Value)
  | changeCase (change : CaseChange)

/-- The program of an operation. -/
def program : Operation → Program Outcome
  | .recordParticipantEvents actor payload => recordParticipantEvents settings actor payload
  | .changeCase change => do
      applyChange settings change
      commitWith .done

def start (operation : Operation) : Script Row Outside Point Outcome :=
  (program settings operation).script

abbrev RecorderState := State Row Outside Point Outcome

end Vasi.InteractionStore
