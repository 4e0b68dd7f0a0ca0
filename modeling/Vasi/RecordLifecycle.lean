import Vasi.StagedRows
import Vasi.EvidenceEvents
import Vasi.RetentionDeadlines
import Mathlib.Data.Finset.Basic

/-!
# The lifecycle of a record

A record is bound to a retention policy when its request is issued and anchored when it is
completed. The worker then expires its content and its history, archives its evidence and in
the end purges it; owners place legal holds on it and release them. Each of these appends an
event to the chain of the record, which outlives it.

The rows of a record that a purge deletes with its assignment are those of the retention purge;
here they are the row of the assignment and the one of its lifecycle. The events of a chain are
kept with its head, under whose lock they are appended. Participant data requests are another
component: how many of them are open for a record comes from outside, and so do the active
policy, the head of the evidence chain and the row that a worker's query puts first.
Permissions and the replay of a command only refuse or report and are left out.
-/
namespace Vasi.RecordLifecycle

open JsValue IsoTime CanonicalJson ReadCommitted HashChain
open EngineRows (Uuid)
open EvidenceEvents (Environment ENGINE_VERSION GENESIS_HASH wholeNumber)
open RetentionDeadlines (Date Deadlines PolicyRevision calculateRetentionDeadlines codeOf
  invalidDatetimeFormat normalizeRetentionPolicy resolveRetentionPolicy validDate)

/-! ## Events -/

/-- The person or service that an event records. -/
structure LifecycleActor where
  authentication : Option (JsString × Option JsString)
  principalId : JsString
  roles : List JsString

def optionalText (text : Option JsString) : Value := (text.map Value.string).getD .undefined

def lifecycleActorSnapshot (actor : LifecycleActor) : Value :=
  .object [(js "authentication", (actor.authentication.map fun authentication =>
      Value.object [(js "method", .string authentication.1),
        (js "provider", optionalText authentication.2)]).getD .undefined),
    (js "principalId", .string actor.principalId),
    (js "roles", .array ((actor.roles.insertionSort (· ≤ ·)).map .string))]

def serviceActor : LifecycleActor where
  authentication := some (js "service", none)
  principalId := js "vasi-worker"
  roles := [js "service"]

/-- What an event says: its type with what its payload carries. -/
inductive LifecycleNews where
  | policyBound (deadlines : Deadlines) (policyHash : JsString)
      (policyRevisionId : Option JsString) (profileName : JsString)
  | terminalAnchored (deadlines : Deadlines) (policyHash : JsString)
  | contentExpired (deadline : Time)
  | historyExpired (deadline : Time)
  | evidenceArchived (deadline : Time)
  | purgeBlocked (activeDataRequestCount activeHoldCount : ℕ)
  | purgeDue (deadline : Time) (policyHash : JsString)
  | recordPurged (deadline : Time) (policyHash : JsString)
  | holdPlaced (caseReference : JsString) (holdId : Uuid) (reason : JsString)
  | holdReleased (holdId : Uuid) (reason : JsString) (releaseId : Uuid)

def LifecycleNews.eventType : LifecycleNews → JsString
  | policyBound .. => js "policy.bound"
  | terminalAnchored .. => js "terminal.anchored"
  | contentExpired _ => js "content.expired"
  | historyExpired _ => js "history.expired"
  | evidenceArchived _ => js "evidence.archived"
  | purgeBlocked .. => js "purge.blocked"
  | purgeDue .. => js "purge.due"
  | recordPurged .. => js "record.purged"
  | holdPlaced .. => js "hold.placed"
  | holdReleased .. => js "hold.released"

def iso (time : Option Time) : Value :=
  (time.map fun time => Value.string (isoText time)).getD .null

def isoDeadlines (deadlines : Deadlines) : Value :=
  .object [(js "archiveAt", iso deadlines.archiveAt),
    (js "contentExpiresAt", iso deadlines.contentExpiresAt),
    (js "deleteAt", iso deadlines.deleteAt),
    (js "historyExpiresAt", iso deadlines.historyExpiresAt),
    (js "terminalAt", iso (some deadlines.terminalAt))]

def LifecycleNews.payload : LifecycleNews → Value
  | policyBound deadlines policyHash policyRevisionId profileName =>
      .object [(js "deadlines", isoDeadlines deadlines), (js "policyHash", .string policyHash),
        (js "policyRevisionId", (policyRevisionId.map Value.string).getD .null),
        (js "profileName", .string profileName)]
  | terminalAnchored deadlines policyHash =>
      .object [(js "deadlines", isoDeadlines deadlines), (js "policyHash", .string policyHash)]
  | contentExpired deadline | historyExpired deadline =>
      .object [(js "deadline", .string (isoText deadline))]
  | evidenceArchived deadline =>
      .object [(js "deadline", .string (isoText deadline)),
        (js "effect", .string (js "logical_archive_preserves_verification"))]
  | purgeBlocked activeDataRequestCount activeHoldCount =>
      .object [(js "activeDataRequestCount", wholeNumber activeDataRequestCount),
        (js "activeHoldCount", wholeNumber activeHoldCount)]
  | purgeDue deadline policyHash =>
      .object [(js "deadline", .string (isoText deadline)),
        (js "policyHash", .string policyHash)]
  | recordPurged deadline policyHash =>
      .object [(js "deadline", .string (isoText deadline)),
        (js "effect", .string
          (js "participant_and_transaction_rows_removed; sealed_tombstone_retained")),
        (js "policyHash", .string policyHash)]
  | holdPlaced caseReference holdId reason =>
      .object [(js "caseReference", .string caseReference), (js "holdId", .string holdId.text),
        (js "reason", .string reason)]
  | holdReleased holdId reason releaseId =>
      .object [(js "holdId", .string holdId.text), (js "reason", .string reason),
        (js "releaseId", .string releaseId.text)]

/-- The arguments of an append, with the identifier it makes. -/
structure NewLifecycleEvent where
  actor : LifecycleActor
  assignmentId : Uuid
  createdAt : Time
  eventId : Uuid
  news : LifecycleNews
  requestId : Uuid
  source : JsString
  tenantId : Uuid

def lifecycleEventData (event : NewLifecycleEvent) (sequence : ℕ) (previousHash : JsString) :
    Value :=
  .object [(js "actor", lifecycleActorSnapshot event.actor),
    (js "assignmentId", .string event.assignmentId.text),
    (js "createdAt", .string (isoText event.createdAt)),
    (js "engineVersion", .string ENGINE_VERSION), (js "eventId", .string event.eventId.text),
    (js "eventType", .string event.news.eventType), (js "payload", event.news.payload),
    (js "previousHash", .string previousHash), (js "requestId", .string event.requestId.text),
    (js "schema", .string (js "vasi-record-lifecycle-event/v1")),
    (js "sequence", wholeNumber sequence), (js "source", .string event.source),
    (js "tenantId", .string event.tenantId.text)]

/-! ## Rows -/

/-- A record_lifecycle_event row: what it was made of, and the document that is stored. -/
structure StoredEvent where
  event : NewLifecycleEvent
  eventData : Value

abbrev LifecycleEvent := Link StoredEvent JsString

/-- A record_lifecycle_chain_head row with the events of its chain. -/
structure LifecycleChain where
  lastSequence : ℕ
  lastHash : JsString
  events : List LifecycleEvent

inductive AccessStatus where
  | active
  | expired
deriving DecidableEq

inductive EvidenceStatus where
  | active
  | archived
  | purgeDue
deriving DecidableEq

/-- A participant_assignment row. -/
structure ParticipantAssignment where
  tenantId : Uuid
  requestId : Uuid

/-- Where a record stands: what its events tell of it. -/
structure Standing where
  policyHash : JsString
  deadlines : Deadlines
  contentStatus : AccessStatus
  historyStatus : AccessStatus
  evidenceStatus : EvidenceStatus

/-- A record_lifecycle_state row. -/
structure LifecycleRecord extends Standing where
  tenantId : Uuid
  requestId : Uuid
  policySnapshot : Value
  lastEvaluatedAt : Option Time

/-- A legal_hold row. -/
structure LegalHold where
  tenantId : Uuid
  requestId : Uuid
  assignmentId : Uuid
  caseReference : JsString
  reason : JsString
  placedAt : Time

/-- A legal_hold_release row. -/
structure HoldRelease where
  id : Uuid
  reason : JsString
  releasedAt : Time

/-- A retention_purge_tombstone row. -/
structure Tombstone where
  tenantId : Uuid
  requestId : Uuid
  manifestHash : Option JsString
  evidenceHeadHash : JsString
  lifecycleHeadHash : JsString
  policyHash : JsString
  tombstone : Value
  tombstoneHash : JsString
  sealed : Value
  purgedAt : Time

/-- The rows by what identifies them: a hold has at most one release. -/
inductive Key where
  | assignment (id : Uuid)
  | record (assignmentId : Uuid)
  | chain (assignmentId : Uuid)
  | hold (id : Uuid)
  | release (holdId : Uuid)
  | tombstone (assignmentId : Uuid)
deriving DecidableEq

abbrev Row : Key → Type
  | .assignment _ => ParticipantAssignment
  | .record _ => LifecycleRecord
  | .chain _ => LifecycleChain
  | .hold _ => LegalHold
  | .release _ => HoldRelease
  | .tombstone _ => Tombstone

abbrev LifecycleRows := Store Row

abbrev assignmentAt (store : LifecycleRows) (id : Uuid) : Option ParticipantAssignment :=
  store.lookup (Key.assignment id)

abbrev recordAt (store : LifecycleRows) (assignmentId : Uuid) : Option LifecycleRecord :=
  store.lookup (Key.record assignmentId)

abbrev chainAt (store : LifecycleRows) (assignmentId : Uuid) : Option LifecycleChain :=
  store.lookup (Key.chain assignmentId)

abbrev holdAt (store : LifecycleRows) (id : Uuid) : Option LegalHold :=
  store.lookup (Key.hold id)

abbrev releaseAt (store : LifecycleRows) (holdId : Uuid) : Option HoldRelease :=
  store.lookup (Key.release holdId)

abbrev tombstoneAt (store : LifecycleRows) (assignmentId : Uuid) : Option Tombstone :=
  store.lookup (Key.tombstone assignmentId)

/-- The holds on a record that have no release. -/
def activeHolds (store : LifecycleRows) (assignmentId : Uuid) : List Uuid :=
  store.entries.filterMap fun
    | ⟨.hold id, row⟩ =>
        if row.assignmentId = assignmentId ∧ (releaseAt store id).isNone then some id else none
    | _ => none

/-! ## Programs -/

/-- What a statement takes from outside the rows. -/
structure Outside where
  clock : Time
  databaseClock : Time
  uuid : Uuid
  first : Uuid
  activePolicy : Option PolicyRevision
  activeDataRequestCount : ℕ
  evidence : Option (JsString × Option JsString)

inductive Point where
  | statement
  | commit
deriving DecidableEq

inductive Outcome where
  | done
  | refused (code : JsString)

abbrev Program := Transaction Row Outside Point Outcome

def require (condition : Bool) (code : JsString) : Program Unit :=
  if condition then pure () else finish (.refused code)

def clock : Program Time := fromOutside .statement Outside.clock

def randomUUID : Program Uuid := fromOutside .statement Outside.uuid

/-- A row that must be there, locked. -/
abbrev lockRow (key : Key) (condition : Row key → Bool) : Program (Row key) :=
  lockFound .statement key condition

def commitDone : Program Outcome := do
  commitChanges .commit
  return .done

section

variable (env : Environment)

/-- The chain with one more event. -/
def LifecycleChain.append (chain : LifecycleChain) (event : NewLifecycleEvent) :
    Except JsString LifecycleChain := do
  let sequence := chain.lastSequence + 1
  let data := lifecycleEventData event sequence chain.lastHash
  let eventHash ← hashCanonicalJSON env.sha256Hex data
  return {
    lastSequence := sequence
    lastHash := eventHash
    events := chain.events ++
      [⟨sequence, chain.lastHash, ⟨event, readBack env.order data⟩, eventHash⟩] }

/-- Append an event under the lock of the head; the value is the hash of the event. -/
def appendLifecycleEvent (event : Uuid → NewLifecycleEvent) (assignmentId : Uuid) :
    Program JsString := do
  let chain ← lockRow (.chain assignmentId) fun _ => true
  let eventId ← randomUUID
  match LifecycleChain.append env chain (event eventId) with
  | .error code => finish (.refused code)
  | .ok next => do
      stageChanges fun changes => changes.updateRow (.chain assignmentId) next
      return next.lastHash

/-! ## Binding and anchoring -/

/-- What the engine binds when it issues a request. -/
structure BindCommand where
  actor : LifecycleActor
  expiresAt : Date
  profileName : JsString
  requestId : Uuid
  tenantId : Uuid

/-- The digest and the member order of stored documents, as the retention policies use them. -/
def policies : RetentionDeadlines.Database := ⟨env.sha256Hex, env.order, env.rearranges⟩

def newChain : LifecycleChain := ⟨0, GENESIS_HASH, []⟩

/-- The row of a new record. -/
def boundRecord (command : BindCommand) (resolved : RetentionDeadlines.ResolvedPolicy) :
    LifecycleRecord where
  tenantId := command.tenantId
  requestId := command.requestId
  policySnapshot := readBack env.order resolved.policy.toValue
  policyHash := resolved.policyHash
  deadlines := calculateRetentionDeadlines resolved.policy command.expiresAt none
  contentStatus := .active
  historyStatus := .active
  evidenceStatus := .active
  lastEvaluatedAt := none

/-- The assignment of a new request with its record. -/
def bindRecordLifecycle (command : BindCommand) : Program Outcome := do
  let assignmentId ← randomUUID
  insertFresh .statement (.assignment assignmentId) ⟨command.tenantId, command.requestId⟩
  let active ← fromOutside .statement Outside.activePolicy
  match resolveRetentionPolicy (policies env) active command.profileName with
  | .error code => finish (.refused code)
  | .ok resolved => do
      let record := boundRecord env command resolved
      require record.deadlines.valid invalidDatetimeFormat
      insertFresh .statement (.record assignmentId) record
      insertFresh .statement (.chain assignmentId) newChain
      let now ← clock
      let _ ← appendLifecycleEvent env (fun eventId =>
        { actor := command.actor, assignmentId, createdAt := now, eventId
          news := .policyBound record.deadlines record.policyHash resolved.id command.profileName
          requestId := command.requestId, source := js "engine", tenantId := command.tenantId })
        assignmentId
      commitDone

/-- What the engine anchors when a record is completed or ends otherwise. -/
structure AnchorCommand where
  actor : LifecycleActor
  assignmentId : Uuid
  completedAt : Date
  requestId : Uuid
  tenantId : Uuid

/-- The deadlines of a record that is anchored; its expiry is recovered from them. -/
def anchoredDeadlines (record : LifecycleRecord) (completedAt : Date) :
    Except JsString Deadlines := do
  let policy ← codeOf (normalizeRetentionPolicy record.policySnapshot)
  let expiresAt ← codeOf (validDate (record.deadlines.contentExpiresAt.getD completedAt.val)
    (js "expiresAt"))
  return calculateRetentionDeadlines policy expiresAt (some completedAt)

def anchorRecordLifecycle (command : AnchorCommand) : Program Outcome := do
  let record : LifecycleRecord ← lockRow (.record command.assignmentId) fun _ => true
  match anchoredDeadlines record command.completedAt with
  | .error code => finish (.refused code)
  | .ok deadlines => do
      require deadlines.valid invalidDatetimeFormat
      stageChanges fun changes =>
        changes.updateRow (.record command.assignmentId) { record with deadlines }
      let _ ← appendLifecycleEvent env (fun eventId =>
        { actor := command.actor, assignmentId := command.assignmentId
          createdAt := command.completedAt.val, eventId
          news := .terminalAnchored deadlines record.policyHash
          requestId := command.requestId, source := js "engine", tenantId := command.tenantId })
        command.assignmentId
      commitDone

/-! ## Holds -/

structure HoldPlacement where
  actor : LifecycleActor
  assignmentId : Uuid
  caseReference : JsString
  reason : JsString
  tenantId : Uuid

structure HoldReleaseCommand where
  actor : LifecycleActor
  holdId : Uuid
  reason : JsString
  tenantId : Uuid

/-- commandHold with the action place. -/
def placeHold (command : HoldPlacement) : Program Outcome := do
  let now ← clock
  let record : LifecycleRecord ← lockRow (.record command.assignmentId)
    fun record => record.tenantId = command.tenantId
  let id ← randomUUID
  insertFresh .statement (.hold id)
    { tenantId := command.tenantId, requestId := record.requestId
      assignmentId := command.assignmentId, caseReference := command.caseReference
      reason := command.reason, placedAt := now }
  let _ ← appendLifecycleEvent env (fun eventId =>
    { actor := command.actor, assignmentId := command.assignmentId, createdAt := now, eventId
      news := .holdPlaced command.caseReference id command.reason
      requestId := record.requestId, source := js "owner", tenantId := command.tenantId })
    command.assignmentId
  commitDone

/-- commandHold with the action release. The query finds the release there is when it
begins; a hold is released once. -/
def releaseHold (command : HoldReleaseCommand) : Program Outcome := do
  let now ← clock
  let (hold, released) ← query .statement fun _ view =>
    ((holdAt view command.holdId).filter fun hold => hold.tenantId = command.tenantId).map
      fun hold => ([(.hold command.holdId, .update)],
        (hold, (releaseAt view command.holdId).isSome))
  require (!released) (js "legal_hold_already_released")
  let releaseId ← randomUUID
  insertFresh .statement (.release command.holdId) ⟨releaseId, command.reason, now⟩
  let _ ← appendLifecycleEvent env (fun eventId =>
    { actor := command.actor, assignmentId := hold.assignmentId, createdAt := now, eventId
      news := .holdReleased command.holdId command.reason releaseId
      requestId := hold.requestId, source := js "owner", tenantId := command.tenantId })
    hold.assignmentId
  commitDone

/-! ## The worker -/

/-- A deadline that has come. -/
def due (deadline : Option Time) (now : Time) : Option Time := deadline.filter (· ≤ now)

def LifecycleRecord.dueContent (record : LifecycleRecord) (now : Time) : Option Time :=
  (due record.deadlines.contentExpiresAt now).filter fun _ => record.contentStatus = .active

def LifecycleRecord.dueHistory (record : LifecycleRecord) (now : Time) : Option Time :=
  (due record.deadlines.historyExpiresAt now).filter fun _ => record.historyStatus = .active

def LifecycleRecord.dueArchive (record : LifecycleRecord) (now : Time) : Option Time :=
  (due record.deadlines.archiveAt now).filter fun _ => record.evidenceStatus = .active

/-- The rows that the worker's query selects. -/
def LifecycleRecord.selected (record : LifecycleRecord) (now : Time) : Bool :=
  (record.dueContent now).isSome || (record.dueHistory now).isSome ||
    (record.dueArchive now).isSome || ((due record.deadlines.deleteAt now).isSome &&
      record.lastEvaluatedAt.all fun evaluatedAt => evaluatedAt ≤ now - 86400000)

/-- An event of the worker about a record. -/
def lifecycleEvent (assignmentId : Uuid) (record : LifecycleRecord) (now : Time)
    (news : LifecycleNews) (eventId : Uuid) : NewLifecycleEvent :=
  { actor := serviceActor, assignmentId, createdAt := now, eventId, news
    requestId := record.requestId, source := js "worker", tenantId := record.tenantId }

/-- Update a record and say so in its chain. -/
def advanceRecord (assignmentId : Uuid) (record next : LifecycleRecord) (now : Time)
    (news : LifecycleNews) : Program JsString := do
  stageChanges fun changes => changes.updateRow (.record assignmentId) next
  appendLifecycleEvent env (lifecycleEvent assignmentId record now news) assignmentId

/-- The document that is sealed when a record is purged. -/
def tombstoneDocument (assignmentId : Uuid) (record : LifecycleRecord)
    (evidence : JsString × Option JsString) (lifecycleHeadHash : JsString) (now : Time) : Value :=
  .object [(js "assignmentId", .string assignmentId.text),
    (js "evidenceHeadHash", .string evidence.1),
    (js "lifecycleHeadHash", .string lifecycleHeadHash),
    (js "manifestHash", (evidence.2.map Value.string).getD .null),
    (js "policyHash", .string record.policyHash), (js "purgedAt", .string (isoText now)),
    (js "requestId", .string record.requestId.text),
    (js "schema", .string (js "vasi-retention-purge-tombstone/v1")),
    (js "tenantId", .string record.tenantId.text)]

/-- The database's own checks before a purge, and the deletion of the record and its assignment. -/
def purgeRecordForRetention (assignmentId : Uuid) (expectedTombstoneHash : JsString) :
    Program Unit := do
  let lifecycle : LifecycleRecord ← lockRow (.record assignmentId) fun _ => true
  let now ← fromOutside .statement Outside.databaseClock
  require (lifecycle.evidenceStatus = .purgeDue && (due lifecycle.deadlines.deleteAt now).isSome)
    (js "record is not due for retention purge")
  let holds ← readRows .statement fun _ view => activeHolds view assignmentId
  require holds.isEmpty (js "active legal hold blocks retention purge")
  let requests ← fromOutside .statement Outside.activeDataRequestCount
  require (requests = 0) (js "active participant data request blocks retention purge")
  let stone ← readRows .statement fun _ view => tombstoneAt view assignmentId
  require (stone.any fun stone => stone.tombstoneHash = expectedTombstoneHash &&
    stone.tenantId = lifecycle.tenantId && stone.requestId = lifecycle.requestId &&
    stone.policyHash = lifecycle.policyHash) (js "sealed retention purge tombstone is missing")
  deleteFound .statement (.record assignmentId)
  deleteFound .statement (.assignment assignmentId)

/-- The purge of a record that is marked as due; its tombstone is sealed first. -/
def sealAndPurge (signDetached : Value → Value) (assignmentId : Uuid) (record : LifecycleRecord)
    (deadline now : Time) : Program Outcome := do
  let evidence ← fromOutside .statement Outside.evidence
  match evidence with
  | none => finish (.refused (js "evidence_chain_missing"))
  | some evidence => do
      let lifecycleHeadHash ← appendLifecycleEvent env
        (lifecycleEvent assignmentId record now (.recordPurged deadline record.policyHash))
        assignmentId
      let tombstone := tombstoneDocument assignmentId record evidence lifecycleHeadHash now
      match hashCanonicalJSON env.sha256Hex tombstone with
      | .error code => finish (.refused code)
      | .ok tombstoneHash => do
          insertFresh .statement (.tombstone assignmentId)
            { tenantId := record.tenantId, requestId := record.requestId
              manifestHash := evidence.2, evidenceHeadHash := evidence.1, lifecycleHeadHash
              policyHash := record.policyHash, tombstone, tombstoneHash
              sealed := signDetached tombstone, purgedAt := now }
          purgeRecordForRetention assignmentId tombstoneHash
          commitDone

/-- A record that is due and not in use is marked as due and purged. -/
def purgeRecord (signDetached : Value → Value) (assignmentId : Uuid) (record : LifecycleRecord)
    (deadline now : Time) : Program Outcome :=
  if record.evidenceStatus ≠ .purgeDue then do
    let _ ← advanceRecord env assignmentId record
      { record with evidenceStatus := .purgeDue, lastEvaluatedAt := some now } now
      (.purgeDue deadline record.policyHash)
    sealAndPurge env signDetached assignmentId record deadline now
  else sealAndPurge env signDetached assignmentId record deadline now

/-- What becomes due first in a record. -/
def advanceOneRetentionLifecycle (signDetached : Value → Value) : Program Outcome := do
  let now ← clock
  let assignmentId ← fromOutside .statement Outside.first
  let record : LifecycleRecord ← lockRow (.record assignmentId)
    fun record => record.selected now
  let advance (next : LifecycleRecord) (news : LifecycleNews) : Program Outcome := do
    let _ ← advanceRecord env assignmentId record next now news
    commitDone
  match record.dueContent now with
  | some deadline =>
      advance { record with contentStatus := .expired, lastEvaluatedAt := none }
        (.contentExpired deadline)
  | none =>
      match record.dueHistory now with
      | some deadline =>
          advance { record with historyStatus := .expired, lastEvaluatedAt := none }
            (.historyExpired deadline)
      | none =>
          match record.dueArchive now with
          | some deadline =>
              advance { record with evidenceStatus := .archived, lastEvaluatedAt := none }
                (.evidenceArchived deadline)
          | none =>
              match due record.deadlines.deleteAt now with
              | none => commitDone
              | some deadline => do
                  let holds ← readRows .statement fun _ view => activeHolds view assignmentId
                  let requests ← fromOutside .statement Outside.activeDataRequestCount
                  if holds.length ≠ 0 ∨ requests ≠ 0 then
                    advance { record with lastEvaluatedAt := some now }
                      (.purgeBlocked requests holds.length)
                  else purgeRecord env signDetached assignmentId record deadline now

inductive Operation where
  | bindRecordLifecycle (command : BindCommand)
  | anchorRecordLifecycle (command : AnchorCommand)
  | placeHold (command : HoldPlacement)
  | releaseHold (command : HoldReleaseCommand)
  | advanceOneRetentionLifecycle

/-- The program of an operation. -/
def program (signDetached : Value → Value) : Operation → Program Outcome
  | .bindRecordLifecycle command => bindRecordLifecycle env command
  | .anchorRecordLifecycle command => anchorRecordLifecycle env command
  | .placeHold command => placeHold env command
  | .releaseHold command => releaseHold env command
  | .advanceOneRetentionLifecycle => advanceOneRetentionLifecycle env signDetached

def start (signDetached : Value → Value) (operation : Operation) :
    Script Row Outside Point Outcome := (program env signDetached operation).script

end

abbrev LifecycleState := State Row Outside Point Outcome

end Vasi.RecordLifecycle
