import Vasi.JsonRoundTrip
import Vasi.HashChain
import Vasi.Validation

/-!
# The administrator audit chain

writeAdminAudit inserts one row; the insert trigger gives it the next place, the
digest of the row before it, the text of its payload and its own digest, and
advances the head. verifyAdminAuditChain re-reads rows and head, recomputes the
digests and compares each row's columns with its payload.

The platform supplies SHA-256, PostgreSQL's jsonb text and member order, its
constraints, and dates. Digests are not assumed to be injective anywhere: the
verifier's result is stated for inputs that do not collide.
-/
namespace Vasi.AdminAudit

open JsValue JsonText CanonicalJson Validation

inductive Phase where
  | ambiguous
  | event
  | failed
  | started
  | succeeded
deriving DecidableEq

def Phase.text : Phase → JsString
  | ambiguous => js "ambiguous"
  | event => js "event"
  | failed => js "failed"
  | started => js "started"
  | succeeded => js "succeeded"

/-- An audit row as a query returns it. Absent and null columns are one case, a
sequence is the number its column reads as, and a date that cannot be read has
no time. -/
structure AuditChainRow where
  action : JsString
  actorSessionId : Option JsString
  actorUserId : Option JsString
  canonicalPayload : JsString
  commandId : JsString
  createdAt : Option ℤ
  eventHash : JsString
  id : JsString
  ipAddress : Option JsString
  metadata : Value
  phase : Phase
  previousHash : JsString
  requestId : JsString
  sequence : JsNumber
  targetUserId : Option JsString
  userAgent : Option JsString

/-- The stored chain head, as a query returns it. -/
structure Head where
  lastHash : JsString
  lastSequence : JsNumber

/-- A row of the table, with its time in microseconds. -/
structure StoredRow where
  action : JsString
  actorSessionId : Option JsString
  actorUserId : Option JsString
  canonicalPayload : JsString
  commandId : JsString
  createdAt : ℕ
  eventHash : JsString
  id : JsString
  ipAddress : Option JsString
  metadata : Value
  phase : Phase
  previousHash : JsString
  requestId : JsString
  sequence : ℕ
  targetUserId : Option JsString
  userAgent : Option JsString

/-- Node and PostgreSQL around the chain. -/
structure Platform where
  sha256Hex : List Utf8.Byte → JsString
  sha256Hex_length : ∀ bytes, (sha256Hex bytes).length = 64
  sha256Hex_printable : ∀ bytes, ∀ unit ∈ sha256Hex bytes, Printable unit
  order : Members → Members
  rearranges : ∀ members, (order members).Perm members
  jsonbText : Value → JsString
  jsonbText_formed : ∀ value, Utf8.WellFormed (jsonbText value)
  parse_jsonbText : ∀ value, Json value → parse (jsonbText value) = some (readBack order value)
  timestampText : ℕ → JsString
  dateTime : Value → Option ℤ
  dateTime_timestamp : ∀ time : ℕ,
    dateTime (.string (timestampText time)) = some ((time / 1000 : ℕ) : ℤ)
  accepts : List StoredRow → StoredRow → Bool

def ADMIN_AUDIT_GENESIS_HASH : JsString := List.replicate 64 48

section
variable (platform : Platform)

/-! ## Writing -/

/-- A command of writeAdminAudit with the identifier and the time it is given. -/
structure AuditCall where
  id : JsString
  now : ℕ
  action : JsString
  actorSessionId : Option JsString
  actorUserId : Option JsString
  commandId : Option JsString
  ipAddress : Option JsString
  metadata : Value
  phase : Phase
  requestId : Option JsString
  targetUserId : Option JsString
  userAgent : Option JsString
  formed : WellFormed metadata

/-- The fields that administrator metadata must not name. -/
def prohibited (key : JsString) : Bool :=
  let lower := key.map fun unit =>
    if 65 ≤ unit.val ∧ unit.val ≤ 90 then Fin.ofNat 65536 (unit.val + 32) else unit
  let names (text : JsString) : Bool := lower.tails.any fun rest => text.isPrefixOf rest
  let around (first second : JsString) : Bool := lower.tails.any fun rest =>
    first.isPrefixOf rest &&
      (second.isPrefixOf (rest.drop first.length) ||
        ((rest.drop first.length).head?.any fun unit =>
            unit ≠ 10 && unit ≠ 13 && unit ≠ 0x2028 && unit ≠ 0x2029) &&
          second.isPrefixOf (rest.drop (first.length + 1)))
  names (js "password") || names (js "secret") || names (js "token") || names (js "credential") ||
    names (js "authorization") || names (js "cookie") || around (js "private") (js "key") ||
    around (js "access") (js "token") || around (js "refresh") (js "token") ||
    around (js "email") (js "body") || names (js "content")

mutual
/-- inspectMetadata; false is one of its errors. -/
def inspectMetadata (depth : ℕ) : Value → Bool
  | .string value => depth ≤ 8 && value.length ≤ 512
  | .number value => depth ≤ 8 && value.isSafeInteger
  | .array items => depth ≤ 8 && items.length ≤ 100 && inspectItems (depth + 1) items
  | .object members => depth ≤ 8 && inspectMembers (depth + 1) members
  | _ => depth ≤ 8

def inspectItems (depth : ℕ) : List Value → Bool
  | [] => true
  | item :: rest => inspectMetadata depth item && inspectItems depth rest

def inspectMembers (depth : ℕ) : Members → Bool
  | [] => true
  | (key, value) :: rest =>
      !prohibited key && inspectMetadata depth value && inspectMembers depth rest
end

def normalizeAdminAuditMetadata : Value → Option Value
  | .object members => do
      guard (inspectMetadata 0 (.object members))
      let encoded ← stringify (.object members)
      guard ((Utf8.encode encoded).length ≤ 8192)
      parse encoded
  | _ => none

def auditToken (value : JsString) : Option JsString :=
  let normalized := trim value
  let allowed (unit : CodeUnit) : Bool :=
    JsonText.isDigit unit || (65 ≤ unit.val && unit.val ≤ 90) || (97 ≤ unit.val && unit.val ≤ 122) ||
      unit = 46 || unit = 95 || unit = 58 || unit = 45
  if normalized = [] ∨ normalized.length > 128 ∨ ¬ normalized.all allowed then none
  else some normalized

def boundedHeader (value : Option JsString) : Option JsString :=
  value.bind fun value => if trim value = [] then none else some ((trim value).take 512)

/-- A text parameter as the column keeps it: its UTF-8 bytes. -/
def column (text : JsString) : JsString := Utf8.decode (Utf8.encode text)

/-- A null or a text. -/
def nullable (text : Option JsString) : Value := (text.map Value.string).getD .null

/-- The payload object of a row. -/
def payloadOf (row : StoredRow) : Value :=
  .object [(js "action", .string row.action),
    (js "actorSessionId", nullable row.actorSessionId),
    (js "actorUserId", nullable row.actorUserId),
    (js "commandId", .string row.commandId),
    (js "createdAt", .string (platform.timestampText row.createdAt)),
    (js "id", .string row.id),
    (js "ipAddress", nullable row.ipAddress),
    (js "metadata", row.metadata),
    (js "phase", .string row.phase.text),
    (js "requestId", .string row.requestId),
    (js "targetUserId", nullable row.targetUserId),
    (js "userAgent", nullable row.userAgent)]

/-- The audit table and its chain head. -/
structure Store where
  rows : List StoredRow
  lastSequence : ℕ
  lastHash : JsString

def Store.empty : Store := ⟨[], 0, ADMIN_AUDIT_GENESIS_HASH⟩

/-- The insert trigger. -/
def vasiAdminAuditAppend (store : Store) (new : StoredRow) : StoredRow :=
  let new := { new with
    commandId := if new.commandId = [] then new.id else new.commandId
    requestId := if new.requestId = [] then new.id else new.requestId
    sequence := store.lastSequence + 1
    previousHash := store.lastHash }
  let new := { new with canonicalPayload := platform.jsonbText (payloadOf platform new) }
  { new with
    eventHash := platform.sha256Hex (Utf8.encode (new.previousHash ++ new.canonicalPayload)) }

/-- writeAdminAudit; none leaves no row. -/
def writeAdminAudit (call : AuditCall) (store : Store) : Option Store := do
  let metadata ← normalizeAdminAuditMetadata
    (if call.metadata.isUndefined then .object [] else call.metadata)
  let action ← auditToken call.action
  let commandId ← auditToken
    (match call.commandId with
      | some commandId => if commandId = [] then call.id else commandId
      | none => call.id)
  let requestId ← auditToken
    (match call.requestId with
      | some requestId => if requestId = [] then call.id else requestId
      | none => call.id)
  let row := vasiAdminAuditAppend platform store
    { action := column action
      actorSessionId := call.actorSessionId.map column
      actorUserId := call.actorUserId.map column
      canonicalPayload := []
      commandId := column commandId
      createdAt := call.now
      eventHash := []
      id := column call.id
      ipAddress := (boundedHeader call.ipAddress).map column
      metadata := metadata
      phase := call.phase
      previousHash := []
      requestId := column requestId
      sequence := 0
      targetUserId := call.targetUserId.map column
      userAgent := (boundedHeader call.userAgent).map column }
  guard (platform.accepts store.rows row)
  return ⟨store.rows ++ [row], row.sequence, row.eventHash⟩

/-- The store after a sequence of calls, in the order in which they take the
head's lock. -/
def run (calls : List AuditCall) : Store :=
  calls.foldl (fun store call => (writeAdminAudit platform call store).getD store) Store.empty

/-- A stored row as a query returns it. -/
def readRow (row : StoredRow) : AuditChainRow where
  action := row.action
  actorSessionId := row.actorSessionId
  actorUserId := row.actorUserId
  canonicalPayload := row.canonicalPayload
  commandId := row.commandId
  createdAt := some ((row.createdAt / 1000 : ℕ) : ℤ)
  eventHash := row.eventHash
  id := row.id
  ipAddress := row.ipAddress
  metadata := readBack platform.order row.metadata
  phase := row.phase
  previousHash := row.previousHash
  requestId := row.requestId
  sequence := .finite (Binary64.round row.sequence)
  targetUserId := row.targetUserId
  userAgent := row.userAgent

def readHead (store : Store) : Head :=
  ⟨store.lastHash, .finite (Binary64.round store.lastSequence)⟩

/-! ## Verifying -/

mutual
/-- sortValue: members under ascending keys, which Object.fromEntries then lists
in property order. -/
def sortValue : Value → Value
  | .array items => .array (sortItems items)
  | .object members => .object (propertyOrder ((sortMembers members).insertionSort keyOrder))
  | value => value

def sortItems : List Value → List Value
  | [] => []
  | item :: rest => sortValue item :: sortItems rest

def sortMembers : Members → Members
  | [] => []
  | (key, value) :: rest => (key, sortValue value) :: sortMembers rest
end

def semanticJSON (value : Value) : Option JsString := stringify (sortValue value)

/-- A payload member strictly equal to a text column. -/
def sameText (value : Value) (text : JsString) : Bool :=
  match value with
  | .string own => own = text
  | _ => false

/-- A payload member strictly equal to a column that may be null. -/
def sameNullable (value : Value) : Option JsString → Bool
  | some text => sameText value text
  | none =>
      match value with
      | .null => true
      | _ => false

/-- row.metadata || {} -/
def presentMetadata (row : AuditChainRow) : Value :=
  if row.metadata.truthy then row.metadata else .object []

def semanticMatch (row : AuditChainRow) : Bool :=
  let payload := (parse row.canonicalPayload).getD .null
  payload.truthy &&
    sameText (payload.get (js "id")) row.id &&
    sameText (payload.get (js "action")) row.action &&
    sameNullable (payload.get (js "actorSessionId")) row.actorSessionId &&
    sameNullable (payload.get (js "actorUserId")) row.actorUserId &&
    sameText (payload.get (js "commandId")) row.commandId &&
    sameNullable (payload.get (js "ipAddress")) row.ipAddress &&
    sameText (payload.get (js "phase")) row.phase.text &&
    sameText (payload.get (js "requestId")) row.requestId &&
    sameNullable (payload.get (js "targetUserId")) row.targetUserId &&
    sameNullable (payload.get (js "userAgent")) row.userAgent &&
    ((platform.dateTime (payload.get (js "createdAt"))).isSome &&
      platform.dateTime (payload.get (js "createdAt")) = row.createdAt) &&
    semanticJSON (payload.get (js "metadata")) = semanticJSON (presentMetadata row)

inductive FailureCode where
  | sequenceInvalid
  | sequenceDiscontinuity
  | previousHashMismatch
  | eventHashMismatch
  | canonicalPayloadMismatch
  | chainHeadMismatch
deriving DecidableEq

structure Failure where
  code : FailureCode
  sequence : JsNumber

/-- A safe integer of at least the given size. -/
def isSafeAtLeast (number : JsNumber) (least : ℚ) : Bool :=
  number.isSafeInteger && least ≤ number.toRat?.getD 0

/-- What one row fails, after the digest and at the place the loop expects. -/
def rowFailure (previousHash : JsString) (expected : ℕ) (row : AuditChainRow) :
    Option Failure :=
  if ¬ isSafeAtLeast row.sequence 1 then some ⟨.sequenceInvalid, .finite 0⟩
  else if row.sequence ≠ .finite expected then some ⟨.sequenceDiscontinuity, row.sequence⟩
  else if row.previousHash ≠ previousHash then some ⟨.previousHashMismatch, row.sequence⟩
  else if row.eventHash ≠
      platform.sha256Hex (Utf8.encode (previousHash ++ row.canonicalPayload)) then
    some ⟨.eventHashMismatch, row.sequence⟩
  else if ¬ semanticMatch platform row then some ⟨.canonicalPayloadMismatch, row.sequence⟩
  else none

/-- The first failure of the loop over the ordered rows. -/
def firstRowFailure (previousHash : JsString) (expected : ℕ) :
    List AuditChainRow → Option Failure
  | [] => none
  | row :: rest =>
      (rowFailure platform previousHash expected row).or
        (firstRowFailure row.eventHash (expected + 1) rest)

/-- The comparator of the sort. A sequence that is no finite number makes it
inconsistent; such a row is refused in every order. -/
def sequenceOrder (left right : AuditChainRow) : Prop :=
  left.sequence.toRat?.getD 0 ≤ right.sequence.toRat?.getD 0

instance : DecidableRel sequenceOrder := fun left right =>
  inferInstanceAs (Decidable (left.sequence.toRat?.getD 0 ≤ right.sequence.toRat?.getD 0))

def ordered (rows : List AuditChainRow) : List AuditChainRow := rows.insertionSort sequenceOrder

structure Verification where
  count : ℕ
  firstFailure : Option Failure
  headMatches : Bool
  lastHash : JsString
  lastSequence : JsNumber
  valid : Bool

def verifyAdminAuditChain (rows : List AuditChainRow) (head : Head) : Verification :=
  let list := ordered rows
  let lastSequence : JsNumber :=
    match list.getLast? with
    | some row => if isSafeAtLeast row.sequence 0 then row.sequence else .finite 0
    | none => .finite 0
  let lastHash := (list.getLast?.map AuditChainRow.eventHash).getD ADMIN_AUDIT_GENESIS_HASH
  let headMatches := isSafeAtLeast head.lastSequence 0 &&
    head.lastSequence.toRat? = lastSequence.toRat? && head.lastHash = lastHash
  let firstFailure := (firstRowFailure platform ADMIN_AUDIT_GENESIS_HASH 1 list).or
    (if headMatches then none else some ⟨.chainHeadMismatch, lastSequence⟩)
  { count := list.length
    firstFailure := firstFailure
    headMatches := headMatches
    lastHash := lastHash
    lastSequence := lastSequence
    valid := firstFailure.isNone }

end

end Vasi.AdminAudit
