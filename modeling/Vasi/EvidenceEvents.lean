import Vasi.EngineRows

/-!
# Evidence events

Appending an event to the hash chain of an assignment. The event object is
assembled from the chain head, hashed in canonical form and stored as a JSON
document; the document is kept as the database returns it, with its own member
order. The digest function, that member order and the case mapping used on
addresses are parameters.

What a payload says is up to the operation that appends it. A payload or an
actor without a canonical form makes the append fail, and with it the
transaction.
-/
namespace Vasi.EvidenceEvents

open JsValue IsoTime CanonicalJson EngineRows HashChain

/-- The parts of the platform that the engine relies on: SHA-256 in lowercase
hexadecimal, the member order of a stored document and lower casing. -/
structure Environment where
  sha256Hex : JsString → JsString
  order : Members → Members
  rearranges : ∀ members, (order members).Perm members
  toLowerCase : JsString → JsString

/-- An object assembled by the program: no key stands twice. -/
abbrev Document := { value : Value // WellFormed value }

def ENGINE_VERSION : JsString := js "0.55.1"

def GENESIS_HASH : JsString := List.replicate 64 48

/-- The person or service behind a command. -/
structure Actor where
  authenticatedAt : Document
  authentication : Document
  email : JsString
  gatewaySessionId : JsString
  principalId : JsString
  requestContext : Document
  roles : Document

def actorSnapshot (actor : Actor) : Value :=
  .object [(js "authenticatedAt", actor.authenticatedAt.val),
    (js "authentication", actor.authentication.val), (js "email", .string actor.email),
    (js "gatewaySessionId", .string actor.gatewaySessionId),
    (js "principalId", .string actor.principalId),
    (js "requestContext", actor.requestContext.val), (js "roles", actor.roles.val)]

theorem actorSnapshot_wellFormed (actor : Actor) : WellFormed (actorSnapshot actor) := by
  refine ⟨?_, ?_⟩
  · simp only [List.map_cons, List.map_nil]
    decide
  simp only [WellFormedMembers, WellFormed, actor.authenticatedAt.property,
    actor.authentication.property, actor.requestContext.property, actor.roles.property, and_self]

/-- An actor as an event records it. -/
def Actor.document (actor : Actor) : Document := ⟨actorSnapshot actor, actorSnapshot_wellFormed actor⟩

/-- The actor that the worker records. -/
def workerActor : Document :=
  ⟨.object [(js "authentication", .object [(js "method", .string (js "service"))]),
    (js "gatewaySessionId", .string (js "vasi-worker")),
    (js "principalId", .string (js "vasi-worker")),
    (js "roles", .array [.string (js "service")])], by
    refine ⟨by decide, ?_⟩
    simp [WellFormedMembers, WellFormed, WellFormedItems]⟩

/-- The arguments of an append. -/
structure NewEvent where
  actor : Document
  assignmentId : Uuid
  eventId : Uuid
  eventType : JsString
  payload : Document
  receivedAt : Time
  requestId : Uuid
  tenantId : Uuid

def wholeNumber (value : ℕ) : Value := .number (.finite value)

/-- The event object, given the chain head it follows. -/
def eventData (event : NewEvent) (sequence : ℕ) (previousHash : JsString) : Value :=
  .object [(js "actor", event.actor.val), (js "assignmentId", .string event.assignmentId.text),
    (js "engineVersion", .string ENGINE_VERSION), (js "eventId", .string event.eventId.text),
    (js "eventType", .string event.eventType), (js "payload", event.payload.val),
    (js "previousHash", .string previousHash),
    (js "receivedAt", .string (isoText event.receivedAt)),
    (js "requestId", .string event.requestId.text),
    (js "schema", .string (js "vasi-evidence-event/v1")), (js "sequence", wholeNumber sequence),
    (js "tenantId", .string event.tenantId.text)]

/-- Append an event to a chain. -/
def appendEvent (env : Environment) (event : NewEvent) (chain : ChainRow) :
    Except JsString ChainRow := do
  let sequence := chain.lastSequence + 1
  let data := eventData event sequence chain.lastHash
  let eventHash ← hashCanonicalJSON env.sha256Hex data
  return {
    lastSequence := sequence
    lastHash := eventHash
    events := chain.events ++ [⟨sequence, chain.lastHash, readBack env.order data, eventHash⟩] }

/-- The chain head that issuing inserts. -/
def newChain : ChainRow := ⟨0, GENESIS_HASH, []⟩

/-! ## Chains stay intact -/

/-- The event repeats its place and the hash it follows, and its own hash recomputes. -/
structure SoundEvent (env : Environment) (event : EvidenceEvent) : Prop where
  sequence : event.body.get (js "sequence") = wholeNumber event.sequence
  previousHash : event.body.get (js "previousHash") = .string event.previous
  eventHash : hashCanonicalJSON env.sha256Hex event.body = .ok event.digest

/-- The events of a chain follow one another from the genesis hash to the head. -/
structure IntactChain (env : Environment) (chain : ChainRow) : Prop where
  intact : Intact (SoundEvent env) 0 GENESIS_HASH chain.events
  lastSequence : chain.lastSequence = chain.events.length
  lastHash : chain.lastHash = lastDigest GENESIS_HASH chain.events

theorem newChain_intact (env : Environment) : IntactChain env newChain := ⟨trivial, rfl, rfl⟩

theorem eventData_wellFormed (event : NewEvent) (sequence : ℕ) (previousHash : JsString) :
    WellFormed (eventData event sequence previousHash) := by
  refine ⟨?_, ?_⟩
  · simp only [List.map_cons, List.map_nil]
    decide
  simp only [WellFormedMembers, WellFormed, wholeNumber, event.actor.property,
    event.payload.property, and_self]

/-- A stored event reads its place and its predecessor back as they were written. -/
theorem eventData_readBack (env : Environment) (event : NewEvent) (sequence : ℕ)
    (previousHash : JsString) :
    (readBack env.order (eventData event sequence previousHash)).get (js "sequence") =
        wholeNumber sequence ∧
      (readBack env.order (eventData event sequence previousHash)).get (js "previousHash") =
        .string previousHash := by
  have formed := eventData_wellFormed event sequence previousHash
  constructor
  · exact get_readBack env.order env.rearranges _ _ (wholeNumber sequence) formed
      (List.mem_of_getElem? (i := 10) rfl) rfl
  · exact get_readBack env.order env.rearranges _ _ (.string previousHash) formed
      (List.mem_of_getElem? (i := 6) rfl) rfl

/-- What an append does to a chain: the new event is sound and follows the last one. -/
theorem appendEvent_ok {env : Environment} {event : NewEvent} {chain after : ChainRow}
    (appended : appendEvent env event chain = .ok after) :
    ∃ link : EvidenceEvent, SoundEvent env link ∧ link.sequence = chain.lastSequence + 1 ∧
      link.previous = chain.lastHash ∧
      after = ⟨link.sequence, link.digest, chain.events ++ [link]⟩ := by
  simp only [appendEvent, bind, Except.bind] at appended
  split at appended
  · cases appended
  · rename_i eventHash hashed
    have result := Except.ok.inj appended
    have read := eventData_readBack env event (chain.lastSequence + 1) chain.lastHash
    have representable := (hashCanonicalJSON_succeeds env.sha256Hex _).mp ⟨_, hashed⟩
    refine ⟨⟨_, chain.lastHash, _, eventHash⟩, ⟨read.1, read.2, ?_⟩, rfl, rfl, result.symm⟩
    exact (hashCanonicalJSON_readBack env.sha256Hex env.order env.rearranges _
      (eventData_wellFormed event _ _) representable).trans hashed

/-- Appending keeps a chain intact. -/
theorem appendEvent_intact {env : Environment} {event : NewEvent} {chain after : ChainRow}
    (appended : appendEvent env event chain = .ok after) (intact : IntactChain env chain) :
    IntactChain env after := by
  obtain ⟨link, sound, sequence, previous, rfl⟩ := appendEvent_ok appended
  refine ⟨(intact_append _ _ _ _ _).mpr ⟨intact.intact, ?_, ?_, sound⟩, ?_, ?_⟩
  · rw [sequence, intact.lastSequence, Nat.zero_add]
  · rw [previous, intact.lastHash]
  · rw [sequence, intact.lastSequence, List.length_append, List.length_singleton]
  · rw [lastDigest_append]

end Vasi.EvidenceEvents
