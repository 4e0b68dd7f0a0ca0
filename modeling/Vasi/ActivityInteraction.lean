import Mathlib.Data.List.Lex
import Mathlib.Data.List.Sort
import Vasi.IsoTime
import Vasi.Validation

/-!
# Activity interaction summaries

calculateActivityInteractionSummary reads the stored presence events of an activity back,
groups them by telemetry session and walks each session in the order of its sequence. What
it adds up is the time that the page was open, in the foreground, and engaged with, and the
time in gaps that gets no credit.

A stored row has its columns as read: numbers are whole, and a client time is there or not.
The constant members of the summary are left out, and so is validateActivityInteractionBatch,
which writes the rows.
-/
namespace Vasi.ActivityInteraction

open JsValue Validation IsoTime

inductive EventType where
  | presented
  | visible
  | hidden
  | focus
  | blur
  | heartbeat
  | interaction
  | disconnect
deriving DecidableEq, Repr

def EventType.name : EventType → JsString
  | presented => js "presented"
  | visible => js "visible"
  | hidden => js "hidden"
  | focus => js "focus"
  | blur => js "blur"
  | heartbeat => js "heartbeat"
  | interaction => js "interaction"
  | disconnect => js "disconnect"

def ACTIVITY_INTERACTION_EVENT_TYPES : List EventType :=
  [.presented, .visible, .hidden, .focus, .blur, .heartbeat, .interaction, .disconnect]

def ACTIVITY_INTERACTION_POLICY_VERSION : JsString := js "vasi-activity-interaction-policy/v1"

def invalid (message : JsString) : Failure := ⟨js "INVALID_ACTIVITY_INTERACTION", message⟩

def isInvalid (name : JsString) : Failure := invalid (js "The " ++ name ++ js " is invalid.")

/-! ## Stored events -/

/-- A row of the event table. -/
structure StoredRow where
  clientOccurredAt : Option JsString
  eventType : JsString
  monotonicMs : ℕ
  receivedAt : JsString
  sequence : ℕ
  telemetrySessionId : JsString

structure InteractionEvent where
  clientOccurredAt : Option JsString
  monotonicMs : ℕ
  receivedAt : JsString
  sequence : ℕ
  telemetrySessionId : JsString
  type : EventType
deriving DecidableEq

def integer (value : ℕ) (name : JsString) (minimum maximum : ℕ) : Checked ℕ :=
  if value < minimum ∨ value > maximum then .error (isInvalid name) else .ok value

def token (value name : JsString) (maximum : ℕ) : Checked JsString :=
  if value = [] ∨ value.length > maximum ∨ value.any isControl then .error (isInvalid name)
  else .ok value

def canonicalTimestamp (value name : JsString) : Checked JsString :=
  if isCanonicalTimestamp value then .ok value else .error (isInvalid name)

def optionalCanonicalTimestamp : Option JsString → Checked (Option JsString)
  | none => .ok none
  | some value => (canonicalTimestamp value (js "event.clientOccurredAt")).map some

def normalizeStoredEvent (row : StoredRow) : Checked InteractionEvent :=
  match ACTIVITY_INTERACTION_EVENT_TYPES.find? fun type => type.name = row.eventType with
  | none => .error (invalid (js "A stored activity interaction event type is unsupported."))
  | some type => do
      let clientOccurredAt ← optionalCanonicalTimestamp row.clientOccurredAt
      let monotonicMs ← integer row.monotonicMs (js "stored.monotonicMs") 0 604800000
      let receivedAt ← canonicalTimestamp row.receivedAt (js "stored.receivedAt")
      let sequence ← integer row.sequence (js "stored.sequence") 1 100000
      let telemetrySessionId ← token row.telemetrySessionId (js "stored.telemetrySessionId") 128
      return { clientOccurredAt, monotonicMs, receivedAt, sequence, telemetrySessionId, type }

/-- The rows are read in order. -/
def normalizeStoredEvents : List StoredRow → Checked (List InteractionEvent)
  | [] => .ok []
  | row :: rest => do
      let event ← normalizeStoredEvent row
      let events ← normalizeStoredEvents rest
      return event :: events

structure Policy where
  heartbeatSeconds : ℕ
  idleSeconds : ℕ
  maxCreditedGapSeconds : ℕ
  version : JsString

def normalizedPolicy (value : Policy) : Checked Policy := do
  let heartbeatSeconds ← integer value.heartbeatSeconds (js "policy.heartbeatSeconds") 2 60
  let idleSeconds ← integer value.idleSeconds (js "policy.idleSeconds") heartbeatSeconds 900
  let maxCreditedGapSeconds ← integer value.maxCreditedGapSeconds
    (js "policy.maxCreditedGapSeconds") heartbeatSeconds 120
  if value.version = ACTIVITY_INTERACTION_POLICY_VERSION then
    return { heartbeatSeconds, idleSeconds, maxCreditedGapSeconds, version := value.version }
  else .error (invalid (js "The activity interaction policy version is unsupported."))

/-! ## The walk -/

/-- What is known within one telemetry session. -/
structure Session where
  previous : Option InteractionEvent := none
  opened : Bool := false
  visible : Bool := false
  focused : Bool := false
  lastInteractionMs : Option ℕ := none
  sawPresented : Bool := false

/-- What is added up over all sessions. -/
structure Totals where
  openMilliseconds : ℕ := 0
  foregroundVisibleMilliseconds : ℕ := 0
  engagedMilliseconds : ℕ := 0
  uncreditedGapMilliseconds : ℕ := 0
  gapCount : ℕ := 0
  disconnectCount : ℕ := 0
  incompleteSessionCount : ℕ := 0
  presentedCount : ℕ := 0
  heartbeatCount : ℕ := 0
  visibleCount : ℕ := 0
  focusCount : ℕ := 0
  interactionCount : ℕ := 0

section

variable (policy : Policy)

/-- The credit for the time since the previous event. -/
def credit (session : Session) (event : InteractionEvent) (totals : Totals) : Totals :=
  match session.previous with
  | none => totals
  | some previous =>
      let deltaMilliseconds : ℤ := (event.monotonicMs : ℤ) - previous.monotonicMs
      if session.opened ∧ (deltaMilliseconds < 0 ∨
          deltaMilliseconds > policy.maxCreditedGapSeconds * 1000) then
        { totals with
          gapCount := totals.gapCount + 1
          uncreditedGapMilliseconds := totals.uncreditedGapMilliseconds +
            (max 0 deltaMilliseconds).toNat }
      else if session.opened then
        let seen := session.visible && session.focused
        let engaged := seen && session.lastInteractionMs.any fun last : ℕ =>
          (previous.monotonicMs : ℤ) - last ≤ policy.idleSeconds * 1000
        let delta := deltaMilliseconds.toNat
        { totals with
          openMilliseconds := totals.openMilliseconds + delta
          foregroundVisibleMilliseconds :=
            totals.foregroundVisibleMilliseconds + if seen then delta else 0
          engagedMilliseconds := totals.engagedMilliseconds + if engaged then delta else 0 }
      else totals

end

/-- What the type of an event changes in the session. -/
def follow (event : InteractionEvent) (session : Session) : Session :=
  match event.type with
  | .presented => { session with opened := true, sawPresented := true }
  | .visible => { session with visible := true }
  | .hidden => { session with visible := false }
  | .focus => { session with focused := true }
  | .blur => { session with focused := false }
  | .heartbeat => session
  | .interaction => { session with lastInteractionMs := some event.monotonicMs }
  | .disconnect => { session with opened := false, visible := false, focused := false }

/-- What the type of an event counts for. -/
def count (type : EventType) (totals : Totals) : Totals :=
  match type with
  | .presented => { totals with presentedCount := totals.presentedCount + 1 }
  | .visible => { totals with visibleCount := totals.visibleCount + 1 }
  | .focus => { totals with focusCount := totals.focusCount + 1 }
  | .heartbeat => { totals with heartbeatCount := totals.heartbeatCount + 1 }
  | .interaction => { totals with interactionCount := totals.interactionCount + 1 }
  | .disconnect => { totals with disconnectCount := totals.disconnectCount + 1 }
  | .hidden | .blur => totals

/-- One round of the walk over a session. -/
def visit (policy : Policy) (state : Session × Totals) (event : InteractionEvent) :
    Session × Totals :=
  ({ follow event state.1 with previous := some event },
    count event.type (credit policy state.1 event state.2))

/-- `left.sequence - right.sequence` -/
def bySequence (left right : InteractionEvent) : Prop := left.sequence ≤ right.sequence

instance : DecidableRel bySequence :=
  fun left right => inferInstanceAs (Decidable (left.sequence ≤ right.sequence))

instance : Std.Total bySequence := ⟨fun left right => le_total left.sequence right.sequence⟩

instance : IsTrans InteractionEvent bySequence := ⟨fun _ _ _ one other => one.trans other⟩

/-- The walk over the events of a session. -/
def visitGroup (policy : Policy) (totals : Totals) (group : List InteractionEvent) : Totals :=
  let final := group.foldl (visit policy) ({}, totals)
  if final.1.sawPresented && final.1.opened then
    { final.2 with incompleteSessionCount := final.2.incompleteSessionCount + 1 }
  else final.2

/-- The sessions in the order of their first rows, as a map keeps its keys. -/
def sessionIds (events : List InteractionEvent) : List JsString :=
  (events.map InteractionEvent.telemetrySessionId).eraseDups

/-- The events of a session in the order of their sequence. -/
def sessionEvents (events : List InteractionEvent) (id : JsString) : List InteractionEvent :=
  (events.filter fun event => event.telemetrySessionId = id).insertionSort bySequence

def grouped (events : List InteractionEvent) : List (List InteractionEvent) :=
  (sessionIds events).map (sessionEvents events)

def collect (policy : Policy) (events : List InteractionEvent) : Totals :=
  (grouped events).foldl (visitGroup policy) {}

/-! ## The summary -/

def sorted (values : List JsString) : List JsString := values.insertionSort (· ≤ ·)

def earliest (values : List JsString) : Option JsString := (sorted values).head?

def latest (values : List JsString) : Option JsString := (sorted values).getLast?

structure Confidence where
  level : JsString
  limitations : List JsString
deriving DecidableEq

structure Events where
  count : ℕ
  firstClientOccurredAt : Option JsString
  firstReceivedAt : Option JsString
  heartbeatCount : ℕ
  focusCount : ℕ
  interactionCount : ℕ
  lastClientOccurredAt : Option JsString
  lastReceivedAt : Option JsString
  presentedCount : ℕ
  visibleCount : ℕ
deriving DecidableEq

structure Sessions where
  count : ℕ
  disconnectCount : ℕ
  incompleteCount : ℕ
deriving DecidableEq

structure Timing where
  backgroundOrHiddenMilliseconds : ℕ
  engagedMilliseconds : ℕ
  foregroundVisibleMilliseconds : ℕ
  idleForegroundMilliseconds : ℕ
  openMilliseconds : ℕ
  uncreditedGapMilliseconds : ℕ
deriving DecidableEq

structure Summary where
  policy : Policy
  confidence : Confidence
  events : Events
  sessions : Sessions
  timing : Timing

/-- The limitations, of which the first four always hold. -/
def limitations (totals : Totals) : List JsString :=
  [js "Activity presence is browser-reported supporting evidence and can be absent, reduced, " ++
      js "automated, or spoofed.",
    js "Foreground visibility and coarse interaction do not prove attention, comprehension, " ++
      js "identity, or freedom from coercion.",
    js "VASI records only coarse interaction occurrence; it does not retain keys pressed, " ++
      js "pointer coordinates, or input contents in this telemetry.",
    js "Intervals longer than the credited-gap policy are excluded rather than treated as " ++
      js "continuous activity."] ++
  (if totals.presentedCount = 0 then [js "No browser presentation event was received."] else []) ++
  (if totals.heartbeatCount = 0 then
    [js "No periodic heartbeat was received, so duration evidence is limited."] else []) ++
  (if totals.visibleCount = 0 then
    [js "No foreground-visible activity event was received."] else []) ++
  (if totals.focusCount = 0 then
    [js "No focused-window activity event was received."] else []) ++
  (if totals.incompleteSessionCount ≠ 0 then
    [js "One or more telemetry sessions ended without a recorded disconnect."] else []) ++
  (if totals.gapCount ≠ 0 then
    [js "One or more missing or oversized telemetry intervals received no duration credit."]
  else [])

def confidenceLevel (totals : Totals) : JsString :=
  if totals.presentedCount > 0 ∧ totals.heartbeatCount > 0 ∧ totals.visibleCount > 0 ∧
      totals.focusCount > 0 ∧ totals.gapCount = 0 ∧ totals.incompleteSessionCount = 0 then
    js "medium"
  else js "low"

/-- The summary of the totals; the times are those of the events in the order of the walk. -/
def summarize (policy : Policy) (events : List InteractionEvent) (totals : Totals) : Summary :=
  let groups := grouped events
  let receivedTimes := groups.flatten.map InteractionEvent.receivedAt
  let clientTimes := groups.flatten.filterMap InteractionEvent.clientOccurredAt
  { policy
    confidence := ⟨confidenceLevel totals, limitations totals⟩
    events := {
      count := events.length
      firstClientOccurredAt := earliest clientTimes
      firstReceivedAt := earliest receivedTimes
      heartbeatCount := totals.heartbeatCount
      focusCount := totals.focusCount
      interactionCount := totals.interactionCount
      lastClientOccurredAt := latest clientTimes
      lastReceivedAt := latest receivedTimes
      presentedCount := totals.presentedCount
      visibleCount := totals.visibleCount }
    sessions := ⟨groups.length, totals.disconnectCount, totals.incompleteSessionCount⟩
    timing := {
      backgroundOrHiddenMilliseconds :=
        totals.openMilliseconds - totals.foregroundVisibleMilliseconds
      engagedMilliseconds := totals.engagedMilliseconds
      foregroundVisibleMilliseconds := totals.foregroundVisibleMilliseconds
      idleForegroundMilliseconds :=
        totals.foregroundVisibleMilliseconds - totals.engagedMilliseconds
      openMilliseconds := totals.openMilliseconds
      uncreditedGapMilliseconds := totals.uncreditedGapMilliseconds } }

def calculateActivityInteractionSummary (policyValue : Policy) (rows : List StoredRow) :
    Checked Summary := do
  let policy ← normalizedPolicy policyValue
  if rows.length > 100000 then
    .error (invalid (js "Stored activity interaction events are invalid or unbounded."))
  else
    let events ← normalizeStoredEvents rows
    return summarize policy events (collect policy events)

end Vasi.ActivityInteraction
