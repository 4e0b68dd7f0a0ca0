import Mathlib.Data.List.Sort
import Vasi.Media

/-!
# Media telemetry

The batches of player and page events that a participant's browser sends, as they
are validated and recorded. A batch holds at most a hundred events in the order of
their sequence and of the browser's monotonic clock; it is recorded if it continues
its telemetry session. Seconds become whole milliseconds and rates thousandths on
acceptance, and every event carries what its type requires.

The participant's authorization, the hash of a batch and the evidence event are left
out. A batch identifier that is known changes no row, whether the call is answered
or refused.
-/
namespace Vasi.MediaTelemetry

open JsValue Validation Media

/-- The event types, in the order of MEDIA_EVENT_TYPES. -/
inductive EventType where
  | presented
  | frameLoaded
  | frameError
  | visible
  | hidden
  | focus
  | blur
  | heartbeat
  | interaction
  | ready
  | play
  | pause
  | bufferStart
  | bufferEnd
  | seek
  | rate
  | position
  | ended
  | providerError
  | departed
  | returned
  | disconnect
  | accessibilityAlternative
deriving DecidableEq

/-- The texts of MEDIA_EVENT_TYPES with what they denote. -/
def MEDIA_EVENT_TYPES : List (JsString × EventType) :=
  [(js "presented", .presented), (js "frame_loaded", .frameLoaded),
    (js "frame_error", .frameError), (js "visible", .visible), (js "hidden", .hidden),
    (js "focus", .focus), (js "blur", .blur), (js "heartbeat", .heartbeat),
    (js "interaction", .interaction), (js "ready", .ready), (js "play", .play),
    (js "pause", .pause), (js "buffer_start", .bufferStart), (js "buffer_end", .bufferEnd),
    (js "seek", .seek), (js "rate", .rate), (js "position", .position), (js "ended", .ended),
    (js "provider_error", .providerError), (js "departed", .departed),
    (js "returned", .returned), (js "disconnect", .disconnect),
    (js "accessibility_alternative", .accessibilityAlternative)]

def PLAYER_EVENTS : List EventType :=
  [.ready, .play, .pause, .bufferStart, .bufferEnd, .seek, .rate, .position, .ended,
    .providerError]

def FRAME_EVENTS : List EventType :=
  [.presented, .frameLoaded, .frameError, .visible, .hidden, .focus, .blur, .heartbeat,
    .interaction, .disconnect, .accessibilityAlternative]

def LINK_EVENTS : List EventType :=
  [.presented, .focus, .blur, .heartbeat, .interaction, .departed, .returned, .disconnect,
    .accessibilityAlternative]

def allowedEventTypes (capability : JsString) : List EventType :=
  if capability = js "instrumented_player" then FRAME_EVENTS ++ PLAYER_EVENTS
  else if capability ∈ [js "version_aware_preview", js "generic_embed"] then FRAME_EVENTS
  else LINK_EVENTS

structure EventDetail where
  code : Option JsString
  message : Option JsString
  providerEvent : Option JsString

/-- A playback rate in thousandths. -/
abbrev RateMilli := { rate : ℕ // rate ≤ 16000 }

/-- A normalized event. What its type requires is there. -/
structure MediaEvent where
  type : EventType
  detail : Option EventDetail
  durationMilliseconds : Option ℕ
  fromMilliseconds : Option ℕ
  id : JsString
  monotonicMs : ℕ
  playbackRateMilli : Option RateMilli
  positionMilliseconds : Option ℕ
  sequence : ℕ
  toMilliseconds : Option ℕ
  position_given : type = .position → positionMilliseconds ≠ none
  seek_given : type = .seek → fromMilliseconds ≠ none ∧ toMilliseconds ≠ none
  rate_given : type = .rate → playbackRateMilli ≠ none

structure MediaBatch where
  activityId : JsString
  batchId : JsString
  events : List MediaEvent
  handle : JsString
  interactionId : JsString
  telemetrySessionId : JsString

/-! ## Validation -/

def invalidTelemetry (message : JsString) : Failure := ⟨js "INVALID_MEDIA_TELEMETRY", message⟩

def strictTelemetryObject := strictObjectWith invalidTelemetry

def outsideRange (field : JsString) : Failure :=
  invalidTelemetry (field ++ js " is outside the allowed range.")

def responseToken (value : Value) (field : JsString) (maximum : ℕ) : Checked JsString :=
  match value with
  | .string text =>
      if trim text = [] ∨ text.length > maximum ∨ text.any (fun unit => unit.val ≤ 0x1F) then
        .error (invalidTelemetry (field ++ js " is invalid."))
      else .ok text
  | _ => .error (invalidTelemetry (field ++ js " is invalid."))

def optionalResponseString (value : Value) (maximum : ℕ) : Checked (Option JsString) :=
  match value with
  | .undefined | .null | .string [] => .ok none
  | .string text =>
      if text.length > maximum ∨ (0 : CodeUnit) ∈ text then
        .error (invalidTelemetry (js "An event detail value is invalid."))
      else .ok (some text)
  | _ => .error (invalidTelemetry (js "An event detail value is invalid."))

def safeTelemetryInteger (value : Value) (field : JsString) (minimum maximum : ℕ) : Checked ℕ :=
  match value with
  | .number number =>
      if number.isSafeInteger then
        let integer := (number.toRat?.getD 0).num
        if integer < minimum ∨ integer > maximum then .error (outsideRange field)
        else .ok integer.toNat
      else .error (outsideRange field)
  | _ => .error (outsideRange field)

/-- `Math.round(value * 1_000)` of a number that is not negative. -/
def thousandths (value : ℚ) : ℕ := (Binary64.mathRound (Binary64.multiply value 1000)).toNat

def optionalTelemetryMilliseconds (value : Value) (field : JsString) : Checked (Option ℕ) :=
  match value with
  | .undefined | .null => .ok none
  | .number number =>
      match number.toRat? with
      | some seconds =>
          if seconds < 0 ∨ seconds > 604800 then .error (outsideRange field)
          else .ok (some (thousandths seconds))
      | none => .error (outsideRange field)
  | _ => .error (outsideRange field)

/-- Rounding to thousandths loses no sign. -/
theorem thousandths_nonneg {value : ℚ} (nonnegative : 0 ≤ value) :
    0 ≤ Binary64.mathRound (Binary64.multiply value 1000) := by
  refine Binary64.le_mathRound ?_
  have scaled : 0 ≤ value * 1000 := by positivity
  rw [Int.cast_zero, Binary64.multiply, Binary64.round]
  refine mul_nonneg ?_ (zpow_nonneg (by norm_num) _)
  have quotient : 0 ≤ value * 1000 / 2 ^ Binary64.lastBit (value * 1000) :=
    div_nonneg scaled (zpow_nonneg (by norm_num) _)
  have low : 0 ≤ ⌊value * 1000 / 2 ^ Binary64.lastBit (value * 1000)⌋ := Int.floor_nonneg.mpr quotient
  unfold Binary64.roundHalfEven
  dsimp only
  split_ifs <;> exact_mod_cast (by omega)

theorem thousandths_rate {value : ℚ} (lower : 0 ≤ value) (upper : value ≤ 16) :
    thousandths value ≤ 16000 := by
  have size : |value * 1000| < 2 ^ 14 := by
    rw [abs_of_nonneg (by positivity)]
    linarith
  have near := (abs_le.mp (Binary64.round_distance_lt size (by norm_num))).2
  have bound : Binary64.mathRound (Binary64.multiply value 1000) < 16001 := by
    unfold Binary64.mathRound Binary64.multiply
    rw [Int.floor_lt]
    push_cast
    norm_num at near
    linarith
  unfold thousandths
  omega

/-- The double `0.1`. -/
def lowestRate : ℚ := Binary64.round (1 / 10)

theorem lowestRate_nonneg : 0 ≤ lowestRate := by
  decide +kernel

def optionalTelemetryRate (value : Value) (field : JsString) : Checked (Option RateMilli) :=
  match value with
  | .undefined | .null => .ok none
  | .number number =>
      match number.toRat? with
      | some rate =>
          if range : rate < lowestRate ∨ rate > 16 then .error (outsideRange field)
          else .ok (some ⟨thousandths rate, thousandths_rate
            (lowestRate_nonneg.trans (not_lt.mp fun low => range (.inl low)))
            (not_lt.mp fun high => range (.inr high))⟩)
      | none => .error (outsideRange field)
  | _ => .error (outsideRange field)

def normalizeEventDetail (value : Value) : Checked (Option EventDetail) :=
  match value with
  | .undefined => .ok none
  | _ => do
      let input ← strictTelemetryObject value (js "event detail")
        [js "code", js "message", js "providerEvent"]
      let code ← optionalResponseString (Value.member input (js "code")) 128
      let message ← optionalResponseString (Value.member input (js "message")) 500
      let providerEvent ← optionalResponseString (Value.member input (js "providerEvent")) 128
      return some { code, message, providerEvent }

def normalizeMediaEvent (value : Value) (index : ℕ) : Checked MediaEvent := do
  let input ← strictTelemetryObject value (js "media event " ++ decimal (index + 1))
    [js "detail", js "durationSeconds", js "fromSeconds", js "id", js "monotonicMs",
      js "playbackRate", js "positionSeconds", js "sequence", js "toSeconds", js "type"]
  let text ← responseToken (Value.member input (js "type")) (js "event.type") 64
  match MEDIA_EVENT_TYPES.lookup text with
  | none => .error (invalidTelemetry (js "The media event type is unsupported."))
  | some type =>
      let detail ← normalizeEventDetail (Value.member input (js "detail"))
      let durationMilliseconds ← optionalTelemetryMilliseconds
        (Value.member input (js "durationSeconds")) (js "durationSeconds")
      let fromMilliseconds ← optionalTelemetryMilliseconds
        (Value.member input (js "fromSeconds")) (js "fromSeconds")
      let id ← responseToken (Value.member input (js "id")) (js "event.id") 128
      let monotonicMs ← safeTelemetryInteger (Value.member input (js "monotonicMs"))
        (js "monotonicMs") 0 604800000
      let playbackRateMilli ← optionalTelemetryRate (Value.member input (js "playbackRate"))
        (js "playbackRate")
      let positionMilliseconds ← optionalTelemetryMilliseconds
        (Value.member input (js "positionSeconds")) (js "positionSeconds")
      let sequence ← safeTelemetryInteger (Value.member input (js "sequence"))
        (js "sequence") 1 10000000
      let toMilliseconds ← optionalTelemetryMilliseconds
        (Value.member input (js "toSeconds")) (js "toSeconds")
      if position : type = .position ∧ positionMilliseconds = none then
        .error (invalidTelemetry (js "A position event requires positionSeconds."))
      else if seek : type = .seek ∧ (fromMilliseconds = none ∨ toMilliseconds = none) then
        .error (invalidTelemetry (js "A seek event requires fromSeconds and toSeconds."))
      else if rate : type = .rate ∧ playbackRateMilli = none then
        .error (invalidTelemetry (js "A rate event requires playbackRate."))
      else return {
        type
        detail
        durationMilliseconds
        fromMilliseconds
        id
        monotonicMs
        playbackRateMilli
        positionMilliseconds
        sequence
        toMilliseconds
        position_given := fun given absent => position ⟨given, absent⟩
        seek_given := fun given => ⟨fun absent => seek ⟨given, .inl absent⟩,
          fun absent => seek ⟨given, .inr absent⟩⟩
        rate_given := fun given absent => rate ⟨given, absent⟩ }

/-- The second event continues the first. -/
def Continues (earlier later : MediaEvent) : Prop :=
  earlier.sequence < later.sequence ∧ earlier.monotonicMs ≤ later.monotonicMs

instance : DecidableRel Continues :=
  fun _ _ => inferInstanceAs (Decidable (_ ∧ _))

/-- The items of a batch, one to a hundred. -/
def batchItems (events : Value) : Checked (List Value) :=
  match events with
  | .array items =>
      if items.isEmpty ∨ items.length > 100 then
        .error (invalidTelemetry (js "A media batch requires 1 to 100 events."))
      else .ok items
  | _ => .error (invalidTelemetry (js "A media batch requires 1 to 100 events."))

def validateMediaEventBatch (value : Value) (content : ExternalMediaContent) :
    Checked MediaBatch := do
  let input ← strictTelemetryObject value (js "media event batch")
    [js "activityId", js "batchId", js "events", js "handle", js "interactionId",
      js "telemetrySessionId"]
  let items ← batchItems (Value.member input (js "events"))
  let events ← items.zipIdx.mapM fun entry => normalizeMediaEvent entry.1 entry.2
  if ¬ events.IsChain Continues then
    .error (invalidTelemetry
      (js "Media event sequence and monotonic time must increase within a batch."))
  else if ¬ (events.map MediaEvent.id).Nodup then
    .error (invalidTelemetry (js "A media event ID cannot repeat within a batch."))
  else if events.any fun event =>
      event.type ∉ allowedEventTypes content.descriptor.providerDescriptor.capability then
    .error (invalidTelemetry
      (js "The media capability does not support one or more supplied events."))
  else
    let activityId ← responseToken (Value.member input (js "activityId")) (js "activityId") 64
    let batchId ← responseToken (Value.member input (js "batchId")) (js "batchId") 128
    let handle ← responseToken (Value.member input (js "handle")) (js "handle") 64
    let interactionId ← responseToken (Value.member input (js "interactionId"))
      (js "interactionId") 128
    let telemetrySessionId ← responseToken (Value.member input (js "telemetrySessionId"))
      (js "telemetrySessionId") 128
    return { activityId, batchId, events, handle, interactionId, telemetrySessionId }

/-! ## Recording -/

/-- A media_event row. -/
structure MediaRow where
  batchId : JsString
  interactionId : JsString
  telemetrySessionId : JsString
  event : MediaEvent

def EngineStoreError (code : JsString) : Failure := ⟨code, code⟩

/-- `order by "sequence" desc` -/
def descending (left right : MediaRow) : Prop := right.event.sequence ≤ left.event.sequence

instance : DecidableRel descending :=
  fun left right => inferInstanceAs (Decidable (right.event.sequence ≤ left.event.sequence))

instance : Std.Total descending :=
  ⟨fun left right => le_total right.event.sequence left.event.sequence⟩

instance : IsTrans MediaRow descending := ⟨fun _ _ _ one other => other.trans one⟩

/-- The row of a session with the highest sequence. -/
def lastOfSession (rows : List MediaRow) (telemetrySessionId : JsString) : Option MediaRow :=
  ((rows.filter fun row => row.telemetrySessionId = telemetrySessionId).insertionSort
    descending).head?

/-- What recordParticipantEvents does to the rows of an activity. -/
def recordParticipantEvents (maxEventsPerActivity : ℕ) (content : ExternalMediaContent)
    (payload : Value) (rows : List MediaRow) : Checked (List MediaRow) := do
  let input ← validateMediaEventBatch payload content
  if rows.any fun row => row.batchId = input.batchId then .ok rows
  else if rows.length + input.events.length > maxEventsPerActivity then
    .error (EngineStoreError (js "media_event_limit_reached"))
  else
    let added := input.events.map fun event =>
      ⟨input.batchId, input.interactionId, input.telemetrySessionId, event⟩
    match lastOfSession rows input.telemetrySessionId, input.events with
    | some previous, first :: _ =>
        if first.sequence ≤ previous.event.sequence ∨
            first.monotonicMs < previous.event.monotonicMs then
          .error (EngineStoreError (js "media_event_sequence_conflict"))
        else .ok (rows ++ added)
    | _, _ => .ok (rows ++ added)

/-- The rows of an activity, accepted batch by batch. -/
inductive Recorded (maxEventsPerActivity : ℕ) (content : ExternalMediaContent) :
    List MediaRow → Prop
  | none : Recorded maxEventsPerActivity content []
  | batch {rows next : List MediaRow} {payload : Value}
      (earlier : Recorded maxEventsPerActivity content rows)
      (recorded : recordParticipantEvents maxEventsPerActivity content payload rows = .ok next) :
      Recorded maxEventsPerActivity content next

/-- Within a session each row continues the earlier ones. -/
def InOrder (rows : List MediaRow) : Prop :=
  rows.Pairwise fun earlier later => earlier.telemetrySessionId = later.telemetrySessionId →
    Continues earlier.event later.event

theorem Continues.trans {first second third : MediaEvent} (one : Continues first second)
    (other : Continues second third) : Continues first third :=
  ⟨one.1.trans other.1, one.2.trans other.2⟩

theorem lastOfSession_spec {rows : List MediaRow} {session : JsString} :
    (lastOfSession rows session = none → ∀ row ∈ rows, row.telemetrySessionId ≠ session) ∧
      ∀ previous, lastOfSession rows session = some previous →
        previous ∈ rows ∧ previous.telemetrySessionId = session ∧
        ∀ row ∈ rows, row.telemetrySessionId = session →
          row.event.sequence ≤ previous.event.sequence := by
  unfold lastOfSession
  generalize inSession : rows.filter (fun row => row.telemetrySessionId = session) = mine
  have member (row : MediaRow) : row ∈ mine ↔ row ∈ rows ∧ row.telemetrySessionId = session := by
    rw [← inSession, List.mem_filter, decide_eq_true_iff]
  have perm := List.perm_insertionSort descending mine
  have sorted := List.pairwise_insertionSort descending mine
  generalize mine.insertionSort descending = arranged at perm sorted
  cases arranged with
  | nil =>
      refine ⟨fun _ row inside same => ?_, fun _ => nofun⟩
      exact List.not_mem_nil (perm.mem_iff.mpr ((member row).mpr ⟨inside, same⟩))
  | cons head rest =>
      refine ⟨nofun, fun previous found => ?_⟩
      cases found
      obtain ⟨inside, same⟩ := (member head).mp (perm.mem_iff.mp List.mem_cons_self)
      refine ⟨inside, same, fun row there mineToo => ?_⟩
      rcases List.mem_cons.mp (perm.mem_iff.mpr ((member row).mpr ⟨there, mineToo⟩)) with
        rfl | later
      · exact le_rfl
      · exact (List.pairwise_cons.mp sorted).1 row later

/-- In an ordered list a row below the last of its session comes before it. -/
theorem InOrder.continues {rows : List MediaRow} (ordered : InOrder rows) {row last : MediaRow}
    (there : row ∈ rows) (here : last ∈ rows)
    (same : row.telemetrySessionId = last.telemetrySessionId)
    (below : row.event.sequence ≤ last.event.sequence) :
    row.event.monotonicMs ≤ last.event.monotonicMs := by
  have either : row = last ∨ Continues row.event last.event ∨ Continues last.event row.event := by
    by_cases equal : row = last
    · exact .inl equal
    · refine .inr ?_
      have symmetric : Std.Symm fun first second : MediaRow =>
          first.telemetrySessionId = second.telemetrySessionId →
            Continues first.event second.event ∨ Continues second.event first.event :=
        ⟨fun _ _ related sameToo => (related sameToo.symm).symm⟩
      have weakened : rows.Pairwise fun earlier later : MediaRow =>
          earlier.telemetrySessionId = later.telemetrySessionId →
            Continues earlier.event later.event ∨ Continues later.event earlier.event :=
        ordered.imp fun related sameToo => .inl (related sameToo)
      exact weakened.forall there here equal same
  rcases either with rfl | before | after
  · exact le_rfl
  · exact before.2
  · exact absurd after.1 (not_lt.mpr below)

/-- A recorded batch leaves the rows as they were or appends its own, in order. -/
theorem recordParticipantEvents_ok {maxEventsPerActivity : ℕ} {content : ExternalMediaContent}
    {payload : Value} {rows next : List MediaRow}
    (recorded : recordParticipantEvents maxEventsPerActivity content payload rows = .ok next) :
    next = rows ∨ ∃ input : MediaBatch, input.events.IsChain Continues ∧
      next.length ≤ maxEventsPerActivity ∧
      next = rows ++ input.events.map (fun event =>
        ⟨input.batchId, input.interactionId, input.telemetrySessionId, event⟩) ∧
      ∀ previous, lastOfSession rows input.telemetrySessionId = some previous →
        ∀ first ∈ input.events.head?, Continues previous.event first := by
  obtain ⟨input, valid, recorded⟩ := bind_ok recorded
  have chain : input.events.IsChain Continues := by
    obtain ⟨_, _, valid⟩ := bind_ok valid
    obtain ⟨items, _, valid⟩ := bind_ok valid
    obtain ⟨events, _, valid⟩ := bind_ok valid
    split at valid
    · cases valid
    rename_i chained
    split at valid
    · cases valid
    split at valid
    · cases valid
    obtain ⟨_, _, valid⟩ := bind_ok valid
    obtain ⟨_, _, valid⟩ := bind_ok valid
    obtain ⟨_, _, valid⟩ := bind_ok valid
    obtain ⟨_, _, valid⟩ := bind_ok valid
    obtain ⟨_, _, valid⟩ := bind_ok valid
    cases valid
    exact not_not.mp chained
  split at recorded
  · cases recorded
    exact .inl rfl
  split at recorded
  · cases recorded
  rename_i few
  refine .inr ⟨input, chain, ?_⟩
  dsimp only at recorded
  have appended : next = rows ++ input.events.map (fun event =>
      ⟨input.batchId, input.interactionId, input.telemetrySessionId, event⟩) ∧
      ∀ previous, lastOfSession rows input.telemetrySessionId = some previous →
        ∀ first ∈ input.events.head?, Continues previous.event first := by
    split at recorded
    · rename_i previous first rest last events
      split at recorded
      · cases recorded
      rename_i continues
      cases recorded
      refine ⟨rfl, fun other found head isHead => ?_⟩
      rw [last] at found
      cases found
      rw [events] at isHead
      cases isHead
      rw [not_or, not_le, not_lt] at continues
      exact continues
    · rename_i apart
      cases recorded
      refine ⟨rfl, fun other found head isHead => ?_⟩
      obtain ⟨rest, events⟩ := List.head?_eq_some_iff.mp isHead
      exact (apart other head rest found events).elim
  refine ⟨?_, appended⟩
  rw [appended.1, List.length_append, List.length_map]
  omega

theorem recordParticipantEvents_inOrder {maxEventsPerActivity : ℕ}
    {content : ExternalMediaContent} {payload : Value} {rows next : List MediaRow}
    (recorded : recordParticipantEvents maxEventsPerActivity content payload rows = .ok next)
    (ordered : InOrder rows) : InOrder next := by
  rcases recordParticipantEvents_ok recorded with rfl | ⟨input, chain, _, rfl, continues⟩
  · exact ordered
  have increasing : input.events.Pairwise Continues := by
    have transitive : IsTrans MediaEvent Continues := ⟨fun _ _ _ => Continues.trans⟩
    exact List.isChain_iff_pairwise.mp chain
  refine List.pairwise_append.mpr ⟨ordered, List.pairwise_map.mpr (increasing.imp ?_), ?_⟩
  · intro _ _ later _
    exact later
  · intro row there added inside same
    obtain ⟨event, member, rfl⟩ := List.mem_map.mp inside
    cases last : lastOfSession rows input.telemetrySessionId with
    | none => exact absurd same (lastOfSession_spec.1 last row there)
    | some previous =>
        obtain ⟨here, mine, highest⟩ := lastOfSession_spec.2 previous last
        have below := highest row there same
        have earlier := ordered.continues there here (same.trans mine.symm) below
        cases events : input.events with
        | nil => rw [events] at member; cases member
        | cons first rest =>
            have step := continues previous last first (by rw [events]; rfl)
            rw [events] at member increasing
            rcases List.mem_cons.mp member with rfl | behind
            · exact ⟨below.trans_lt step.1, earlier.trans step.2⟩
            · have onward := (List.pairwise_cons.mp increasing).1 event behind
              exact ⟨below.trans_lt (step.1.trans onward.1), earlier.trans (step.2.trans onward.2)⟩

/-- Rows that were accepted batch by batch are in order within each session. -/
theorem Recorded.inOrder {maxEventsPerActivity : ℕ} {content : ExternalMediaContent}
    {rows : List MediaRow} (recorded : Recorded maxEventsPerActivity content rows) :
    InOrder rows := by
  induction recorded with
  | none => exact .nil
  | batch _ accepted inductionHypothesis =>
      exact recordParticipantEvents_inOrder accepted inductionHypothesis

end Vasi.MediaTelemetry
