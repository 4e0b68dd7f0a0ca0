import Vasi.Intervals
import Vasi.MediaTelemetry

/-!
# The media summary

calculateMediaSummary groups the recorded events by telemetry session, walks each
session in the order of its sequence, and adds up what it finds: the time the page was
open, visible and engaged, the gaps, and the positions that were played. From these it
settles on a duration and decides whether playback is complete.

A recorded event already has its milliseconds, so reading it back leaves it as it is.
The activity's limit on events keeps every sum below 2^53, and sums are exact here.

Most of the summary does not depend on the order of the rows. The duration does when
the descriptor has none: it is the last one reported in the session that the rows show
last, if all reported durations agree with it up to a hundredth. The summary's constant
members are left out.
-/
namespace Vasi.MediaSummary

open JsValue Media MediaTelemetry Intervals MeasureTheory

/-- A playback position with the rate at that moment. -/
structure Sample where
  monotonicMs : ℕ
  playbackRateMilli : ℕ
  positionMilliseconds : ℕ

/-- What is known within one telemetry session. -/
structure Session where
  previous : Option ℕ := none
  opened : Bool := false
  visible : Bool := false
  focused : Bool := false
  playing : Bool := false
  buffering : Bool := false
  playbackRateMilli : ℕ := 1000
  lastInteractionMs : Option ℕ := none
  sample : Option Sample := none
  sawDisconnect : Bool := false
  sawPresented : Bool := false

/-- What is added up over all sessions. -/
structure Totals where
  openMilliseconds : ℕ := 0
  visibleMilliseconds : ℕ := 0
  engagedMilliseconds : ℕ := 0
  gapCount : ℕ := 0
  uncreditedGapMilliseconds : ℕ := 0
  seekCount : ℕ := 0
  skippedMilliseconds : ℕ := 0
  endedObserved : Bool := false
  providerErrorCount : ℕ := 0
  disconnectCount : ℕ := 0
  incompleteSessionCount : ℕ := 0
  intervals : List (ℕ × ℕ) := []
  observedDurations : List ℕ := []

section

variable (policy : TelemetryPolicy)

/-- The credit for the time since the previous event. -/
def creditTime (event : MediaEvent) (session : Session) (totals : Totals) : Session × Totals :=
  match session.previous with
  | none => (session, totals)
  | some previous =>
      if event.monotonicMs < previous then
        (session, { totals with gapCount := totals.gapCount + 1 })
      else
        let delta := event.monotonicMs - previous
        if delta > policy.maxCreditedGapSeconds * 1000 then
          ({ session with sample := none }, { totals with
            gapCount := totals.gapCount + 1
            uncreditedGapMilliseconds := totals.uncreditedGapMilliseconds + delta })
        else
          let seen := session.opened && session.visible && session.focused
          let engaged := seen && session.lastInteractionMs.any fun last =>
            (previous : ℤ) - last ≤ policy.idleSeconds * 1000
          (session, { totals with
            openMilliseconds := totals.openMilliseconds + if session.opened then delta else 0
            visibleMilliseconds := totals.visibleMilliseconds + if seen then delta else 0
            engagedMilliseconds := totals.engagedMilliseconds + if engaged then delta else 0 })

/-- The double that bounds the advance. -/
def maximumPlausibleAdvance (elapsed : ℤ) (playbackRateMilli : ℕ) : ℚ :=
  let rate := Binary64.divide (max 1000 playbackRateMilli : ℕ) 1000
  Binary64.round
    (Binary64.multiply (Binary64.multiply (max 0 elapsed : ℤ) rate) (3 / 2) + 1500)

def elapsed (sample next : Sample) : ℤ := (next.monotonicMs : ℤ) - sample.monotonicMs

def advance (sample next : Sample) : ℤ :=
  (next.positionMilliseconds : ℤ) - sample.positionMilliseconds

/-- The advance from one sample to the next is plausible. -/
def Plausible (sample next : Sample) : Prop :=
  0 ≤ elapsed sample next ∧ elapsed sample next ≤ policy.maxCreditedGapSeconds * 1000 ∧
    0 ≤ advance sample next ∧
    (advance sample next : ℚ) ≤
      maximumPlausibleAdvance (elapsed sample next) sample.playbackRateMilli

instance (sample next : Sample) : Decidable (Plausible policy sample next) :=
  inferInstanceAs (Decidable (_ ∧ _))

/-- The credit between two samples. -/
def creditAdvance (sample next : Sample) (totals : Totals) : Totals :=
  if Plausible policy sample next then
    if advance sample next > 0 then { totals with
      intervals := totals.intervals ++ [(sample.positionMilliseconds, next.positionMilliseconds)] }
    else totals
  else if (advance sample next).natAbs > 250 then { totals with
    gapCount := totals.gapCount + 1
    skippedMilliseconds := totals.skippedMilliseconds + (advance sample next).natAbs }
  else totals

/-- The position of an event that is taken as a sample. -/
def sampledPosition (event : MediaEvent) : Option ℕ :=
  if event.type ∈ [.position, .heartbeat, .pause, .ended] then event.positionMilliseconds else none

def creditPosition (event : MediaEvent) (playbackWasCreditable : Bool) (session : Session)
    (totals : Totals) : Session × Totals :=
  match sampledPosition event with
  | none => (session, totals)
  | some position =>
      let next : Sample := ⟨event.monotonicMs, session.playbackRateMilli, position⟩
      ({ session with sample := some next }, match session.sample with
        | some sample =>
            if playbackWasCreditable then creditAdvance policy sample next totals else totals
        | none => totals)

/-- A reported duration. -/
def reportDuration (event : MediaEvent) (totals : Totals) : Totals :=
  { totals with observedDurations := totals.observedDurations ++ event.durationMilliseconds.toList }

/-- What the type of an event changes. A seek has both ends and a rate event its rate. -/
def follow (event : MediaEvent) (session : Session) (totals : Totals) : Session × Totals :=
  match event.type with
  | .presented => ({ session with opened := true, sawPresented := true }, totals)
  | .visible => ({ session with visible := true }, totals)
  | .hidden => ({ session with visible := false }, totals)
  | .focus => ({ session with focused := true }, totals)
  | .blur => ({ session with focused := false }, totals)
  | .interaction => ({ session with lastInteractionMs := some event.monotonicMs }, totals)
  | .play => ({ session with playing := true, buffering := false }, totals)
  | .pause => ({ session with playing := false }, totals)
  | .bufferStart => ({ session with buffering := true }, totals)
  | .bufferEnd => ({ session with buffering := false }, totals)
  | .rate => ({ session with playbackRateMilli :=
      (event.playbackRateMilli.map Subtype.val).getD session.playbackRateMilli }, totals)
  | .seek => ({ session with sample := none }, { totals with
      seekCount := totals.seekCount + 1
      skippedMilliseconds := totals.skippedMilliseconds +
        ((event.toMilliseconds.getD 0 : ℤ) - event.fromMilliseconds.getD 0).natAbs })
  | .ended => ({ session with playing := false }, { totals with endedObserved := true })
  | .providerError | .frameError =>
      (session, { totals with providerErrorCount := totals.providerErrorCount + 1 })
  | .disconnect => ({ session with opened := false, sawDisconnect := true },
      { totals with disconnectCount := totals.disconnectCount + 1 })
  | _ => (session, totals)

/-- `playing && !buffering && visible` -/
def Session.creditable (session : Session) : Bool :=
  session.playing && !session.buffering && session.visible

/-- One round of the walk over a session. -/
def visit (state : Session × Totals) (event : MediaEvent) : Session × Totals :=
  let playbackWasCreditable := state.1.creditable
  let timed := creditTime policy event state.1 state.2
  let positioned := creditPosition policy event playbackWasCreditable timed.1
    (reportDuration event timed.2)
  let followed := follow event positioned.1 positioned.2
  ({ followed.1 with previous := some event.monotonicMs }, followed.2)

/-- `left.sequence - right.sequence` -/
def bySequence (left right : MediaEvent) : Prop := left.sequence ≤ right.sequence

instance : DecidableRel bySequence :=
  fun left right => inferInstanceAs (Decidable (left.sequence ≤ right.sequence))

instance : Std.Total bySequence := ⟨fun left right => le_total left.sequence right.sequence⟩

instance : IsTrans MediaEvent bySequence := ⟨fun _ _ _ one other => one.trans other⟩

/-- The walk over the events of a session. -/
def visitGroup (totals : Totals) (group : List MediaEvent) : Totals :=
  let final := (group.insertionSort bySequence).foldl (visit policy) ({}, totals)
  if final.1.sawPresented && !final.1.sawDisconnect then
    { final.2 with incompleteSessionCount := final.2.incompleteSessionCount + 1 }
  else final.2

end

/-- `event.telemetrySessionId || event.interactionId || "unknown"` -/
def sessionKey (row : MediaRow) : JsString :=
  if row.telemetrySessionId ≠ [] then row.telemetrySessionId
  else if row.interactionId ≠ [] then row.interactionId
  else js "unknown"

/-- A map from session keys to events, in the order of insertion. -/
abbrev Groups := List (JsString × List MediaEvent)

def addToGroup (key : JsString) (event : MediaEvent) : Groups → Groups
  | [] => [(key, [event])]
  | (other, group) :: rest =>
      if other = key then (other, group ++ [event]) :: rest
      else (other, group) :: addToGroup key event rest

def grouped (rows : List MediaRow) : Groups :=
  rows.foldl (fun groups row => addToGroup (sessionKey row) row.event groups) []

def collect (policy : TelemetryPolicy) (rows : List MediaRow) : Totals :=
  (grouped rows).foldl (fun totals group => visitGroup policy totals group.2) {}

/-! ## The summary -/

def byStart (left right : ℕ × ℕ) : Prop := left.1 ≤ right.1

instance : DecidableRel byStart :=
  fun left right => inferInstanceAs (Decidable (left.1 ≤ right.1))

instance : Std.Total byStart := ⟨fun left right => le_total left.1 right.1⟩

instance : IsTrans (ℕ × ℕ) byStart := ⟨fun _ _ _ one other => other.trans' one⟩

/-- The sweep over sorted intervals, with the interval that is open. -/
def sweep : ℕ × ℕ → List (ℕ × ℕ) → ℕ
  | current, [] => current.2 - current.1
  | current, interval :: rest =>
      if interval.1 ≤ current.2 then sweep (current.1, max current.2 interval.2) rest
      else current.2 - current.1 + sweep interval rest

def intervalUnionMilliseconds (intervals : List (ℕ × ℕ)) : ℕ :=
  match (intervals.filter fun interval => interval.1 < interval.2).insertionSort byStart with
  | [] => 0
  | first :: rest => sweep first rest

/-- The sweep measures the region of sorted intervals. -/
theorem sweep_volume {current : ℕ × ℕ} {rest : List (ℕ × ℕ)}
    (sorted : (current :: rest).Pairwise byStart) :
    (sweep current rest : ENNReal) = volume (region (current :: rest)) := by
  induction rest generalizing current with
  | nil =>
      rw [volume_region_apart (by simp), sweep]
      simp [region]
  | cons next rest inductionHypothesis =>
      obtain ⟨first, others⟩ := List.pairwise_cons.mp sorted
      have after : current.1 ≤ next.1 := first next List.mem_cons_self
      rw [sweep]
      split
      · rename_i meets
        rw [region_merge rest after meets]
        refine inductionHypothesis (List.pairwise_cons.mpr ⟨fun other member => ?_, ?_⟩)
        · exact first other (List.mem_cons_of_mem _ member)
        · exact (List.pairwise_cons.mp others).2
      · rename_i apart
        have behind : ∀ other ∈ next :: rest, current.2 ≤ other.1 := by
          intro other member
          have start : next.1 ≤ other.1 := by
            rcases List.mem_cons.mp member with rfl | later
            · exact le_rfl
            · exact (List.pairwise_cons.mp others).1 other later
          omega
        rw [Nat.cast_add, inductionHypothesis others, volume_region_apart behind]

/-- The union is measured, in whatever order the intervals come. -/
theorem intervalUnionMilliseconds_volume (intervals : List (ℕ × ℕ)) :
    (intervalUnionMilliseconds intervals : ENNReal) = volume (region intervals) := by
  rw [← region_filter intervals]
  unfold intervalUnionMilliseconds
  have perm := List.perm_insertionSort byStart
    (intervals.filter fun interval => interval.1 < interval.2)
  have sorted := List.pairwise_insertionSort byStart
    (intervals.filter fun interval => interval.1 < interval.2)
  rw [← region_perm perm]
  split
  · rename_i empty
    rw [empty]
    simp [region]
  · rename_i first rest arranged
    rw [arranged] at sorted ⊢
    exact sweep_volume sorted

theorem intervalUnionMilliseconds_perm {first second : List (ℕ × ℕ)}
    (same : first.Perm second) :
    intervalUnionMilliseconds first = intervalUnionMilliseconds second := by
  have equal := intervalUnionMilliseconds_volume first
  rw [region_perm same, ← intervalUnionMilliseconds_volume] at equal
  exact_mod_cast equal

theorem intervalUnionMilliseconds_le (intervals : List (ℕ × ℕ)) :
    intervalUnionMilliseconds intervals ≤ totalLength intervals := by
  have bound := volume_region_le intervals
  rw [← intervalUnionMilliseconds_volume] at bound
  exact_mod_cast bound

/-- The candidate, if every value is within its tolerance. -/
def settle (values : List ℕ) (candidate : ℕ) : Option ℕ :=
  let tolerance := max 1 (Binary64.multiply candidate (Binary64.round (1 / 100)))
  if values.all fun value => |((value : ℤ) - candidate : ℚ)| ≤ tolerance then some candidate
  else none

def consistentDuration (values : List ℕ) : Option ℕ :=
  let valid := values.filter fun value => 0 < value
  match valid.getLast? with
  | none => none
  | some candidate => settle valid candidate

structure Engagement where
  engagedMilliseconds : ℕ
  openMilliseconds : ℕ
  visibleMilliseconds : ℕ

structure Gaps where
  count : ℕ
  uncreditedMilliseconds : ℕ

structure Playback where
  completionMet : Bool
  durationMilliseconds : Option ℤ
  durationSource : JsString
  endedObserved : Bool
  percentBasisPoints : ℤ
  providerErrorCount : ℕ
  seekCount : ℕ
  skippedMilliseconds : ℕ
  thresholdPercent : ℕ
  uniqueMilliseconds : ℕ

structure Confidence where
  level : JsString
  limitations : List JsString

structure SessionIntegrity where
  disconnectCount : ℕ
  incompleteSessionCount : ℕ

structure Summary where
  telemetryPolicy : TelemetryPolicy
  capability : JsString
  confidence : Confidence
  engagement : Engagement
  eventCount : ℕ
  gaps : Gaps
  playback : Playback
  sessionCount : ℕ
  sessionIntegrity : SessionIntegrity

/-- The duration of the descriptor, if it has one that is not zero. -/
def configuredDuration (content : ExternalMediaContent) : Option ℤ :=
  content.descriptor.durationMilliseconds.filter fun duration => duration ≠ 0

def durationSource (content : ExternalMediaContent) (observed : Option ℕ) : JsString :=
  if (configuredDuration content).isSome then js "workflow_descriptor"
  else if observed.isSome then js "provider_player_reported"
  else js "unavailable"

def percentBasisPoints (uniqueMilliseconds : ℕ) : Option ℤ → ℤ
  | none => 0
  | some duration => min 10000 (Binary64.mathRound
      (Binary64.multiply (Binary64.divide uniqueMilliseconds duration) 10000))

def limitations (content : ExternalMediaContent) (totals : Totals) (instrumented known : Bool) :
    List JsString :=
  content.descriptor.providerDescriptor.limitations ++
    (if instrumented then []
      else [js "This capability does not provide validated playback events."]) ++
    (if known then [] else
      [js "Media duration was unavailable, so playback completion cannot be calculated."]) ++
    (if totals.gapCount = 0 then [] else
      [js "One or more telemetry gaps or implausible position changes were not credited."]) ++
    (if totals.providerErrorCount = 0 then [] else
      [js "The provider or embed reported one or more errors."]) ++
    (if totals.incompleteSessionCount = 0 then [] else
      [js "One or more telemetry sessions had no disconnect event at the time of calculation; " ++
        js "no time after the last event was credited."]) ++
    [js "Browser telemetry is supporting evidence and does not prove attention or comprehension."]

/-- The summary of what was collected, for an observed duration. -/
def summarize (content : ExternalMediaContent) (eventCount sessionCount : ℕ) (totals : Totals)
    (observed : Option ℕ) : Summary :=
  let uniqueMilliseconds := intervalUnionMilliseconds totals.intervals
  let durationMilliseconds := (configuredDuration content).or (observed.map Int.ofNat)
  let known := durationMilliseconds.isSome
  let percent := percentBasisPoints uniqueMilliseconds durationMilliseconds
  let capability := content.descriptor.providerDescriptor.capability
  let instrumented : Bool := capability = js "instrumented_player"
  let confidence :=
    if !instrumented || eventCount = 0 then js "none"
    else if totals.providerErrorCount ≠ 0 || totals.gapCount ≠ 0 || !known then js "low"
    else js "medium"
  { telemetryPolicy := content.telemetryPolicy
    capability
    confidence := ⟨confidence, (limitations content totals instrumented known).eraseDups⟩
    engagement :=
      ⟨totals.engagedMilliseconds, totals.openMilliseconds, totals.visibleMilliseconds⟩
    eventCount
    gaps := ⟨totals.gapCount, totals.uncreditedGapMilliseconds⟩
    playback := {
      completionMet := instrumented && known &&
        decide (percent ≥ content.completionPolicy.thresholdPercent * 100) &&
        decide (uniqueMilliseconds ≥ content.completionPolicy.minimumUniqueSeconds * 1000)
      durationMilliseconds
      durationSource := durationSource content observed
      endedObserved := totals.endedObserved
      percentBasisPoints := percent
      providerErrorCount := totals.providerErrorCount
      seekCount := totals.seekCount
      skippedMilliseconds := totals.skippedMilliseconds
      thresholdPercent := content.completionPolicy.thresholdPercent
      uniqueMilliseconds }
    sessionCount
    sessionIntegrity := ⟨totals.disconnectCount, totals.incompleteSessionCount⟩ }

def calculateMediaSummary (content : ExternalMediaContent) (rows : List MediaRow) : Summary :=
  let totals := collect content.telemetryPolicy rows
  summarize content rows.length (grouped rows).length totals
    (consistentDuration totals.observedDurations)

end Vasi.MediaSummary
