import Vasi.MediaOrder

/-!
# Playback credit

What the walk over a session credits. Between two positions in a row, with no seek and
no gap above the limit between them, the advance is credited if it is plausible and the
player is playing, not buffering and visible just before the second position. Nothing is
asked about the time between them, so a video that is hidden, paused or buffering there
and resumed before the second position is credited all the same, against the rule that
hidden playback receives no credit. A rate below normal counts as normal.

The events of a session decide by themselves what is playing, buffering and visible at
each moment, and at what rate.
-/
namespace Vasi.MediaSummary

open JsValue Validation Media MediaTelemetry Intervals MeasureTheory

/-! ## What the events of a session say -/

/-- What an event of this type makes of a flag, if it concerns it. -/
abbrev Concern := EventType → Option Bool

def setsPlaying : Concern
  | .play => some true
  | .pause | .ended => some false
  | _ => none

def setsBuffering : Concern
  | .bufferStart => some true
  | .play | .bufferEnd => some false
  | _ => none

def setsVisible : Concern
  | .visible => some true
  | .hidden => some false
  | _ => none

/-- The last event that concerns a flag decides. At first it is off. -/
def flag (sets : Concern) (events : List MediaEvent) : Bool :=
  (events.filterMap fun event => sets event.type).getLast?.getD false

/-- Playing, not buffering and visible after these events. -/
def creditable (events : List MediaEvent) : Bool :=
  flag setsPlaying events && !flag setsBuffering events && flag setsVisible events

/-- The rate that an event sets. -/
def setsRate (event : MediaEvent) : Option ℕ :=
  if event.type = .rate then event.playbackRateMilli.map Subtype.val else none

/-- The rate after these events, in thousandths. -/
def rateOf (events : List MediaEvent) : ℕ :=
  (events.filterMap setsRate).getLast?.getD 1000

theorem getLast?_filterMap_snoc {α β : Type} (value : α → Option β) (items : List α) (item : α) :
    ((items ++ [item]).filterMap value).getLast? =
      (value item).or (items.filterMap value).getLast? := by
  rw [List.filterMap_append, List.getLast?_append]
  cases found : value item <;> simp [found]

theorem flag_snoc (sets : Concern) (events : List MediaEvent) (event : MediaEvent) :
    flag sets (events ++ [event]) = (sets event.type).getD (flag sets events) := by
  unfold flag
  rw [getLast?_filterMap_snoc]
  cases sets event.type <;> rfl

theorem rateOf_snoc (events : List MediaEvent) (event : MediaEvent) :
    rateOf (events ++ [event]) = (setsRate event).getD (rateOf events) := by
  unfold rateOf
  rw [getLast?_filterMap_snoc]
  cases setsRate event <;> rfl

/-- No accepted rate is above sixteen. -/
theorem rateOf_le (events : List MediaEvent) : rateOf events ≤ 16000 := by
  induction events using List.reverseRecOn with
  | nil => exact (by decide : 1000 ≤ 16000)
  | append_singleton events event inductionHypothesis =>
      rw [rateOf_snoc, setsRate]
      split
      · cases given : event.playbackRateMilli with
        | none => exact inductionHypothesis
        | some rate => exact rate.2
      · exact inductionHypothesis

/-! ## One event -/

section

variable (policy : TelemetryPolicy)

/-- No gap above the limit between two events. -/
def WithinGap (earlier later : MediaEvent) : Prop :=
  (later.monotonicMs : ℤ) - earlier.monotonicMs ≤ policy.maxCreditedGapSeconds * 1000

instance : DecidableRel (WithinGap policy) :=
  fun _ _ => inferInstanceAs (Decidable (_ ≤ _))

/-- The sample that an event finds. -/
def foundSample (session : Session) (event : MediaEvent) : Option Sample :=
  match session.previous with
  | some previous =>
      if (event.monotonicMs : ℤ) - previous ≤ policy.maxCreditedGapSeconds * 1000 then session.sample
      else none
  | none => session.sample

/-- What an event has credited. -/
def credits (session : Session) (event : MediaEvent) : List (ℕ × ℕ) :=
  match foundSample policy session event, sampledPosition event with
  | some sample, some position =>
      let next : Sample := ⟨event.monotonicMs, session.playbackRateMilli, position⟩
      if session.creditable ∧ Plausible policy sample next ∧ advance sample next > 0 then
        [(sample.positionMilliseconds, position)]
      else []
  | _, _ => []

theorem creditTime_session (event : MediaEvent) (session : Session) (totals : Totals) :
    (creditTime policy event session totals).1 =
      { session with sample := foundSample policy session event } ∧
      (creditTime policy event session totals).2.intervals = totals.intervals := by
  obtain ⟨previous, _, _, _, _, _, _, _, sample, _, _⟩ := session
  cases previous with
  | none => exact ⟨rfl, rfl⟩
  | some previous =>
      simp only [creditTime, foundSample]
      by_cases backwards : event.monotonicMs < previous
      · have within : (event.monotonicMs : ℤ) - previous ≤ policy.maxCreditedGapSeconds * 1000 := by
          omega
        rw [if_pos backwards, if_pos within]
        exact ⟨rfl, rfl⟩
      · rw [if_neg backwards]
        by_cases within : (event.monotonicMs : ℤ) - previous ≤ policy.maxCreditedGapSeconds * 1000
        · rw [if_neg (by omega), if_pos within]
          exact ⟨rfl, rfl⟩
        · rw [if_pos (by omega), if_neg within]
          exact ⟨rfl, rfl⟩

theorem creditAdvance_intervals (sample next : Sample) (totals : Totals) :
    (creditAdvance policy sample next totals).intervals = totals.intervals ++
      if Plausible policy sample next ∧ advance sample next > 0 then
        [(sample.positionMilliseconds, next.positionMilliseconds)] else [] := by
  unfold creditAdvance
  by_cases credible : Plausible policy sample next
  · by_cases forward : advance sample next > 0
    · simp [credible, forward]
    · simp [credible, forward]
  · simp only [credible, if_false, false_and, List.append_nil]
    split <;> rfl

theorem follow_intervals (event : MediaEvent) (session : Session) (totals : Totals) :
    (follow event session totals).2.intervals = totals.intervals := by
  unfold follow
  split <;> rfl

/-- What the type of an event leaves in the session. -/
theorem follow_session (event : MediaEvent) (session : Session) (totals : Totals) :
    let next := (follow event session totals).1
    next.playing = (setsPlaying event.type).getD session.playing ∧
      next.buffering = (setsBuffering event.type).getD session.buffering ∧
      next.visible = (setsVisible event.type).getD session.visible ∧
      next.playbackRateMilli = (setsRate event).getD session.playbackRateMilli ∧
      next.sample = if event.type = .seek then none else session.sample := by
  unfold follow setsRate
  cases type : event.type <;>
    simp [setsPlaying, setsBuffering, setsVisible]

/-- The sample that an event leaves. -/
def nextSample (session : Session) (event : MediaEvent) : Option Sample :=
  match sampledPosition event with
  | some position => some ⟨event.monotonicMs, session.playbackRateMilli, position⟩
  | none => if event.type = .seek then none else foundSample policy session event

/-- A seek is not taken as a sample. -/
theorem sampledPosition_seek {event : MediaEvent} (seek : event.type = .seek) :
    sampledPosition event = none := by
  unfold sampledPosition
  rw [seek]
  rfl

/-- What an event leaves in the session and has credited. -/
theorem visit_spec (session : Session) (totals : Totals) (event : MediaEvent) :
    let next := (visit policy (session, totals) event).1
    next.previous = some event.monotonicMs ∧
      next.playing = (setsPlaying event.type).getD session.playing ∧
      next.buffering = (setsBuffering event.type).getD session.buffering ∧
      next.visible = (setsVisible event.type).getD session.visible ∧
      next.playbackRateMilli = (setsRate event).getD session.playbackRateMilli ∧
      next.sample = nextSample policy session event ∧
      (visit policy (session, totals) event).2.intervals =
        totals.intervals ++ credits policy session event := by
  obtain ⟨timed, same⟩ := creditTime_session policy event session totals
  have intervals : (visit policy (session, totals) event).2.intervals =
      totals.intervals ++ credits policy session event := by
    simp only [visit, follow_intervals, creditPosition, timed, credits]
    cases sampledPosition event with
    | none => cases foundSample policy session event <;> simp [reportDuration, same]
    | some position =>
        cases foundSample policy session event with
        | none => simp [reportDuration, same]
        | some sample =>
            dsimp only
            cases session.creditable with
            | false => simp [reportDuration, same]
            | true => simp [creditAdvance_intervals, reportDuration, same]
  generalize placed : creditPosition policy event session.creditable
    (creditTime policy event session totals).1
    (reportDuration event (creditTime policy event session totals).2) = middle
  have visited : visit policy (session, totals) event =
      ({ (follow event middle.1 middle.2).1 with previous := some event.monotonicMs },
        (follow event middle.1 middle.2).2) := by
    rw [← placed]
    rfl
  have positioned : middle.1 = { session with sample := match sampledPosition event with
      | some position => some ⟨event.monotonicMs, session.playbackRateMilli, position⟩
      | none => foundSample policy session event } := by
    rw [← placed, timed, creditPosition]
    cases sampledPosition event <;> rfl
  obtain ⟨playing, buffering, visible, rate, sample⟩ := follow_session event middle.1 middle.2
  rw [visited] at intervals ⊢
  refine ⟨rfl, playing.trans (by rw [positioned]), buffering.trans (by rw [positioned]),
    visible.trans (by rw [positioned]), rate.trans (by rw [positioned]), sample.trans ?_, intervals⟩
  rw [nextSample, positioned]
  by_cases seek : event.type = .seek
  · rw [if_pos seek, sampledPosition_seek seek]
    exact (if_pos seek).symm
  · rw [if_neg seek]
    cases sampledPosition event with
    | none => exact (if_neg seek).symm
    | some position => rfl

/-! ## The walk -/

/-- The session and the totals after events of one session. -/
def walked (events : List MediaEvent) : Session × Totals := events.foldl (visit policy) ({}, {})

theorem walked_snoc (events : List MediaEvent) (event : MediaEvent) :
    walked policy (events ++ [event]) = visit policy (walked policy events) event := by
  rw [walked, List.foldl_append]
  rfl

/-- The walk keeps what the events say. -/
theorem walked_session (events : List MediaEvent) :
    let session := (walked policy events).1
    session.previous = events.getLast?.map MediaEvent.monotonicMs ∧
      session.playing = flag setsPlaying events ∧
      session.buffering = flag setsBuffering events ∧
      session.visible = flag setsVisible events ∧
      session.playbackRateMilli = rateOf events := by
  induction events using List.reverseRecOn with
  | nil => exact ⟨rfl, rfl, rfl, rfl, rfl⟩
  | append_singleton events event inductionHypothesis =>
      obtain ⟨_, playing, buffering, visible, rate⟩ := inductionHypothesis
      obtain ⟨previous, nextPlaying, nextBuffering, nextVisible, nextRate, _⟩ :=
        visit_spec policy (walked policy events).1 (walked policy events).2 event
      rw [walked_snoc, List.getLast?_concat, flag_snoc, flag_snoc, flag_snoc, rateOf_snoc,
        ← playing, ← buffering, ← visible, ← rate]
      exact ⟨previous, nextPlaying, nextBuffering, nextVisible, nextRate⟩

theorem walked_creditable (events : List MediaEvent) :
    (walked policy events).1.creditable = creditable events := by
  obtain ⟨_, playing, buffering, visible, _⟩ := walked_session policy events
  rw [Session.creditable, creditable, playing, buffering, visible]

theorem walked_intervals (events : List MediaEvent) (event : MediaEvent) :
    (walked policy (events ++ [event])).2.intervals =
      (walked policy events).2.intervals ++ credits policy (walked policy events).1 event := by
  rw [walked_snoc]
  exact (visit_spec policy _ _ event).2.2.2.2.2.2

/-- An event that takes no sample and does not seek. -/
def Passes (event : MediaEvent) : Prop := sampledPosition event = none ∧ event.type ≠ .seek

instance (event : MediaEvent) : Decidable (Passes event) :=
  inferInstanceAs (Decidable (_ ∧ _))

/-- The events from a sample on, up to another event. -/
structure Since (first : MediaEvent) (between : List MediaEvent) (second : MediaEvent)
    (start : ℕ) : Prop where
  starts : sampledPosition first = some start
  passes : ∀ event ∈ between, Passes event
  within : (first :: between ++ [second]).IsChain (WithinGap policy)

/-- One more event passes. -/
theorem since_snoc {first last second : MediaEvent} {between : List MediaEvent} {start : ℕ} :
    Since policy first (between ++ [last]) second start ↔
      Since policy first between last start ∧ Passes last ∧ WithinGap policy last second := by
  have chain : (first :: (between ++ [last]) ++ [second]).IsChain (WithinGap policy) ↔
      (first :: between ++ [last]).IsChain (WithinGap policy) ∧ WithinGap policy last second := by
    have last? : (first :: (between ++ [last])).getLast? = some last := by
      rw [← List.cons_append, List.getLast?_concat]
    rw [List.isChain_append, last?]
    simp
  constructor
  · rintro ⟨starts, passes, within⟩
    obtain ⟨before, near⟩ := chain.mp within
    refine ⟨⟨starts, fun event member => passes event (by simp [member]), before⟩,
      passes last (by simp), near⟩
  · rintro ⟨⟨starts, passes, before⟩, passesLast, near⟩
    refine ⟨starts, fun event member => ?_, chain.mpr ⟨before, near⟩⟩
    rcases List.mem_append.mp member with inside | single
    · exact passes event inside
    · rw [List.mem_singleton.mp single]
      exact passesLast

/-- An event finds the sample of the last position, if nothing came between. -/
theorem foundSample_iff (events : List MediaEvent) (second : MediaEvent) (sample : Sample) :
    foundSample policy (walked policy events).1 second = some sample ↔
      ∃ earlier first between, events = earlier ++ first :: between ∧
        Since policy first between second sample.positionMilliseconds ∧
        sample = ⟨first.monotonicMs, rateOf earlier, sample.positionMilliseconds⟩ := by
  induction events using List.reverseRecOn generalizing second with
  | nil =>
      constructor
      · nofun
      · rintro ⟨earlier, first, between, empty, _⟩
        exact absurd empty (by simp)
  | append_singleton events last inductionHypothesis =>
      obtain ⟨previous, _, _, _, _, kept, _⟩ :=
        visit_spec policy (walked policy events).1 (walked policy events).2 last
      have found : foundSample policy (walked policy (events ++ [last])).1 second =
          if WithinGap policy last second then nextSample policy (walked policy events).1 last
          else none := by
        rw [walked_snoc, foundSample]
        rw [previous, kept]
        rfl
      rw [found]
      constructor
      · intro isFound
        split at isFound
        · rename_i near
          rw [nextSample] at isFound
          split at isFound
          · rename_i position sampled
            cases isFound
            refine ⟨events, last, [], rfl, ⟨sampled, by simp, ?_⟩, ?_⟩
            · simpa using near
            · rw [(walked_session policy events).2.2.2.2]
          · rename_i passes
            split at isFound
            · cases isFound
            · rename_i seek
              obtain ⟨earlier, first, between, rfl, since, same⟩ :=
                (inductionHypothesis last).mp isFound
              refine ⟨earlier, first, between ++ [last], by simp, ?_, same⟩
              exact (since_snoc policy).mpr ⟨since, ⟨passes, seek⟩, near⟩
        · cases isFound
      · rintro ⟨earlier, first, between, split, since, same⟩
        rcases List.eq_nil_or_concat between with rfl | ⟨init, other, rfl⟩
        · obtain ⟨rfl, last⟩ := List.append_inj' split rfl
          cases last
          have near : WithinGap policy last second := by simpa using since.within
          rw [if_pos near, nextSample, since.starts, (walked_session policy events).2.2.2.2]
          exact congrArg some same.symm
        · rw [List.concat_eq_append, ← List.cons_append, ← List.append_assoc] at split
          obtain ⟨rfl, last⟩ := List.append_inj' split rfl
          cases last
          rw [List.concat_eq_append, since_snoc] at since
          obtain ⟨before, ⟨passes, seek⟩, near⟩ := since
          rw [if_pos near, nextSample, passes, if_neg seek, inductionHypothesis]
          exact ⟨earlier, first, init, rfl, before, same⟩

/-- An event has an interval credited. -/
def CreditedAt (before : List MediaEvent) (second : MediaEvent) (interval : ℕ × ℕ) : Prop :=
  (walked policy (before ++ [second])).2.intervals =
    (walked policy before).2.intervals ++ [interval]

/-- Two positions in a row, with no seek and no gap above the limit between them. -/
structure Consecutive (first : MediaEvent) (between : List MediaEvent) (second : MediaEvent)
    (interval : ℕ × ℕ) : Prop extends Since policy first between second interval.1 where
  stops : sampledPosition second = some interval.2

/-- The test that a second position passes: playback at that moment, and a plausible advance. -/
def Accepted (earlier : List MediaEvent) (first : MediaEvent) (between : List MediaEvent)
    (second : MediaEvent) (interval : ℕ × ℕ) : Prop :=
  creditable (earlier ++ first :: between) = true ∧
    Plausible policy ⟨first.monotonicMs, rateOf earlier, interval.1⟩
      ⟨second.monotonicMs, rateOf (earlier ++ first :: between), interval.2⟩ ∧
    interval.1 < interval.2

theorem creditedAt_iff (before : List MediaEvent) (second : MediaEvent) (interval : ℕ × ℕ) :
    CreditedAt policy before second interval ↔
      ∃ earlier first between, before = earlier ++ first :: between ∧
        Consecutive policy first between second interval ∧
        Accepted policy earlier first between second interval := by
  have added : CreditedAt policy before second interval ↔
      credits policy (walked policy before).1 second = [interval] := by
    rw [CreditedAt, walked_intervals, List.append_cancel_left_eq]
  rw [added, credits]
  constructor
  · intro isCredited
    split at isCredited
    · rename_i sample position found sampled
      dsimp only at isCredited
      split at isCredited
      · rename_i accepted
        cases isCredited
        obtain ⟨earlier, first, between, rfl, since, same⟩ :=
          (foundSample_iff policy before second sample).mp found
        obtain ⟨playing, credible, forward⟩ := accepted
        refine ⟨earlier, first, between, rfl, ⟨since, sampled⟩, ?_, ?_, ?_⟩
        · rw [← walked_creditable policy]
          exact playing
        · rw [← same, ← (walked_session policy (earlier ++ first :: between)).2.2.2.2]
          exact credible
        · rw [advance] at forward
          dsimp only at forward ⊢
          omega
      · cases isCredited
    · cases isCredited
  · rintro ⟨earlier, first, between, rfl, consecutive, playing, credible, forward⟩
    have found := (foundSample_iff policy (earlier ++ first :: between) second
      ⟨first.monotonicMs, rateOf earlier, interval.1⟩).mpr
        ⟨earlier, first, between, rfl, consecutive.toSince, rfl⟩
    rw [found, consecutive.stops]
    dsimp only
    rw [(walked_session policy (earlier ++ first :: between)).2.2.2.2, walked_creditable, if_pos]
    refine ⟨playing, credible, ?_⟩
    rw [advance]
    dsimp only
    omega

end

/-- What comes after the last element of a kind is determined. -/
theorem last_unique {α : Type} (kind : α → Prop) {left right : List α} {one other : α}
    {after later : List α} (same : left ++ one :: after = right ++ other :: later)
    (isOne : kind one) (isOther : kind other) (notAfter : ∀ item ∈ after, ¬ kind item)
    (notLater : ∀ item ∈ later, ¬ kind item) : left = right ∧ one = other ∧ after = later := by
  induction after using List.reverseRecOn generalizing later with
  | nil =>
      rcases List.eq_nil_or_concat later with rfl | ⟨init, last, rfl⟩
      · obtain ⟨lefts, ones⟩ := List.append_inj' same rfl
        exact ⟨lefts, (List.cons.inj ones).1, rfl⟩
      · rw [List.concat_eq_append, ← List.cons_append, ← List.append_assoc] at same
        obtain ⟨_, ones⟩ := List.append_inj' same rfl
        cases ones
        exact absurd isOne (notLater one (by simp))
  | append_singleton after item inductionHypothesis =>
      rw [← List.cons_append, ← List.append_assoc] at same
      rcases List.eq_nil_or_concat later with rfl | ⟨init, last, rfl⟩
      · obtain ⟨_, ones⟩ := List.append_inj' same rfl
        cases ones
        exact absurd isOther (notAfter other (by simp))
      · rw [List.concat_eq_append, ← List.cons_append, ← List.append_assoc] at same
        obtain ⟨fronts, items⟩ := List.append_inj' same rfl
        cases items
        obtain ⟨lefts, ones, afters⟩ := inductionHypothesis fronts
          (fun other member => notAfter other (by simp [member]))
          (fun other member => notLater other (by simp [member]))
        exact ⟨lefts, ones, by rw [afters, List.concat_eq_append]⟩

/-! ## The plausible advance -/

/-- The advance that a rate allows in a time, with half as much again and 1500 ms. -/
def allowedAdvance (rateMilli : ℕ) (elapsed : ℤ) : ℚ :=
  3 / 2 * (rateMilli / 1000) * elapsed + 1500

/-- Values of this size are rounded on a grid that milliseconds do not show. -/
theorem round_near (value : ℚ) (low : -1 ≤ value) (small : value < 4194304) :
    value - 1 / 2 ^ 32 ≤ Binary64.round value ∧ Binary64.round value ≤ value + 1 / 2 ^ 32 := by
  have bound : |value| < 2 ^ 22 := by
    rw [abs_lt]
    norm_num
    exact ⟨by linarith, small⟩
  have near := abs_le.mp (Binary64.round_distance_lt bound (by norm_num))
  norm_num at near ⊢
  constructor
  · linarith [near.1]
  · linarith [near.2]

/-- Rounding does not let an advance pass that the rate does not allow. -/
theorem le_allowedAdvance {elapsed advance : ℤ} {rateMilli : ℕ} (nonnegative : 0 ≤ elapsed)
    (short : elapsed ≤ 120000) (slow : rateMilli ≤ 16000)
    (credible : (advance : ℚ) ≤ maximumPlausibleAdvance elapsed rateMilli) :
    (advance : ℚ) ≤ allowedAdvance (max 1000 rateMilli) elapsed := by
  unfold maximumPlausibleAdvance Binary64.divide Binary64.multiply at credible
  dsimp only at credible
  rw [max_eq_right nonnegative] at credible
  generalize fast : max 1000 rateMilli = effective at credible ⊢
  have high : (effective : ℚ) ≤ 16000 := by
    have bound : effective ≤ 16000 := by omega
    exact_mod_cast bound
  have time : (0 : ℚ) ≤ elapsed := by exact_mod_cast nonnegative
  have timeShort : (elapsed : ℚ) ≤ 120000 := by exact_mod_cast short
  have lowest : (1000 : ℚ) ≤ effective := by
    have bound : 1000 ≤ effective := by omega
    exact_mod_cast bound
  have playing : (0 : ℚ) ≤ effective / 1000 := by positivity
  -- the rate
  obtain ⟨rateLow, rateHigh⟩ := round_near (effective / 1000) (by linarith) (by linarith)
  generalize Binary64.round ((effective : ℚ) / 1000) = rate at credible rateLow rateHigh
  have rateNonnegative : 0 ≤ rate := by
    norm_num at rateLow
    linarith
  -- the time at that rate
  have played : (elapsed : ℚ) * rate ≤ elapsed * (effective / 1000) + 120000 * (1 / 2 ^ 32) := by
    calc (elapsed : ℚ) * rate ≤ elapsed * (effective / 1000 + 1 / 2 ^ 32) := by gcongr
      _ = elapsed * (effective / 1000) + elapsed * (1 / 2 ^ 32) := by ring
      _ ≤ elapsed * (effective / 1000) + 120000 * (1 / 2 ^ 32) := by gcongr
  have natural : (elapsed : ℚ) * (effective / 1000) ≤ 1920000 := by
    calc (elapsed : ℚ) * (effective / 1000) ≤ 120000 * (16000 / 1000) := by gcongr
      _ = 1920000 := by norm_num
  have playedNonnegative : 0 ≤ (elapsed : ℚ) * rate := by positivity
  norm_num at played
  obtain ⟨productLow, productHigh⟩ := round_near (elapsed * rate) (by linarith) (by linarith)
  generalize Binary64.round ((elapsed : ℚ) * rate) = product at credible productLow productHigh
  norm_num at productLow productHigh
  -- half as much again
  obtain ⟨halfLow, halfHigh⟩ := round_near (product * (3 / 2)) (by linarith) (by linarith)
  generalize Binary64.round (product * (3 / 2)) = extended at credible halfLow halfHigh
  norm_num at halfLow halfHigh
  -- and 1500 ms
  have total := (round_near (extended + 1500) (by linarith) (by linarith)).2.trans' credible
  norm_num at total
  have near : 2000 * (advance : ℚ) < 3 * elapsed * effective + 3000000 + 1 := by linarith
  have whole : 2000 * advance ≤ 3 * elapsed * effective + 3000000 := by
    have strict : 2000 * advance < 3 * elapsed * effective + 3000000 + 1 := by exact_mod_cast near
    omega
  have bound : 2000 * (advance : ℚ) ≤ 3 * elapsed * effective + 3000000 := by exact_mod_cast whole
  unfold allowedAdvance
  linarith

/-! ## The credited intervals -/

section

variable (policy : TelemetryPolicy)

/-- The events of each session, in the order of the sequence. -/
def sessionsOf (rows : List MediaRow) : List (List MediaEvent) :=
  (grouped rows).map fun group => group.2.insertionSort bySequence

theorem collect_intervals (rows : List MediaRow) :
    (collect policy rows).intervals =
      (sessionsOf rows).flatMap fun events => (walked policy events).2.intervals := by
  rw [collect_eq, total, sessionsOf]
  induction grouped rows with
  | nil => rfl
  | cons group rest inductionHypothesis =>
      rw [List.map_cons, List.map_cons, List.flatMap_cons, List.foldr_cons, ← inductionHypothesis]
      have mine : (visitGroup policy {} group.2).intervals =
          (walked policy (group.2.insertionSort bySequence)).2.intervals := by
        unfold visitGroup
        dsimp only
        split <;> rfl
      rw [← mine]
      rfl

theorem credits_length (session : Session) (event : MediaEvent) :
    (credits policy session event).length ≤ 1 := by
  unfold credits
  split
  · dsimp only
    split <;> simp
  · simp

/-- The intervals of a session are those that some event has credited. -/
theorem mem_walked_intervals (events : List MediaEvent) (interval : ℕ × ℕ) :
    interval ∈ (walked policy events).2.intervals ↔
      ∃ before second after, events = before ++ second :: after ∧
        CreditedAt policy before second interval := by
  induction events using List.reverseRecOn with
  | nil =>
      constructor
      · nofun
      · rintro ⟨before, second, after, empty, _⟩
        exact absurd empty (by simp)
  | append_singleton events event inductionHypothesis =>
      have single : interval ∈ credits policy (walked policy events).1 event ↔
          CreditedAt policy events event interval := by
        rw [CreditedAt, walked_intervals, List.append_cancel_left_eq]
        have few := credits_length policy (walked policy events).1 event
        generalize credits policy (walked policy events).1 event = credited at few
        rcases credited with _ | ⟨one, _ | ⟨_, _⟩⟩
        · simp
        · simp [eq_comm]
        · simp at few
      rw [walked_intervals, List.mem_append, inductionHypothesis, single]
      constructor
      · rintro (⟨before, second, after, rfl, credited⟩ | credited)
        · exact ⟨before, second, after ++ [event], by simp, credited⟩
        · exact ⟨events, event, [], rfl, credited⟩
      · rintro ⟨before, second, after, split, credited⟩
        rcases List.eq_nil_or_concat after with rfl | ⟨init, last, rfl⟩
        · obtain ⟨rfl, last⟩ := List.append_inj' split rfl
          cases last
          exact .inr credited
        · rw [List.concat_eq_append, ← List.cons_append, ← List.append_assoc] at split
          obtain ⟨rfl, _⟩ := List.append_inj' split rfl
          exact .inl ⟨before, second, init, rfl, credited⟩

/-- The player played from the first position to the second, in full view, with no seek and no
gap above the limit, and not faster than its rate allows. -/
structure Played (earlier : List MediaEvent) (first : MediaEvent) (between : List MediaEvent)
    (second : MediaEvent) (interval : ℕ × ℕ) : Prop
    extends Consecutive policy first between second interval where
  playing : ∀ reached, reached <+: between → creditable (earlier ++ first :: reached) = true
  advanced : (interval.2 : ℚ) - interval.1 ≤
    allowedAdvance (rateOf earlier) ((second.monotonicMs : ℤ) - first.monotonicMs)

/-- An event resumes playback. -/
def Resumes (before : List MediaEvent) (event : MediaEvent) : Prop :=
  creditable before = false ∧ creditable (before ++ [event]) = true

/-- Between two positions that pass the test nothing resumes playback, and below the normal rate
the advance is one that the rate allows. -/
def Undisturbed (events : List MediaEvent) : Prop :=
  ∀ earlier first between second after interval,
    events = earlier ++ first :: between ++ second :: after →
    Consecutive policy first between second interval →
    Accepted policy earlier first between second interval →
    (∀ reached event, reached ++ [event] <+: between →
      ¬ Resumes (earlier ++ first :: reached) event) ∧
    (rateOf earlier < 1000 → (interval.2 : ℚ) - interval.1 ≤
      allowedAdvance (rateOf earlier) ((second.monotonicMs : ℤ) - first.monotonicMs))

/-- Where nothing resumes playback it goes on from the start. -/
theorem playing_throughout {earlier between : List MediaEvent} {first : MediaEvent}
    (atLast : creditable (earlier ++ first :: between) = true)
    (noResumption : ∀ reached event, reached ++ [event] <+: between →
      ¬ Resumes (earlier ++ first :: reached) event) :
    ∀ reached, reached <+: between → creditable (earlier ++ first :: reached) = true := by
  induction between using List.reverseRecOn with
  | nil =>
      intro reached within
      rw [List.prefix_nil.mp within]
      exact atLast
  | append_singleton between event inductionHypothesis =>
      intro reached within
      rcases List.prefix_concat_iff.mp within with rfl | inside
      · exact atLast
      · refine inductionHypothesis ?_ (fun other next before => ?_) reached inside
        · by_contra stopped
          refine noResumption between event (List.prefix_refl _) ⟨?_, ?_⟩
          · exact Bool.not_eq_true _ ▸ stopped
          · rw [List.append_assoc, List.cons_append]
            exact atLast
        · exact noResumption other next (before.trans (List.prefix_append _ _))

end

/-- The intervals that the summary credits are played, and what it counts is their union. -/
structure CreditsPlayed (content : ExternalMediaContent) (rows : List MediaRow) : Prop where
  credited : ∀ interval, interval ∈ (collect content.telemetryPolicy rows).intervals ↔
    ∃ events ∈ sessionsOf rows, ∃ before second after, events = before ++ second :: after ∧
      CreditedAt content.telemetryPolicy before second interval
  played : ∀ events ∈ sessionsOf rows, ∀ before second after interval,
    events = before ++ second :: after →
    CreditedAt content.telemetryPolicy before second interval →
    ∃ earlier first between, before = earlier ++ first :: between ∧
      Played content.telemetryPolicy earlier first between second interval
  measured : ((calculateMediaSummary content rows).playback.uniqueMilliseconds : ENNReal) =
    volume (region (collect content.telemetryPolicy rows).intervals)
  bounded : (calculateMediaSummary content rows).playback.uniqueMilliseconds ≤
    totalLength (collect content.telemetryPolicy rows).intervals

/-- When the intervals are played. -/
theorem creditsPlayed_iff {content : ExternalMediaContent}
    (limit : content.telemetryPolicy.maxCreditedGapSeconds ≤ 120) (rows : List MediaRow) :
    CreditsPlayed content rows ↔
      ∀ events ∈ sessionsOf rows, Undisturbed content.telemetryPolicy events := by
  obtain ⟨policy, known⟩ : ∃ policy, content.telemetryPolicy = policy := ⟨_, rfl⟩
  rw [known] at limit ⊢
  constructor
  · intro played events member earlier first between second after interval split consecutive accepted
    have credited : CreditedAt policy (earlier ++ first :: between) second interval :=
      (creditedAt_iff policy _ _ _).mpr ⟨earlier, first, between, rfl, consecutive, accepted⟩
    have fromCode := played.played
    rw [known] at fromCode
    obtain ⟨earlierToo, firstToo, betweenToo, same, played⟩ :=
      fromCode events member _ _ _ _ split credited
    -- the last position before the second one is the same
    obtain ⟨rfl, rfl, rfl⟩ := last_unique (fun event => sampledPosition event ≠ none) same
      (by rw [consecutive.starts]; nofun) (by rw [played.starts]; nofun)
      (fun event inside => not_not.mpr (consecutive.passes event inside).1)
      (fun event inside => not_not.mpr (played.passes event inside).1)
    refine ⟨fun reached event within resumes => ?_, fun _ => played.advanced⟩
    have before := played.playing reached ((List.prefix_append _ _).trans within)
    rw [resumes.1] at before
    cases before
  · intro undisturbed
    refine ⟨fun interval => ?_, ?_, ?_, ?_⟩
    · rw [known, collect_intervals, List.mem_flatMap]
      simp only [mem_walked_intervals]
    · rw [known]
      rintro events member before second after interval rfl credited
      obtain ⟨earlier, first, between, rfl, consecutive, accepted⟩ :=
        (creditedAt_iff policy _ _ _).mp credited
      obtain ⟨noResumption, belowNormal⟩ := undisturbed _ member earlier first between second after
        interval rfl consecutive accepted
      refine ⟨earlier, first, between, rfl, consecutive,
        playing_throughout accepted.1 noResumption, ?_⟩
      by_cases slow : rateOf earlier < 1000
      · exact belowNormal slow
      · obtain ⟨_, ⟨later, near, _, credible⟩, _⟩ := accepted
        rw [elapsed] at later near credible
        rw [advance] at credible
        dsimp only at later near credible
        have allowed := le_allowedAdvance later (by omega) (rateOf_le earlier) credible
        rw [max_eq_right (not_lt.mp slow)] at allowed
        push_cast at allowed ⊢
        exact allowed
    · exact intervalUnionMilliseconds_volume _
    · exact intervalUnionMilliseconds_le _

/-- An accepted policy limits the credited gap to two minutes. -/
theorem normalizeExternalMediaContent_gap {platform : Platform} {value : Value}
    {content : ExternalMediaContent}
    (accepted : normalizeExternalMediaContent platform value = .ok content) :
    content.telemetryPolicy.maxCreditedGapSeconds ≤ 120 := by
  obtain ⟨_, _, accepted⟩ := bind_ok accepted
  obtain ⟨_, _, accepted⟩ := bind_ok accepted
  obtain ⟨_, _, accepted⟩ := bind_ok accepted
  obtain ⟨_, _, accepted⟩ := bind_ok accepted
  obtain ⟨_, _, accepted⟩ := bind_ok accepted
  obtain ⟨_, _, accepted⟩ := bind_ok accepted
  obtain ⟨_, _, accepted⟩ := bind_ok accepted
  obtain ⟨policy, policyAccepted, accepted⟩ := bind_ok accepted
  cases accepted
  obtain ⟨_, _, policyAccepted⟩ := bind_ok policyAccepted
  obtain ⟨_, _, policyAccepted⟩ := bind_ok policyAccepted
  obtain ⟨_, _, policyAccepted⟩ := bind_ok policyAccepted
  obtain ⟨_, gap, policyAccepted⟩ := bind_ok policyAccepted
  cases policyAccepted
  exact (safeIntegerWith_range gap).2

/-- The credit of an accepted activity, for any rows. -/
def CreditLaw (platform : Platform) : Prop :=
  ∀ value content, normalizeExternalMediaContent platform value = .ok content →
    ∀ rows, CreditsPlayed content rows ↔
      ∀ events ∈ sessionsOf rows, Undisturbed content.telemetryPolicy events

theorem media_credit (platform : Platform) : CreditLaw platform :=
  fun _ _ accepted rows => creditsPlayed_iff (normalizeExternalMediaContent_gap accepted) rows

/-! ## A video hidden for eight seconds -/

def watchUrl : JsString := js "https://youtu.be/M7lc1UVf-VE"

/-- A platform that knows one address. -/
def youtubePlatform : Platform where
  parseURL := fun text =>
    if text = watchUrl then some {
      href := watchUrl
      origin := js "https://youtu.be"
      protocol := js "https:"
      username := []
      password := []
      port := []
      hostname := js "youtu.be"
      pathname := js "/M7lc1UVf-VE"
      searchParam := fun _ => none
      firstPathSegment := some (js "M7lc1UVf-VE")
      embeddedId := none
      videoId := none
      driveId := none }
    else none
  parseDate := fun _ => none

/-- The definition of a video activity. -/
def trainingVideo : Value :=
  .object [
    (js "descriptor", .object [
      (js "provider", .string (js "youtube")),
      (js "sourceUrl", .string watchUrl),
      (js "title", .string (js "Training"))]),
    (js "prompt", .string (js "Watch."))]

/-- An event of the session, as the browser sends it. -/
def sent (sequence : ℕ) (type : JsString) (monotonicMs : ℕ) (more : Members) : Value :=
  .object ([
    (js "id", .string (decimal sequence)),
    (js "monotonicMs", .number (.finite monotonicMs)),
    (js "sequence", .number (.finite sequence)),
    (js "type", .string type)] ++ more)

/-- The video plays from 0 to 10 s and is hidden from second 1 to second 9. -/
def hiddenBatch : Value :=
  .object [
    (js "activityId", .string (js "activity")),
    (js "batchId", .string (js "batch")),
    (js "events", .array [
      sent 1 (js "visible") 0 [],
      sent 2 (js "play") 0 [],
      sent 3 (js "position") 0 [(js "positionSeconds", .number (.finite 0))],
      sent 4 (js "hidden") 1000 [],
      sent 5 (js "visible") 9000 [],
      sent 6 (js "position") 10000 [(js "positionSeconds", .number (.finite 10))]]),
    (js "handle", .string (js "handle")),
    (js "interactionId", .string (js "interaction")),
    (js "telemetrySessionId", .string (js "session"))]

/-- An event with nothing but its type and time. -/
def plainEvent (sequence monotonicMs : ℕ) (type : EventType)
    (plain : type ∉ [.position, .seek, .rate]) : MediaEvent where
  type
  detail := none
  durationMilliseconds := none
  fromMilliseconds := none
  id := decimal sequence
  monotonicMs
  playbackRateMilli := none
  positionMilliseconds := none
  sequence
  toMilliseconds := none
  position_given := fun is => absurd (by simp [is]) plain
  seek_given := fun is => absurd (by simp [is]) plain
  rate_given := fun is => absurd (by simp [is]) plain

/-- A position event. -/
def positionEvent (sequence monotonicMs position : ℕ) : MediaEvent where
  type := .position
  detail := none
  durationMilliseconds := none
  fromMilliseconds := none
  id := decimal sequence
  monotonicMs
  playbackRateMilli := none
  positionMilliseconds := some position
  sequence
  toMilliseconds := none
  position_given := fun _ => nofun
  seek_given := position_seek
  rate_given := position_rate

def hiddenEvents : List MediaEvent :=
  [plainEvent 1 0 .visible (by decide), plainEvent 2 0 .play (by decide), positionEvent 3 0 0,
    plainEvent 4 1000 .hidden (by decide), plainEvent 5 9000 .visible (by decide),
    positionEvent 6 10000 10000]

def hiddenRows : List MediaRow :=
  hiddenEvents.map fun event => ⟨js "batch", js "interaction", js "session", event⟩

deriving instance DecidableEq for TelemetryPolicy
deriving instance DecidableEq for EventDetail
deriving instance DecidableEq for MediaEvent
deriving instance DecidableEq for MediaRow

/-- The batch is recorded for the video. -/
theorem hiddenRows_recorded :
    ∃ content, normalizeExternalMediaContent youtubePlatform trainingVideo = .ok content ∧
      content.telemetryPolicy = ⟨5, 30, 10⟩ ∧
      recordParticipantEvents 1000 content hiddenBatch [] = .ok hiddenRows := by
  have evaluated : (match normalizeExternalMediaContent youtubePlatform trainingVideo with
      | .ok content => decide (content.telemetryPolicy = ⟨5, 30, 10⟩) &&
          match recordParticipantEvents 1000 content hiddenBatch [] with
          | .ok rows => decide (rows = hiddenRows)
          | .error _ => false
      | .error _ => false) = true := by
    decide +kernel
  split at evaluated
  · rename_i content accepted
    rw [Bool.and_eq_true, decide_eq_true_iff] at evaluated
    obtain ⟨policy, recorded⟩ := evaluated
    split at recorded
    · rename_i rows isRecorded
      rw [decide_eq_true_iff] at recorded
      exact ⟨content, accepted, policy, recorded ▸ isRecorded⟩
    · cases recorded
  · cases evaluated

/-- The eight seconds out of view are credited with the rest. -/
theorem hidden_credited :
    ¬ ∀ platform value content maxEventsPerActivity rows,
      normalizeExternalMediaContent platform value = .ok content →
      Recorded maxEventsPerActivity content rows → CreditsPlayed content rows := by
  intro always
  obtain ⟨content, accepted, policy, recorded⟩ := hiddenRows_recorded
  have played := always youtubePlatform trainingVideo content 1000 hiddenRows accepted
    (.batch .none recorded)
  have undisturbed := (creditsPlayed_iff (by rw [policy]; decide) hiddenRows).mp played
  rw [policy] at undisturbed
  have session : sessionsOf hiddenRows = [hiddenEvents] := by decide +kernel
  rw [session] at undisturbed
  obtain ⟨noResumption, _⟩ := undisturbed hiddenEvents (List.mem_singleton_self _)
    (hiddenEvents.take 2) (positionEvent 3 0 0)
    [plainEvent 4 1000 .hidden (by decide), plainEvent 5 9000 .visible (by decide)]
    (positionEvent 6 10000 10000) [] (0, 10000) rfl
    ⟨⟨rfl, by decide, by decide⟩, rfl⟩ ⟨by decide, by decide +kernel, by decide⟩
  exact noResumption [plainEvent 4 1000 .hidden (by decide)] (plainEvent 5 9000 .visible (by decide))
    (List.prefix_refl _) ⟨by decide, by decide⟩

end Vasi.MediaSummary
