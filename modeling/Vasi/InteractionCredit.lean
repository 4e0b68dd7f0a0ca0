import Mathlib.Algebra.Order.BigOperators.Group.List
import Vasi.ActivityInteraction

/-!
# Credit for presence

The summary of an activity does not depend on the order of its rows, and its times are
sums over the steps from one event of a session to the next. A step counts as open when
the page was presented and the gap was credited, as foreground when the page was visible
and focused besides, and as engaged when an interaction was recent besides. The state of
the walk is what the last events of each kind have left, which is the invariant.
-/
namespace Vasi.ActivityInteraction

open JsValue Validation

/-! ## Totals are added up -/

/-- The totals of one part after those of another. -/
def Totals.add (first second : Totals) : Totals where
  openMilliseconds := first.openMilliseconds + second.openMilliseconds
  foregroundVisibleMilliseconds :=
    first.foregroundVisibleMilliseconds + second.foregroundVisibleMilliseconds
  engagedMilliseconds := first.engagedMilliseconds + second.engagedMilliseconds
  uncreditedGapMilliseconds := first.uncreditedGapMilliseconds + second.uncreditedGapMilliseconds
  gapCount := first.gapCount + second.gapCount
  disconnectCount := first.disconnectCount + second.disconnectCount
  incompleteSessionCount := first.incompleteSessionCount + second.incompleteSessionCount
  presentedCount := first.presentedCount + second.presentedCount
  heartbeatCount := first.heartbeatCount + second.heartbeatCount
  visibleCount := first.visibleCount + second.visibleCount
  focusCount := first.focusCount + second.focusCount
  interactionCount := first.interactionCount + second.interactionCount

@[simp] theorem Totals.add_zero (totals : Totals) : totals.add {} = totals := by
  simp [Totals.add]

@[simp] theorem Totals.zero_add (totals : Totals) : Totals.add {} totals = totals := by
  simp [Totals.add]

theorem Totals.add_assoc (first second third : Totals) :
    (first.add second).add third = first.add (second.add third) := by
  simp [Totals.add, Nat.add_assoc]

theorem Totals.add_left_comm (first second third : Totals) :
    first.add (second.add third) = second.add (first.add third) := by
  simp [Totals.add, Nat.add_left_comm]

section

variable {policy : Policy}

theorem credit_add (session : Session) (event : InteractionEvent) (before totals : Totals) :
    credit policy session event (before.add totals) =
      before.add (credit policy session event totals) := by
  unfold credit
  split
  · rfl
  · dsimp only
    split
    · simp [Totals.add, Nat.add_assoc]
    · split <;> simp [Totals.add, Nat.add_assoc]

theorem count_add (type : EventType) (before totals : Totals) :
    count type (before.add totals) = before.add (count type totals) := by
  cases type <;> simp [count, Totals.add, Nat.add_assoc]

theorem walk_add (events : List InteractionEvent) (session : Session) (before totals : Totals) :
    events.foldl (visit policy) (session, before.add totals) =
      ((events.foldl (visit policy) (session, totals)).1,
        before.add (events.foldl (visit policy) (session, totals)).2) := by
  induction events generalizing session totals with
  | nil => rfl
  | cons event rest inductionHypothesis =>
      have next : visit policy (session, before.add totals) event =
          ((visit policy (session, totals) event).1,
            before.add (visit policy (session, totals) event).2) := by
        simp only [visit, credit_add, count_add]
      rw [List.foldl_cons, List.foldl_cons, next]
      exact inductionHypothesis _ _

/-- A session adds what it comes to on its own. -/
theorem visitGroup_add (before : Totals) (group : List InteractionEvent) :
    visitGroup policy before group = before.add (visitGroup policy {} group) := by
  have added : group.foldl (visit policy) ({}, before.add {}) = _ := walk_add _ {} before {}
  rw [Totals.add_zero] at added
  unfold visitGroup
  rw [added]
  dsimp only
  split <;> simp [Totals.add, Nat.add_assoc]

/-- The totals of all sessions. -/
def total (policy : Policy) (groups : List (List InteractionEvent)) : Totals :=
  (groups.map (visitGroup policy {})).foldr Totals.add {}

theorem collect_eq (events : List InteractionEvent) :
    collect policy events = total policy (grouped events) := by
  have folded (groups : List (List InteractionEvent)) (before : Totals) :
      groups.foldl (visitGroup policy) before = before.add (total policy groups) := by
    induction groups generalizing before with
    | nil => exact before.add_zero.symm
    | cons group rest inductionHypothesis =>
        rw [List.foldl_cons, inductionHypothesis, visitGroup_add, Totals.add_assoc]
        rfl
  rw [collect, folded, Totals.zero_add]

theorem total_perm {first second : List (List InteractionEvent)} (same : first.Perm second) :
    total policy first = total policy second := by
  induction same with
  | nil => rfl
  | cons group _ inductionHypothesis => exact congrArg (Totals.add _) inductionHypothesis
  | swap left right rest => exact Totals.add_left_comm _ _ _
  | trans _ _ one other => exact one.trans other

end

/-! ## The order of the rows -/

/-- Sequences are unique within a session. -/
def UniquePairs (events : List InteractionEvent) : Prop :=
  (events.map fun event => (event.telemetrySessionId, event.sequence)).Nodup

theorem nodup_eraseDups (ids : List JsString) : ids.eraseDups.Nodup := by
  induction ids using List.reverseRecOn with
  | nil => exact .nil
  | append_singleton ids id inductionHypothesis =>
      rw [List.eraseDups_append]
      by_cases known : id ∈ ids
      · simpa [List.removeAll, known] using inductionHypothesis
      · have fresh : [id].removeAll ids = [id] := by simp [List.removeAll, known]
        rw [fresh]
        refine List.nodup_append.mpr ⟨inductionHypothesis, List.nodup_singleton _, ?_⟩
        rintro other inside single here rfl
        rw [List.mem_singleton.mp here, List.mem_eraseDups] at inside
        exact known inside

section

variable {events permuted : List InteractionEvent} (same : permuted.Perm events)

include same

theorem sessionIds_perm : (sessionIds permuted).Perm (sessionIds events) := by
  refine (List.perm_ext_iff_of_nodup (nodup_eraseDups _) (nodup_eraseDups _)).mpr fun id => ?_
  rw [List.mem_eraseDups, List.mem_eraseDups]
  exact (same.map _).mem_iff

/-- Under unique sequences the order of arrival does not show. -/
theorem sessionEvents_perm (unique : UniquePairs events) (id : JsString) :
    sessionEvents permuted id = sessionEvents events id := by
  have mine := same.filter fun event => decide (event.telemetrySessionId = id)
  refine @List.Perm.eq_of_pairwise _ bySequence _ _ ?_ (List.pairwise_insertionSort bySequence _)
    (List.pairwise_insertionSort bySequence _)
    (((List.perm_insertionSort bySequence _).trans mine).trans
      (List.perm_insertionSort bySequence _).symm)
  intro first second inLeft inRight below above
  have here := mine.mem_iff.mp ((List.perm_insertionSort bySequence _).mem_iff.mp inLeft)
  have there := (List.perm_insertionSort bySequence _).mem_iff.mp inRight
  obtain ⟨inside, own⟩ := List.mem_filter.mp here
  obtain ⟨alsoInside, other⟩ := List.mem_filter.mp there
  refine List.inj_on_of_nodup_map unique inside alsoInside
    (Prod.ext ?_ (Nat.le_antisymm below above))
  exact (of_decide_eq_true own).trans (of_decide_eq_true other).symm

theorem grouped_perm (unique : UniquePairs events) :
    (grouped permuted).Perm (grouped events) := by
  have each : (sessionIds permuted).map (sessionEvents permuted) =
      (sessionIds permuted).map (sessionEvents events) :=
    List.map_congr_left fun id _ => sessionEvents_perm same unique id
  rw [grouped, each]
  exact (sessionIds_perm same).map _

end

theorem sorted_perm {first second : List JsString} (same : first.Perm second) :
    sorted first = sorted second := by
  refine @List.Perm.eq_of_pairwise _ (· ≤ ·) _ _
    (fun _ _ _ _ below above => le_antisymm below above)
    (List.pairwise_insertionSort _ _) (List.pairwise_insertionSort _ _) ?_
  exact ((List.perm_insertionSort _ _).trans same).trans (List.perm_insertionSort _ _).symm

/-- The summary of the same events in another order. -/
theorem summarize_perm {policy : Policy} {events permuted : List InteractionEvent}
    (same : permuted.Perm events) (unique : UniquePairs events) :
    summarize policy permuted (collect policy permuted) =
      summarize policy events (collect policy events) := by
  have groups := grouped_perm same unique
  have totals : collect policy permuted = collect policy events := by
    rw [collect_eq, collect_eq, total_perm groups]
  have received := sorted_perm (groups.flatten.map InteractionEvent.receivedAt)
  have client := sorted_perm (groups.flatten.filterMap InteractionEvent.clientOccurredAt)
  simp only [summarize, totals, earliest, latest, received, client, same.length_eq,
    groups.length_eq]

/-! ### Rows -/

/-- Sequences are unique within a session of the rows. -/
def UniqueRows (rows : List StoredRow) : Prop :=
  (rows.map fun row => (row.telemetrySessionId, row.sequence)).Nodup

theorem normalizeStoredEvent_pair {row : StoredRow} {event : InteractionEvent}
    (read : normalizeStoredEvent row = .ok event) :
    event.telemetrySessionId = row.telemetrySessionId ∧ event.sequence = row.sequence := by
  unfold normalizeStoredEvent at read
  split at read
  · cases read
  · obtain ⟨clientOccurredAt, -, read⟩ := bind_ok read
    obtain ⟨monotonicMs, -, read⟩ := bind_ok read
    obtain ⟨receivedAt, -, read⟩ := bind_ok read
    obtain ⟨sequence, whole, read⟩ := bind_ok read
    obtain ⟨id, given, read⟩ := bind_ok read
    obtain rfl := Except.ok.inj read
    unfold integer at whole
    unfold token at given
    split at whole
    · cases whole
    · split at given
      · cases given
      · exact ⟨(Except.ok.inj given).symm, (Except.ok.inj whole).symm⟩

theorem normalizeStoredEvents_pairs {rows : List StoredRow} {events : List InteractionEvent}
    (read : normalizeStoredEvents rows = .ok events) :
    events.map (fun event => (event.telemetrySessionId, event.sequence)) =
      rows.map fun row => (row.telemetrySessionId, row.sequence) := by
  induction rows generalizing events with
  | nil =>
      obtain rfl := Except.ok.inj read
      rfl
  | cons row rest inductionHypothesis =>
      obtain ⟨event, first, read⟩ := bind_ok read
      obtain ⟨others, later, read⟩ := bind_ok read
      obtain rfl := Except.ok.inj read
      obtain ⟨id, sequence⟩ := normalizeStoredEvent_pair first
      rw [List.map_cons, List.map_cons, inductionHypothesis later, id, sequence]

/-- Rows in another order are read as the events in another order. -/
theorem normalizeStoredEvents_perm {rows permuted : List StoredRow} (same : permuted.Perm rows)
    {events : List InteractionEvent} (read : normalizeStoredEvents rows = .ok events) :
    ∃ others, normalizeStoredEvents permuted = .ok others ∧ others.Perm events := by
  induction same generalizing events with
  | nil => exact ⟨events, read, .refl _⟩
  | cons row _ inductionHypothesis =>
      obtain ⟨event, first, read⟩ := bind_ok read
      obtain ⟨tail, later, read⟩ := bind_ok read
      obtain rfl := Except.ok.inj read
      obtain ⟨others, found, perm⟩ := inductionHypothesis later
      refine ⟨event :: others, ?_, perm.cons _⟩
      rw [normalizeStoredEvents, first, found]
      rfl
  | swap left right rest =>
      obtain ⟨one, first, read⟩ := bind_ok read
      obtain ⟨tail, later, read⟩ := bind_ok read
      obtain ⟨two, second, later⟩ := bind_ok later
      obtain ⟨others, last, later⟩ := bind_ok later
      obtain rfl := Except.ok.inj later
      obtain rfl := Except.ok.inj read
      refine ⟨two :: one :: others, ?_, .swap _ _ _⟩
      rw [normalizeStoredEvents, second, normalizeStoredEvents, first, last]
      rfl
  | trans _ _ one other =>
      obtain ⟨middle, found, perm⟩ := other read
      obtain ⟨others, reached, samePerm⟩ := one found
      exact ⟨others, reached, samePerm.trans perm⟩

/-- What a summary is computed from. -/
theorem calculate_ok {policyValue : Policy} {rows : List StoredRow} {summary : Summary}
    (calculated : calculateActivityInteractionSummary policyValue rows = .ok summary) :
    ∃ policy events, normalizedPolicy policyValue = .ok policy ∧ rows.length ≤ 100000 ∧
      normalizeStoredEvents rows = .ok events ∧
      summary = summarize policy events (collect policy events) := by
  obtain ⟨policy, known, calculated⟩ := bind_ok calculated
  split at calculated
  · cases calculated
  · rename_i few
    obtain ⟨events, read, calculated⟩ := bind_ok calculated
    exact ⟨policy, events, known, not_lt.mp few, read, (Except.ok.inj calculated).symm⟩

theorem calculate_perm {policyValue : Policy} {rows permuted : List StoredRow}
    (same : permuted.Perm rows) (unique : UniqueRows rows) {summary : Summary}
    (calculated : calculateActivityInteractionSummary policyValue rows = .ok summary) :
    calculateActivityInteractionSummary policyValue permuted = .ok summary := by
  obtain ⟨policy, events, known, few, read, rfl⟩ := calculate_ok calculated
  obtain ⟨others, found, perm⟩ := normalizeStoredEvents_perm same read
  have pairs : UniquePairs events := by
    rw [UniquePairs, normalizeStoredEvents_pairs read]
    exact unique
  unfold calculateActivityInteractionSummary
  rw [known]
  simp only [bind, Except.bind]
  rw [if_neg (by rw [same.length_eq]; omega), found, ← summarize_perm perm pairs]
  rfl

/-! ## Steps -/

/-- An event of a session with the events before it. -/
structure Step where
  earlier : List InteractionEvent
  event : InteractionEvent

def stepsFrom : List InteractionEvent → List InteractionEvent → List Step
  | _, [] => []
  | earlier, event :: rest => ⟨earlier, event⟩ :: stepsFrom (earlier ++ [event]) rest

/-- The steps of a session, one for each event. -/
def steps (events : List InteractionEvent) : List Step := stepsFrom [] events

theorem stepsFrom_snoc (earlier events : List InteractionEvent) (event : InteractionEvent) :
    stepsFrom earlier (events ++ [event]) =
      stepsFrom earlier events ++ [⟨earlier ++ events, event⟩] := by
  induction events generalizing earlier with
  | nil => simp [stepsFrom]
  | cons first rest inductionHypothesis =>
      rw [List.cons_append, stepsFrom, inductionHypothesis, stepsFrom, List.append_assoc]
      rfl

theorem steps_snoc (events : List InteractionEvent) (event : InteractionEvent) :
    steps (events ++ [event]) = steps events ++ [⟨events, event⟩] := by
  simpa [steps] using stepsFrom_snoc [] events event

theorem mem_steps {events : List InteractionEvent} {step : Step} (inside : step ∈ steps events) :
    step.earlier ++ [step.event] <+: events := by
  induction events using List.reverseRecOn with
  | nil => cases inside
  | append_singleton events event inductionHypothesis =>
      rw [steps_snoc, List.mem_append, List.mem_singleton] at inside
      rcases inside with before | rfl
      · exact (inductionHypothesis before).trans (List.prefix_append _ _)
      · exact List.prefix_refl _

/-- The time since the previous event. -/
def Step.elapsed (step : Step) : ℤ :=
  match step.earlier.getLast? with
  | none => 0
  | some previous => (step.event.monotonicMs : ℤ) - previous.monotonicMs

/-- An event of one type came last among the events that turn it off. -/
def Holds (on : EventType) (off : List EventType) (events : List InteractionEvent) : Prop :=
  ∃ before event after, events = before ++ event :: after ∧ event.type = on ∧
    ∀ later ∈ after, later.type ∉ off

/-- The page is presented. -/
def Presented (events : List InteractionEvent) : Prop := Holds .presented [.disconnect] events

/-- The page is visible and focused. -/
def Foreground (events : List InteractionEvent) : Prop :=
  Holds .visible [.hidden, .disconnect] events ∧ Holds .focus [.blur, .disconnect] events

/-- The time of the last interaction. -/
def lastInteraction (events : List InteractionEvent) : Option ℕ :=
  (events.filter fun event => event.type = .interaction).getLast?.map InteractionEvent.monotonicMs

section

variable (policy : Policy)

/-- A step between presented events with a gap that is credited. -/
def Open (step : Step) : Prop :=
  Presented step.earlier ∧ 0 ≤ step.elapsed ∧ step.elapsed ≤ policy.maxCreditedGapSeconds * 1000

def OpenForeground (step : Step) : Prop := Open policy step ∧ Foreground step.earlier

/-- A step in the foreground that began soon enough after an interaction. -/
def Engaged (step : Step) : Prop :=
  OpenForeground policy step ∧ ∃ previous ∈ step.earlier.getLast?,
    ∃ last ∈ lastInteraction step.earlier,
      (previous.monotonicMs : ℤ) - last ≤ policy.idleSeconds * 1000

/-- A step with a gap that is not credited. -/
def Uncredited (step : Step) : Prop :=
  Presented step.earlier ∧ policy.maxCreditedGapSeconds * 1000 < step.elapsed

end

/-! ### The state of the walk -/

theorem holds_snoc (on : EventType) (off : List EventType) (events : List InteractionEvent)
    (event : InteractionEvent) :
    Holds on off (events ++ [event]) ↔
      event.type = on ∨ (event.type ∉ off ∧ Holds on off events) := by
  constructor
  · rintro ⟨before, own, after, parts, same, clear⟩
    rcases List.eq_nil_or_concat after with rfl | ⟨others, last, rfl⟩
    · obtain ⟨-, single⟩ := List.append_inj' parts rfl
      obtain rfl := (List.cons.inj single).1
      exact .inl same
    · have shape : events ++ [event] = (before ++ own :: others) ++ [last] := by
        rw [parts]
        simp
      obtain ⟨rfl, single⟩ := List.append_inj' shape rfl
      obtain rfl := (List.cons.inj single).1
      exact .inr ⟨clear event (by simp), before, own, others, rfl, same,
        fun later inside => clear later (by simp [inside])⟩
  · rintro (same | ⟨kept, before, own, after, rfl, same, clear⟩)
    · exact ⟨events, event, [], rfl, same, fun later inside => (List.not_mem_nil inside).elim⟩
    · refine ⟨before, own, after ++ [event], by simp, same, fun later inside => ?_⟩
      rcases List.mem_append.mp inside with old | new
      · exact clear later old
      · rw [List.mem_singleton.mp new]
        exact kept

theorem not_holds_nil (on : EventType) (off : List EventType) : ¬Holds on off [] := by
  rintro ⟨before, event, after, parts, -⟩
  simp at parts

/-- The session after some events. -/
def sessionAfter (events : List InteractionEvent) : Session :=
  events.foldl (fun session event => { follow event session with previous := some event }) {}

theorem sessionAfter_snoc (events : List InteractionEvent) (event : InteractionEvent) :
    sessionAfter (events ++ [event]) =
      { follow event (sessionAfter events) with previous := some event } := by
  rw [sessionAfter, List.foldl_append]
  rfl

/-- The state is what the last events of each kind have left. -/
structure Tracks (session : Session) (events : List InteractionEvent) : Prop where
  previous : session.previous = events.getLast?
  opened : session.opened = true ↔ Presented events
  foreground : (session.visible && session.focused) = true ↔ Foreground events
  interaction : session.lastInteractionMs = lastInteraction events

theorem sessionAfter_flags (events : List InteractionEvent) :
    ((sessionAfter events).opened = true ↔ Presented events) ∧
      ((sessionAfter events).visible = true ↔ Holds .visible [.hidden, .disconnect] events) ∧
        ((sessionAfter events).focused = true ↔ Holds .focus [.blur, .disconnect] events) := by
  induction events using List.reverseRecOn with
  | nil =>
      refine ⟨?_, ?_, ?_⟩ <;>
        exact iff_of_false Bool.false_ne_true (not_holds_nil _ _)
  | append_singleton events event inductionHypothesis =>
      obtain ⟨opened, visible, focused⟩ := inductionHypothesis
      unfold Presented at opened ⊢
      rw [sessionAfter_snoc, holds_snoc, holds_snoc, holds_snoc, ← opened, ← visible, ← focused]
      cases kind : event.type <;> simp [follow, kind]

theorem lastInteraction_snoc (events : List InteractionEvent) (event : InteractionEvent) :
    lastInteraction (events ++ [event]) =
      if event.type = .interaction then some event.monotonicMs else lastInteraction events := by
  unfold lastInteraction
  rw [List.filter_append]
  by_cases kind : event.type = .interaction <;> simp [kind]

theorem sessionAfter_tracks (events : List InteractionEvent) :
    Tracks (sessionAfter events) events := by
  obtain ⟨opened, visible, focused⟩ := sessionAfter_flags events
  refine ⟨?_, opened, ?_, ?_⟩
  · rcases List.eq_nil_or_concat events with rfl | ⟨others, last, rfl⟩
    · rfl
    · rw [List.concat_eq_append, sessionAfter_snoc]
      simp
  · rw [Bool.and_eq_true, visible, focused]
    rfl
  · clear opened visible focused
    induction events using List.reverseRecOn with
    | nil => rfl
    | append_singleton events event inductionHypothesis =>
        rw [sessionAfter_snoc, lastInteraction_snoc, ← inductionHypothesis]
        cases kind : event.type <;> simp [follow, kind]

/-! ### The credit of a step -/

/-- What a step adds. -/
def Step.credited (policy : Policy) (step : Step) : Totals :=
  credit policy (sessionAfter step.earlier) step.event {}

theorem walk_snoc (policy : Policy) (events : List InteractionEvent) (event : InteractionEvent) :
    (events ++ [event]).foldl (visit policy) ({}, {}) =
      visit policy (events.foldl (visit policy) ({}, {})) event := by
  rw [List.foldl_append]
  rfl

theorem walk_session (policy : Policy) (events : List InteractionEvent) :
    (events.foldl (visit policy) ({}, {})).1 = sessionAfter events := by
  induction events using List.reverseRecOn with
  | nil => rfl
  | append_singleton events event inductionHypothesis =>
      rw [walk_snoc, sessionAfter_snoc, ← inductionHypothesis]
      rfl

/-- A time of the walk is the sum over the steps. -/
theorem walk_time (policy : Policy) {time : Totals → ℕ} (none : time {} = 0)
    (added : ∀ first second : Totals, time (first.add second) = time first + time second)
    (uncounted : ∀ type totals, time (count type totals) = time totals)
    (events : List InteractionEvent) :
    time (events.foldl (visit policy) ({}, {})).2 =
      ((steps events).map fun step => time (step.credited policy)).sum := by
  induction events using List.reverseRecOn with
  | nil => exact none
  | append_singleton events event inductionHypothesis =>
      have credited := @credit_add policy (sessionAfter events) event
        (events.foldl (visit policy) ({}, {})).2 {}
      rw [Totals.add_zero] at credited
      rw [walk_snoc, steps_snoc, List.map_append, List.sum_append, ← inductionHypothesis, visit,
        walk_session, uncounted, credited, added]
      simp [Step.credited]

/-- A time of the summary is the sum over the steps of all sessions. -/
theorem collect_time (policy : Policy) (time : Totals → ℕ) (none : time {} = 0)
    (added : ∀ first second : Totals, time (first.add second) = time first + time second)
    (uncounted : ∀ type totals, time (count type totals) = time totals)
    (incomplete : ∀ (totals : Totals) (sessions : ℕ),
      time { totals with incompleteSessionCount := sessions } = time totals)
    (events : List InteractionEvent) :
    time (collect policy events) = ((grouped events).map fun group =>
      ((steps group).map fun step => time (step.credited policy)).sum).sum := by
  rw [collect_eq]
  induction grouped events with
  | nil => exact none
  | cons group rest inductionHypothesis =>
      have first : time (visitGroup policy {} group) =
          ((steps group).map fun step => time (step.credited policy)).sum := by
        rw [← walk_time policy none added uncounted, visitGroup]
        dsimp only
        split
        · exact incomplete _ _
        · rfl
      rw [List.map_cons, List.sum_cons, ← inductionHypothesis, ← first, ← added]
      rfl

section

variable {policy : Policy}

theorem elapsed_eq {step : Step} {previous : InteractionEvent}
    (found : step.earlier.getLast? = some previous) :
    step.elapsed = (step.event.monotonicMs : ℤ) - previous.monotonicMs := by
  rw [Step.elapsed, found]

/-- The first event of a session is no step of time. -/
theorem presented_previous {step : Step} (presented : Presented step.earlier) :
    ∃ previous, step.earlier.getLast? = some previous := by
  cases found : step.earlier.getLast? with
  | none =>
      rw [Presented, List.getLast?_eq_none_iff.mp found] at presented
      exact (not_holds_nil _ _ presented).elim
  | some previous => exact ⟨previous, rfl⟩

/-- Nothing is added unless the page is presented. -/
theorem credited_closed {step : Step} (closed : ¬Presented step.earlier) :
    step.credited policy = {} := by
  have tracks := sessionAfter_tracks step.earlier
  have shut : ¬(sessionAfter step.earlier).opened = true := fun opened =>
    closed (tracks.opened.mp opened)
  unfold Step.credited credit
  split
  · rfl
  · dsimp only
    rw [if_neg fun both => shut both.1, if_neg shut]

/-- A gap is counted and gets no credit. -/
theorem credited_gap {step : Step} (presented : Presented step.earlier)
    (gap : step.elapsed < 0 ∨ policy.maxCreditedGapSeconds * 1000 < step.elapsed) :
    step.credited policy = { gapCount := 1, uncreditedGapMilliseconds := step.elapsed.toNat } := by
  have tracks := sessionAfter_tracks step.earlier
  obtain ⟨previous, found⟩ := presented_previous presented
  rw [elapsed_eq found] at gap ⊢
  unfold Step.credited credit
  rw [tracks.previous, found]
  dsimp only
  rw [if_pos ⟨tracks.opened.mpr presented, gap⟩]
  have positive : (max 0 ((step.event.monotonicMs : ℤ) - previous.monotonicMs)).toNat =
      ((step.event.monotonicMs : ℤ) - previous.monotonicMs).toNat := by omega
  rw [positive, Nat.zero_add, Nat.zero_add]

open Classical in
/-- A credited step adds its time to what it counts for. -/
theorem credited_open {step : Step} (credited : Open policy step) :
    step.credited policy = {
      openMilliseconds := step.elapsed.toNat
      foregroundVisibleMilliseconds :=
        if OpenForeground policy step then step.elapsed.toNat else 0
      engagedMilliseconds := if Engaged policy step then step.elapsed.toNat else 0 } := by
  have tracks := sessionAfter_tracks step.earlier
  obtain ⟨presented, least, most⟩ := credited
  obtain ⟨previous, found⟩ := presented_previous presented
  have seen : ((sessionAfter step.earlier).visible && (sessionAfter step.earlier).focused) = true ↔
      OpenForeground policy step :=
    tracks.foreground.trans (and_iff_right ⟨presented, least, most⟩).symm
  have engaged : ((sessionAfter step.earlier).visible && (sessionAfter step.earlier).focused &&
      (sessionAfter step.earlier).lastInteractionMs.any fun last : ℕ =>
        decide ((previous.monotonicMs : ℤ) - last ≤ policy.idleSeconds * 1000)) = true ↔
      Engaged policy step := by
    rw [Bool.and_eq_true, seen, Engaged, tracks.interaction, Option.any_eq_true, found]
    simp
  rw [elapsed_eq found] at least most ⊢
  unfold Step.credited credit
  rw [tracks.previous, found]
  dsimp only
  rw [if_neg (by omega), if_pos (tracks.opened.mpr presented), Nat.zero_add, Nat.zero_add,
    Nat.zero_add]
  simp only [seen, engaged]

/-- The three kinds of steps. -/
theorem step_cases (policy : Policy) (step : Step) : Open policy step ∨
    (Presented step.earlier ∧ (step.elapsed < 0 ∨
      policy.maxCreditedGapSeconds * 1000 < step.elapsed)) ∨ ¬Presented step.earlier := by
  by_cases presented : Presented step.earlier
  · by_cases least : 0 ≤ step.elapsed
    · by_cases most : step.elapsed ≤ policy.maxCreditedGapSeconds * 1000
      · exact .inl ⟨presented, least, most⟩
      · exact .inr (.inl ⟨presented, .inr (not_le.mp most)⟩)
    · exact .inr (.inl ⟨presented, .inl (not_le.mp least)⟩)
  · exact .inr (.inr presented)

open Classical in
/-- What each time of a step is. -/
theorem credited_times (policy : Policy) (step : Step) :
    (step.credited policy).openMilliseconds =
        (if Open policy step then step.elapsed.toNat else 0) ∧
      (step.credited policy).foregroundVisibleMilliseconds =
        (if OpenForeground policy step then step.elapsed.toNat else 0) ∧
      (step.credited policy).engagedMilliseconds =
        (if Engaged policy step then step.elapsed.toNat else 0) ∧
      (step.credited policy).uncreditedGapMilliseconds =
        (if Uncredited policy step then step.elapsed.toNat else 0) := by
  rcases step_cases policy step with credited | ⟨presented, gap⟩ | closed
  · have counted : ¬Uncredited policy step := fun gap => absurd credited.2.2 (not_le.mpr gap.2)
    rw [credited_open credited, if_pos credited, if_neg counted]
    exact ⟨rfl, rfl, rfl, rfl⟩
  · have uncredited : ¬Open policy step := fun credited => by
      have least := credited.2.1
      have most := credited.2.2
      omega
    rw [credited_gap presented gap, if_neg uncredited, if_neg fun seen => uncredited seen.1,
      if_neg fun engaged => uncredited engaged.1.1]
    refine ⟨rfl, rfl, rfl, ?_⟩
    rcases gap with back | long
    · have nothing : step.elapsed.toNat = 0 := by omega
      simp [nothing]
    · rw [if_pos ⟨presented, long⟩]
  · rw [credited_closed closed, if_neg fun credited => closed credited.1,
      if_neg fun seen => closed seen.1.1, if_neg fun engaged => closed engaged.1.1.1,
      if_neg fun gap => closed gap.1]
    exact ⟨rfl, rfl, rfl, rfl⟩

end

/-! ## Laws of the summary -/

open Classical in
/-- The time of the steps of some kind, over all sessions. -/
noncomputable def timeOf (kind : Step → Prop) (groups : List (List InteractionEvent)) : ℕ :=
  (groups.map fun group =>
    ((steps group).map fun step => if kind step then step.elapsed.toNat else 0).sum).sum

theorem timeOf_le {few many : Step → Prop} (groups : List (List InteractionEvent))
    (within : ∀ step, few step → many step) : timeOf few groups ≤ timeOf many groups := by
  refine List.sum_le_sum fun group _ => List.sum_le_sum fun step _ => ?_
  by_cases kept : few step
  · rw [if_pos kept, if_pos (within step kept)]
  · rw [if_neg kept]
    exact Nat.zero_le _

theorem collect_times (policy : Policy) (events : List InteractionEvent) :
    (collect policy events).openMilliseconds = timeOf (Open policy) (grouped events) ∧
      (collect policy events).foregroundVisibleMilliseconds =
        timeOf (OpenForeground policy) (grouped events) ∧
      (collect policy events).engagedMilliseconds = timeOf (Engaged policy) (grouped events) ∧
      (collect policy events).uncreditedGapMilliseconds =
        timeOf (Uncredited policy) (grouped events) := by
  refine ⟨?_, ?_, ?_, ?_⟩
  · rw [collect_time policy Totals.openMilliseconds rfl (fun _ _ => rfl)
      (fun type _ => by cases type <;> rfl) (fun _ _ => rfl)]
    simp only [(credited_times policy _).1, timeOf]
  · rw [collect_time policy Totals.foregroundVisibleMilliseconds rfl (fun _ _ => rfl)
      (fun type _ => by cases type <;> rfl) (fun _ _ => rfl)]
    simp only [(credited_times policy _).2.1, timeOf]
  · rw [collect_time policy Totals.engagedMilliseconds rfl (fun _ _ => rfl)
      (fun type _ => by cases type <;> rfl) (fun _ _ => rfl)]
    simp only [(credited_times policy _).2.2.1, timeOf]
  · rw [collect_time policy Totals.uncreditedGapMilliseconds rfl (fun _ _ => rfl)
      (fun type _ => by cases type <;> rfl) (fun _ _ => rfl)]
    simp only [(credited_times policy _).2.2.2, timeOf]

/-- The times of a session do not decrease. -/
def NonDecreasing (events : List InteractionEvent) : Prop :=
  events.Pairwise fun first second => first.monotonicMs ≤ second.monotonicMs

/-- The time from the first event of a session to its last. -/
def sessionElapsed (events : List InteractionEvent) : ℕ :=
  match events.head?, events.getLast? with
  | some first, some last => last.monotonicMs - first.monotonicMs
  | _, _ => 0

/-- The steps of a session add up to its time. -/
theorem steps_elapsed {events : List InteractionEvent} (ordered : NonDecreasing events) :
    ((steps events).map fun step => step.elapsed.toNat).sum = sessionElapsed events := by
  induction events using List.reverseRecOn with
  | nil => rfl
  | append_singleton events event inductionHypothesis =>
      obtain ⟨before, -, below⟩ := List.pairwise_append.mp ordered
      rw [steps_snoc, List.map_append, List.sum_append, inductionHypothesis before]
      simp only [List.map_cons, List.map_nil, List.sum_cons, List.sum_nil, Nat.add_zero,
        sessionElapsed, Step.elapsed]
      cases events with
      | nil => simp
      | cons first rest =>
          obtain ⟨last, found⟩ : ∃ last, (first :: rest).getLast? = some last :=
            ⟨_, List.getLast?_eq_getLast_of_ne_nil (List.cons_ne_nil _ _)⟩
          have inside := List.mem_of_mem_getLast? found
          have late : last.monotonicMs ≤ event.monotonicMs :=
            below last inside event (List.mem_singleton_self _)
          have early : first.monotonicMs ≤ last.monotonicMs := by
            rcases List.mem_cons.mp inside with rfl | later
            · exact le_rfl
            · exact (List.pairwise_cons.mp before).1 last later
          have start : (first :: rest ++ [event]).head? = some first := rfl
          have stop : (first :: rest ++ [event]).getLast? = some event := by
            rw [List.getLast?_append]
            rfl
          rw [found, start, stop, List.head?_cons]
          dsimp only
          omega

/-- The laws of the times of a summary. -/
structure TimingLaws (policy : Policy) (groups : List (List InteractionEvent)) (timing : Timing) :
    Prop where
  engaged : timing.engagedMilliseconds ≤ timing.foregroundVisibleMilliseconds
  foreground : timing.foregroundVisibleMilliseconds ≤ timing.openMilliseconds
  elapsed : (∀ group ∈ groups, NonDecreasing group) →
    timing.openMilliseconds + timing.uncreditedGapMilliseconds ≤
      (groups.map sessionElapsed).sum
  openTime : timing.openMilliseconds = timeOf (Open policy) groups
  foregroundTime : timing.foregroundVisibleMilliseconds = timeOf (OpenForeground policy) groups
  engagedTime : timing.engagedMilliseconds = timeOf (Engaged policy) groups
  recent : ∀ group ∈ groups, ∀ step ∈ steps group, Engaged policy step →
    ∃ interaction ∈ step.earlier, interaction.type = .interaction ∧
      (step.event.monotonicMs : ℤ) ≤ interaction.monotonicMs +
        (policy.idleSeconds + policy.maxCreditedGapSeconds) * 1000 ∧
      (NonDecreasing group → ∀ previous ∈ step.earlier.getLast?,
        interaction.monotonicMs ≤ previous.monotonicMs)

theorem lastInteraction_mem {events : List InteractionEvent} {time : ℕ}
    (found : lastInteraction events = some time) :
    ∃ interaction ∈ events, interaction.type = .interaction ∧ interaction.monotonicMs = time := by
  obtain ⟨interaction, last, rfl⟩ := Option.map_eq_some_iff.mp found
  obtain ⟨inside, kind⟩ := List.mem_filter.mp (List.mem_of_mem_getLast? last)
  exact ⟨interaction, inside, of_decide_eq_true kind, rfl⟩

/-- The last of some ordered events is the latest. -/
theorem NonDecreasing.last {events : List InteractionEvent} (ordered : NonDecreasing events)
    {own last : InteractionEvent} (inside : own ∈ events) (found : events.getLast? = some last) :
    own.monotonicMs ≤ last.monotonicMs := by
  obtain ⟨before, rfl⟩ := List.getLast?_eq_some_iff.mp found
  rcases List.mem_append.mp inside with earlier | same
  · exact (List.pairwise_append.mp ordered).2.2 own earlier last (List.mem_singleton_self _)
  · rw [List.mem_singleton.mp same]

theorem engaged_recent {policy : Policy} {group : List InteractionEvent} {step : Step}
    (inside : step ∈ steps group) (engaged : Engaged policy step) :
    ∃ interaction ∈ step.earlier, interaction.type = .interaction ∧
      (step.event.monotonicMs : ℤ) ≤ interaction.monotonicMs +
        (policy.idleSeconds + policy.maxCreditedGapSeconds) * 1000 ∧
      (NonDecreasing group → ∀ previous ∈ step.earlier.getLast?,
        interaction.monotonicMs ≤ previous.monotonicMs) := by
  obtain ⟨⟨⟨-, -, most⟩, -⟩, previous, found, time, last, near⟩ := engaged
  obtain ⟨interaction, member, kind, rfl⟩ := lastInteraction_mem last
  rw [elapsed_eq found] at most
  refine ⟨interaction, member, kind, by omega, fun ordered other again => ?_⟩
  have sublist := ((List.prefix_append _ _).trans (mem_steps inside)).sublist
  exact NonDecreasing.last (ordered.sublist sublist) member again

theorem timing_laws (policy : Policy) (events : List InteractionEvent) :
    TimingLaws policy (grouped events)
      (summarize policy events (collect policy events)).timing := by
  obtain ⟨openTime, foregroundTime, engagedTime, uncreditedTime⟩ := collect_times policy events
  refine ⟨?_, ?_, fun ordered => ?_, openTime, foregroundTime, engagedTime,
    fun group _ step inside => engaged_recent inside⟩
  · simp only [summarize, foregroundTime, engagedTime]
    exact timeOf_le _ fun step engaged => engaged.1
  · simp only [summarize, foregroundTime, openTime]
    exact timeOf_le _ fun step seen => seen.1
  · simp only [summarize, openTime, uncreditedTime, timeOf]
    rw [← List.sum_map_add]
    refine List.sum_le_sum fun group member => ?_
    rw [← steps_elapsed (ordered group member), ← List.sum_map_add]
    refine List.sum_le_sum fun step _ => ?_
    by_cases credited : Open policy step
    · have counted : ¬Uncredited policy step := fun gap => absurd credited.2.2 (not_le.mpr gap.2)
      rw [if_pos credited, if_neg counted, Nat.add_zero]
    · rw [if_neg credited, Nat.zero_add]
      split
      · exact le_rfl
      · exact Nat.zero_le _

/-- The summary of stored rows: the same in every order, with the laws of its times. -/
theorem interaction_summary_laws {policyValue : Policy} {rows : List StoredRow}
    {summary : Summary} (unique : UniqueRows rows)
    (calculated : calculateActivityInteractionSummary policyValue rows = .ok summary) :
    (∀ permuted : List StoredRow, permuted.Perm rows →
      calculateActivityInteractionSummary policyValue permuted = .ok summary) ∧
      ∃ policy events, normalizedPolicy policyValue = .ok policy ∧
        normalizeStoredEvents rows = .ok events ∧
        TimingLaws policy (grouped events) summary.timing := by
  refine ⟨fun permuted same => calculate_perm same unique calculated, ?_⟩
  obtain ⟨policy, events, known, -, read, rfl⟩ := calculate_ok calculated
  exact ⟨policy, events, known, read, timing_laws policy events⟩

/-! ### A short visit -/

def visitPolicy : Policy := ⟨10, 60, 20, ACTIVITY_INTERACTION_POLICY_VERSION⟩

def visitRow (sequence monotonicMs : ℕ) (eventType : JsString) : StoredRow where
  clientOccurredAt := none
  eventType
  monotonicMs
  receivedAt := js "2026-01-05T09:00:00.000Z"
  sequence
  telemetrySessionId := js "session"

/-- Ten seconds in the foreground, five of them after an interaction. -/
def shortVisit : List StoredRow :=
  [visitRow 1 0 (js "presented"), visitRow 2 0 (js "visible"), visitRow 3 0 (js "focus"),
    visitRow 4 5000 (js "interaction"), visitRow 5 10000 (js "disconnect")]

theorem interaction_summary_laws_shortVisit : ∃ summary,
    calculateActivityInteractionSummary visitPolicy shortVisit.reverse = .ok summary ∧
      summary.timing.engagedMilliseconds ≤ summary.timing.openMilliseconds := by
  have accepted : (calculateActivityInteractionSummary visitPolicy shortVisit).toOption.isSome =
      true := by decide +kernel
  cases calculated : calculateActivityInteractionSummary visitPolicy shortVisit with
  | error failure =>
      rw [calculated] at accepted
      cases accepted
  | ok summary =>
      have unique : UniqueRows shortVisit := by
        unfold UniqueRows
        decide
      obtain ⟨permuted, policy, events, -, -, laws⟩ := interaction_summary_laws unique calculated
      exact ⟨summary, permuted _ (List.reverse_perm _), laws.engaged.trans laws.foreground⟩

end Vasi.ActivityInteraction
