import Vasi.MediaSummary

/-!
# The order of the rows

What the summary makes of the same rows in another order. The totals of a session are
added to those of the others, and within a session the sequence fixes the order, so the
order of the rows shows only where lists are kept: the intervals, whose union is
measured, and the observed durations, of which the last one is the candidate.
-/
namespace Vasi.MediaSummary

open JsValue Media MediaTelemetry

/-! ## Totals are added up -/

/-- The totals of one part after those of another. -/
def Totals.add (first second : Totals) : Totals where
  openMilliseconds := first.openMilliseconds + second.openMilliseconds
  visibleMilliseconds := first.visibleMilliseconds + second.visibleMilliseconds
  engagedMilliseconds := first.engagedMilliseconds + second.engagedMilliseconds
  gapCount := first.gapCount + second.gapCount
  uncreditedGapMilliseconds := first.uncreditedGapMilliseconds + second.uncreditedGapMilliseconds
  seekCount := first.seekCount + second.seekCount
  skippedMilliseconds := first.skippedMilliseconds + second.skippedMilliseconds
  endedObserved := first.endedObserved || second.endedObserved
  providerErrorCount := first.providerErrorCount + second.providerErrorCount
  disconnectCount := first.disconnectCount + second.disconnectCount
  incompleteSessionCount := first.incompleteSessionCount + second.incompleteSessionCount
  intervals := first.intervals ++ second.intervals
  observedDurations := first.observedDurations ++ second.observedDurations

theorem Totals.add_zero (totals : Totals) : totals.add {} = totals := by
  simp [Totals.add]

theorem Totals.zero_add (totals : Totals) : Totals.add {} totals = totals := by
  simp [Totals.add]

theorem Totals.add_assoc (first second third : Totals) :
    (first.add second).add third = first.add (second.add third) := by
  simp [Totals.add, Nat.add_assoc, Bool.or_assoc]

section

variable {policy : TelemetryPolicy}

theorem creditTime_add (event : MediaEvent) (session : Session) (before totals : Totals) :
    creditTime policy event session (before.add totals) =
      ((creditTime policy event session totals).1,
        before.add (creditTime policy event session totals).2) := by
  unfold creditTime
  split
  · rfl
  · split
    · simp [Totals.add, Nat.add_assoc]
    · dsimp only
      split <;> simp [Totals.add, Nat.add_assoc]

theorem creditAdvance_add (sample next : Sample) (before totals : Totals) :
    creditAdvance policy sample next (before.add totals) =
      before.add (creditAdvance policy sample next totals) := by
  unfold creditAdvance
  split
  · split <;> simp [Totals.add]
  · split <;> simp [Totals.add, Nat.add_assoc]

theorem creditPosition_add (event : MediaEvent) (creditable : Bool) (session : Session)
    (before totals : Totals) :
    creditPosition policy event creditable session (before.add totals) =
      ((creditPosition policy event creditable session totals).1,
        before.add (creditPosition policy event creditable session totals).2) := by
  unfold creditPosition
  split
  · rfl
  · dsimp only
    split
    · split
      · rw [creditAdvance_add]
      · rfl
    · rfl

theorem reportDuration_add (event : MediaEvent) (before totals : Totals) :
    reportDuration event (before.add totals) = before.add (reportDuration event totals) := by
  simp [reportDuration, Totals.add]

theorem follow_add (event : MediaEvent) (session : Session) (before totals : Totals) :
    follow event session (before.add totals) =
      ((follow event session totals).1, before.add (follow event session totals).2) := by
  unfold follow
  split <;> simp [Totals.add, Nat.add_assoc]

theorem visit_add (session : Session) (before totals : Totals) (event : MediaEvent) :
    visit policy (session, before.add totals) event =
      ((visit policy (session, totals) event).1,
        before.add (visit policy (session, totals) event).2) := by
  simp only [visit, creditTime_add, reportDuration_add, creditPosition_add, follow_add]

theorem walk_add (group : List MediaEvent) (session : Session) (before totals : Totals) :
    group.foldl (visit policy) (session, before.add totals) =
      ((group.foldl (visit policy) (session, totals)).1,
        before.add (group.foldl (visit policy) (session, totals)).2) := by
  induction group generalizing session totals with
  | nil => rfl
  | cons event rest inductionHypothesis =>
      rw [List.foldl_cons, List.foldl_cons, visit_add]
      exact inductionHypothesis _ _

/-- A session adds what it comes to on its own. -/
theorem visitGroup_add (before : Totals) (group : List MediaEvent) :
    visitGroup policy before group = before.add (visitGroup policy {} group) := by
  have added : (group.insertionSort bySequence).foldl (visit policy) ({}, before.add {}) = _ :=
    walk_add _ {} before {}
  rw [Totals.add_zero] at added
  unfold visitGroup
  rw [added]
  dsimp only
  split <;> simp [Totals.add, Nat.add_assoc]

/-- The totals of all sessions. -/
def total (policy : TelemetryPolicy) (groups : Groups) : Totals :=
  (groups.map fun group => visitGroup policy {} group.2).foldr Totals.add {}

theorem collect_eq (rows : List MediaRow) : collect policy rows = total policy (grouped rows) := by
  have folded (groups : Groups) (before : Totals) :
      groups.foldl (fun totals group => visitGroup policy totals group.2) before =
        before.add (total policy groups) := by
    induction groups generalizing before with
    | nil => exact before.add_zero.symm
    | cons group rest inductionHypothesis =>
        rw [List.foldl_cons, inductionHypothesis, visitGroup_add, Totals.add_assoc]
        rfl
  rw [collect, folded, Totals.zero_add]

end

/-! ## Totals up to the order of their lists -/

/-- The same totals but for the order of the two lists. -/
structure Totals.Same (first second : Totals) : Prop where
  counts : { first with intervals := [], observedDurations := [] } =
    ({ second with intervals := [], observedDurations := [] } : Totals)
  intervals : first.intervals.Perm second.intervals
  observedDurations : first.observedDurations.Perm second.observedDurations

theorem Totals.Same.refl (totals : Totals) : totals.Same totals := ⟨rfl, .refl _, .refl _⟩

theorem Totals.Same.trans {first second third : Totals} (one : first.Same second)
    (other : second.Same third) : first.Same third :=
  ⟨one.counts.trans other.counts, one.intervals.trans other.intervals,
    one.observedDurations.trans other.observedDurations⟩

theorem Totals.Same.add (before : Totals) {first second : Totals} (same : first.Same second) :
    (before.add first).Same (before.add second) := by
  refine ⟨?_, same.intervals.append_left _, same.observedDurations.append_left _⟩
  have counts := same.counts
  simp only [Totals.mk.injEq, and_true] at counts
  obtain ⟨one, two, three, four, five, six, seven, eight, nine, ten, eleven⟩ := counts
  simp only [Totals.add, one, two, three, four, five, six, seven, eight, nine, ten, eleven]

theorem Totals.add_swap (first second third : Totals) :
    (first.add (second.add third)).Same (second.add (first.add third)) := by
  refine ⟨?_, ?_, ?_⟩
  · simp [Totals.add, Nat.add_left_comm, Bool.or_left_comm]
  · exact List.perm_append_comm_assoc _ _ _
  · exact List.perm_append_comm_assoc _ _ _

theorem total_perm {policy : TelemetryPolicy} {first second : Groups} (same : first.Perm second) :
    (total policy first).Same (total policy second) := by
  induction same with
  | nil => exact .refl _
  | cons group _ inductionHypothesis => exact .add _ inductionHypothesis
  | swap left right rest => exact Totals.add_swap _ _ _
  | trans _ _ one other => exact one.trans other

/-! ## Groups -/

/-- The events of a session, in the order of the rows. -/
def eventsOf (rows : List MediaRow) (key : JsString) : List MediaEvent :=
  (rows.filter fun row => sessionKey row = key).map MediaRow.event

theorem grouped_snoc (rows : List MediaRow) (row : MediaRow) :
    grouped (rows ++ [row]) = addToGroup (sessionKey row) row.event (grouped rows) := by
  rw [grouped, List.foldl_append]
  rfl

theorem eventsOf_snoc (rows : List MediaRow) (row : MediaRow) (key : JsString) :
    eventsOf (rows ++ [row]) key =
      eventsOf rows key ++ if sessionKey row = key then [row.event] else [] := by
  by_cases same : sessionKey row = key <;> simp [eventsOf, List.filter_append, same]

theorem addToGroup_new {key : JsString} {event : MediaEvent} {groups : Groups}
    (absent : key ∉ groups.map Prod.fst) :
    addToGroup key event groups = groups ++ [(key, [event])] := by
  induction groups with
  | nil => rfl
  | cons group rest inductionHypothesis =>
      rw [List.map_cons, List.mem_cons, not_or] at absent
      obtain ⟨other, events⟩ := group
      rw [addToGroup, if_neg (Ne.symm absent.1), inductionHypothesis absent.2, List.cons_append]

theorem addToGroup_old {key : JsString} {event : MediaEvent} {before after : Groups}
    {group : List MediaEvent} (absent : key ∉ before.map Prod.fst) :
    addToGroup key event (before ++ (key, group) :: after) =
      before ++ (key, group ++ [event]) :: after := by
  induction before with
  | nil => rw [List.nil_append, addToGroup, if_pos rfl, List.nil_append]
  | cons first rest inductionHypothesis =>
      rw [List.map_cons, List.mem_cons, not_or] at absent
      obtain ⟨other, events⟩ := first
      rw [List.cons_append, addToGroup, if_neg (Ne.symm absent.1), inductionHypothesis absent.2,
        List.cons_append]

/-- The groups of a list of rows, one for each session that has rows. -/
structure GroupsOf (rows : List MediaRow) (groups : Groups) : Prop where
  distinct : (groups.map Prod.fst).Nodup
  member : ∀ key group, (key, group) ∈ groups ↔ group ≠ [] ∧ group = eventsOf rows key

/-- One more row goes to the group of its session. -/
theorem GroupsOf.add {rows : List MediaRow} {groups : Groups} (of : GroupsOf rows groups)
    (row : MediaRow) :
    GroupsOf (rows ++ [row]) (addToGroup (sessionKey row) row.event groups) := by
  by_cases present : sessionKey row ∈ groups.map Prod.fst
  · obtain ⟨⟨key, group⟩, inside, rfl⟩ := List.mem_map.mp present
    obtain ⟨before, after, rfl⟩ := List.append_of_mem inside
    have distinct := of.distinct
    rw [List.map_append, List.map_cons] at distinct
    obtain ⟨_, behind, apart⟩ := List.nodup_append.mp distinct
    have notBefore : sessionKey row ∉ before.map Prod.fst := fun there =>
      apart _ there _ List.mem_cons_self rfl
    have notAfter : sessionKey row ∉ after.map Prod.fst := (List.nodup_cons.mp behind).1
    obtain ⟨_, here⟩ := (of.member _ _).mp inside
    rw [addToGroup_old notBefore]
    refine ⟨by rw [List.map_append, List.map_cons]; exact distinct, fun other events => ?_⟩
    have old := of.member other events
    rw [eventsOf_snoc]
    simp only [List.mem_append, List.mem_cons, Prod.mk.injEq] at old ⊢
    by_cases same : sessionKey row = other
    · subst same
      rw [if_pos rfl]
      constructor
      · rintro (there | ⟨_, rfl⟩ | there)
        · exact absurd (List.mem_map_of_mem there) notBefore
        · exact ⟨by simp, by rw [here]⟩
        · exact absurd (List.mem_map_of_mem there) notAfter
      · rintro ⟨_, rfl⟩
        exact .inr (.inl ⟨rfl, by rw [here]⟩)
    · rw [if_neg same, List.append_nil, ← old]
      have apartFrom : ¬ other = sessionKey row := fun equal => same equal.symm
      simp [apartFrom]
  · have none : eventsOf rows (sessionKey row) = [] := by
      by_contra some
      exact present (List.mem_map_of_mem ((of.member _ _).mpr ⟨some, rfl⟩))
    rw [addToGroup_new present]
    refine ⟨?_, fun other events => ?_⟩
    · rw [List.map_append]
      refine List.nodup_append.mpr ⟨of.distinct, List.nodup_singleton _, ?_⟩
      rintro key there other single rfl
      rw [List.map_singleton, List.mem_singleton] at single
      rw [single] at there
      exact present there
    · rw [List.mem_append, of.member, List.mem_singleton, Prod.mk.injEq, eventsOf_snoc]
      by_cases same : sessionKey row = other
      · subst same
        rw [if_pos rfl, none, List.nil_append]
        constructor
        · rintro (⟨some, rfl⟩ | ⟨_, rfl⟩)
          · exact absurd rfl some
          · exact ⟨by simp, rfl⟩
        · rintro ⟨_, rfl⟩
          exact .inr ⟨rfl, rfl⟩
      · rw [if_neg same, List.append_nil]
        constructor
        · rintro (there | ⟨rfl, _⟩)
          · exact there
          · exact absurd rfl same
        · exact Or.inl

theorem grouped_of (rows : List MediaRow) : GroupsOf rows (grouped rows) := by
  induction rows using List.reverseRecOn with
  | nil =>
      refine ⟨.nil, fun key group => ?_⟩
      simp [grouped, eventsOf]
  | append_singleton rows row inductionHypothesis =>
      rw [grouped_snoc]
      exact inductionHypothesis.add row

/-- The sessions and their events, each in the order of the sequence. -/
def sortGroups (groups : Groups) : Groups :=
  groups.map fun group => (group.1, group.2.insertionSort bySequence)

/-- Sequences are unique within a session. -/
def UniquePairs (rows : List MediaRow) : Prop :=
  (rows.map fun row => (sessionKey row, row.event.sequence)).Nodup

theorem UniquePairs.eventsOf {rows : List MediaRow} (unique : UniquePairs rows)
    (key : JsString) : ((eventsOf rows key).map MediaEvent.sequence).Nodup := by
  have mine : ((rows.filter fun row => sessionKey row = key).map
      fun row => (sessionKey row, row.event.sequence)).Nodup :=
    (List.filter_sublist.map _).nodup unique
  rw [MediaSummary.eventsOf, List.map_map]
  refine (List.nodup_map_iff_inj_on ?_).mpr ?_
  · exact mine.of_map
  · intro one first other second same
    have keys : sessionKey one = sessionKey other :=
      (of_decide_eq_true (List.mem_filter.mp first).2).trans
        (of_decide_eq_true (List.mem_filter.mp second).2).symm
    exact List.inj_on_of_nodup_map mine first second (Prod.ext keys same)

/-- Under unique sequences the order of arrival does not show. -/
theorem sort_eventsOf {rows permuted : List MediaRow} (same : permuted.Perm rows)
    (unique : UniquePairs rows) (key : JsString) :
    (eventsOf permuted key).insertionSort bySequence =
      (eventsOf rows key).insertionSort bySequence := by
  have perm : (eventsOf permuted key).Perm (eventsOf rows key) := (same.filter _).map _
  have sorted := List.perm_insertionSort bySequence (eventsOf rows key)
  refine @List.Perm.eq_of_pairwise _ bySequence _ _ ?_ (List.pairwise_insertionSort bySequence _)
    (List.pairwise_insertionSort bySequence _)
    (((List.perm_insertionSort bySequence _).trans perm).trans sorted.symm)
  intro first second inLeft inRight below above
  have firstMember := perm.mem_iff.mp
    ((List.perm_insertionSort bySequence _).mem_iff.mp inLeft)
  have secondMember := sorted.mem_iff.mp inRight
  exact List.inj_on_of_nodup_map (unique.eventsOf key) firstMember secondMember
    (Nat.le_antisymm below above)

theorem sortGroups_perm {rows permuted : List MediaRow} (same : permuted.Perm rows)
    (unique : UniquePairs rows) :
    (sortGroups (grouped permuted)).Perm (sortGroups (grouped rows)) := by
  have nodup (list : List MediaRow) : (sortGroups (grouped list)).Nodup := by
    refine List.Nodup.of_map Prod.fst ?_
    rw [sortGroups, List.map_map]
    exact (grouped_of list).distinct
  have member (list : List MediaRow) (key : JsString) (group : List MediaEvent) :
      (key, group) ∈ sortGroups (grouped list) ↔ eventsOf list key ≠ [] ∧
        group = (eventsOf list key).insertionSort bySequence := by
    rw [sortGroups, List.mem_map]
    constructor
    · rintro ⟨⟨other, events⟩, inside, equal⟩
      obtain ⟨some, rfl⟩ := ((grouped_of list).member _ _).mp inside
      cases equal
      exact ⟨some, rfl⟩
    · rintro ⟨some, rfl⟩
      exact ⟨(key, eventsOf list key), ((grouped_of list).member _ _).mpr ⟨some, rfl⟩, rfl⟩
  refine (List.perm_ext_iff_of_nodup (nodup permuted) (nodup rows)).mpr ?_
  rintro ⟨key, group⟩
  have perm : (eventsOf permuted key).Perm (eventsOf rows key) := (same.filter _).map _
  rw [member, member, sort_eventsOf same unique, Ne, Ne, ← List.length_eq_zero_iff,
    ← List.length_eq_zero_iff, perm.length_eq]

theorem total_sortGroups (policy : TelemetryPolicy) (groups : Groups) :
    total policy (sortGroups groups) = total policy groups := by
  have again (group : List MediaEvent) : visitGroup policy {} (group.insertionSort bySequence) =
      visitGroup policy {} group := by
    unfold visitGroup
    rw [(List.pairwise_insertionSort bySequence group).insertionSort_eq]
  simp only [total, sortGroups, List.map_map, Function.comp_def, again]

theorem collect_perm {policy : TelemetryPolicy} {rows permuted : List MediaRow}
    (same : permuted.Perm rows) (unique : UniquePairs rows) :
    (collect policy permuted).Same (collect policy rows) := by
  rw [collect_eq, collect_eq, ← total_sortGroups, ← total_sortGroups policy (grouped rows)]
  exact total_perm (sortGroups_perm same unique)

/-! ## Durations -/

/-- The durations that a session reports and that count, in the order of its sequence. -/
def reported (group : List MediaEvent) : List ℕ :=
  ((group.insertionSort bySequence).filterMap MediaEvent.durationMilliseconds).filter
    fun duration => 0 < duration

/-- The durations that all rows report. -/
def allReported (rows : List MediaRow) : List ℕ :=
  ((rows.map MediaRow.event).filterMap MediaEvent.durationMilliseconds).filter
    fun duration => 0 < duration

/-- The last duration that a session reports. -/
def lastReported (rows : List MediaRow) (key : JsString) : Option ℕ :=
  (reported (eventsOf rows key)).getLast?

theorem creditTime_durations (policy : TelemetryPolicy) (event : MediaEvent) (session : Session)
    (totals : Totals) : (creditTime policy event session totals).2.observedDurations =
      totals.observedDurations := by
  unfold creditTime
  split
  · rfl
  · split
    · rfl
    · dsimp only
      split <;> rfl

theorem creditPosition_durations (policy : TelemetryPolicy) (event : MediaEvent)
    (creditable : Bool) (session : Session) (totals : Totals) :
    (creditPosition policy event creditable session totals).2.observedDurations =
      totals.observedDurations := by
  unfold creditPosition
  split
  · rfl
  · dsimp only
    split
    · split
      · unfold creditAdvance
        split
        · split <;> rfl
        · split <;> rfl
      · rfl
    · rfl

theorem follow_durations (event : MediaEvent) (session : Session) (totals : Totals) :
    (follow event session totals).2.observedDurations = totals.observedDurations := by
  unfold follow
  split <;> rfl

theorem walk_durations (policy : TelemetryPolicy) (group : List MediaEvent) (session : Session)
    (totals : Totals) : (group.foldl (visit policy) (session, totals)).2.observedDurations =
      totals.observedDurations ++ group.filterMap MediaEvent.durationMilliseconds := by
  induction group generalizing session totals with
  | nil => simp
  | cons event rest inductionHypothesis =>
      have here : (visit policy (session, totals) event).2.observedDurations =
          totals.observedDurations ++ event.durationMilliseconds.toList := by
        rw [visit, follow_durations, creditPosition_durations, reportDuration,
          creditTime_durations]
      rw [List.foldl_cons, inductionHypothesis, here, List.filterMap_cons]
      cases event.durationMilliseconds <;> simp

theorem total_durations (policy : TelemetryPolicy) (groups : Groups) :
    ((total policy groups).observedDurations.filter fun duration => 0 < duration) =
      groups.flatMap fun group => reported group.2 := by
  have each (group : List MediaEvent) : (visitGroup policy {} group).observedDurations =
      (group.insertionSort bySequence).filterMap MediaEvent.durationMilliseconds := by
    unfold visitGroup
    dsimp only
    split <;> simp [walk_durations]
  induction groups with
  | nil => rfl
  | cons group rest inductionHypothesis =>
      have more : (total policy (group :: rest)).observedDurations =
          (visitGroup policy {} group.2).observedDurations ++
            (total policy rest).observedDurations := rfl
      rw [more, List.filter_append, inductionHypothesis, each, List.flatMap_cons]
      rfl

/-- The groups hold the events of the rows. -/
theorem grouped_events (rows : List MediaRow) :
    ((grouped rows).flatMap Prod.snd).Perm (rows.map MediaRow.event) := by
  have added (key : JsString) (event : MediaEvent) (groups : Groups) :
      ((addToGroup key event groups).flatMap Prod.snd).Perm
        (groups.flatMap Prod.snd ++ [event]) := by
    induction groups with
    | nil => exact .refl _
    | cons group rest inductionHypothesis =>
        obtain ⟨other, events⟩ := group
        rw [addToGroup]
        split
        · simp only [List.flatMap_cons, List.append_assoc]
          exact (List.perm_append_comm).append_left _
        · simp only [List.flatMap_cons, List.append_assoc]
          exact inductionHypothesis.append_left _
  induction rows using List.reverseRecOn with
  | nil => exact .refl _
  | append_singleton rows row inductionHypothesis =>
      rw [grouped_snoc, List.map_append]
      exact (added _ _ _).trans (inductionHypothesis.append_right _)

theorem reported_perm (rows : List MediaRow) :
    ((grouped rows).flatMap fun group => reported group.2).Perm (allReported rows) := by
  have each (groups : Groups) : (groups.flatMap fun group => reported group.2).Perm
      (((groups.flatMap Prod.snd).filterMap MediaEvent.durationMilliseconds).filter
        fun duration => 0 < duration) := by
    induction groups with
    | nil => exact .refl _
    | cons group rest inductionHypothesis =>
        rw [List.flatMap_cons, List.flatMap_cons, List.filterMap_append, List.filter_append]
        exact (((List.perm_insertionSort bySequence group.2).filterMap _).filter _).append
          inductionHypothesis
  exact (each _).trans (((grouped_events rows).filterMap _).filter _)

theorem allReported_perm {rows permuted : List MediaRow} (same : permuted.Perm rows) :
    (allReported permuted).Perm (allReported rows) :=
  ((same.map _).filterMap _).filter _

theorem settle_perm {first second : List ℕ} (same : first.Perm second) (candidate : ℕ) :
    settle first candidate = settle second candidate := by
  unfold settle
  dsimp only
  rw [same.all_eq]

/-- The observed duration of the rows. -/
def observedDuration (policy : TelemetryPolicy) (rows : List MediaRow) : Option ℕ :=
  consistentDuration (collect policy rows).observedDurations

theorem observedDuration_eq (policy : TelemetryPolicy) (rows : List MediaRow) :
    observedDuration policy rows =
      ((grouped rows).flatMap fun group => reported group.2).getLast?.bind
        (settle (allReported rows)) := by
  unfold observedDuration consistentDuration
  dsimp only
  rw [collect_eq, total_durations]
  split
  · rename_i none
    rw [none]
    rfl
  · rename_i candidate last
    rw [last, Option.bind_some]
    exact settle_perm (reported_perm rows) candidate

/-- The candidate is the last duration of some session. -/
theorem observedDuration_session (policy : TelemetryPolicy) (rows : List MediaRow) :
    ((∀ key, lastReported rows key = none) ∧ observedDuration policy rows = none) ∨
      ∃ key, ∃ candidate ∈ lastReported rows key,
        observedDuration policy rows = settle (allReported rows) candidate := by
  have last (groups : Groups) {candidate : ℕ}
      (found : (groups.flatMap fun group => reported group.2).getLast? = some candidate) :
      ∃ group ∈ groups, (reported group.2).getLast? = some candidate := by
    induction groups with
    | nil => cases found
    | cons group rest inductionHypothesis =>
        rw [List.flatMap_cons, List.getLast?_append] at found
        cases tail : (rest.flatMap fun group => reported group.2).getLast? with
        | none =>
            rw [tail] at found
            exact ⟨group, List.mem_cons_self, found⟩
        | some other =>
            rw [tail] at found
            obtain ⟨inside, member, here⟩ := inductionHypothesis (tail.trans found)
            exact ⟨inside, List.mem_cons_of_mem _ member, here⟩
  rw [observedDuration_eq]
  cases found : ((grouped rows).flatMap fun group => reported group.2).getLast? with
  | none =>
      refine .inl ⟨fun key => ?_, rfl⟩
      have empty := List.flatMap_eq_nil_iff.mp (List.getLast?_eq_none_iff.mp found)
      rw [lastReported, List.getLast?_eq_none_iff]
      by_cases some : eventsOf rows key = []
      · rw [some]
        rfl
      · exact empty _ (((grouped_of rows).member _ _).mpr ⟨some, rfl⟩)
  | some candidate =>
      obtain ⟨⟨key, group⟩, member, here⟩ := last _ found
      obtain ⟨_, rfl⟩ := ((grouped_of rows).member _ _).mp member
      exact .inr ⟨key, candidate, here, rfl⟩

/-- The rows with those of one session at the end. -/
def withLast (rows : List MediaRow) (key : JsString) : List MediaRow :=
  (rows.filter fun row => sessionKey row ≠ key) ++ rows.filter fun row => sessionKey row = key

theorem withLast_perm (rows : List MediaRow) (key : JsString) : (withLast rows key).Perm rows := by
  have split := List.filter_append_perm (fun row : MediaRow => decide (sessionKey row ≠ key)) rows
  simpa [withLast] using split

/-- A session whose rows come last is the last group. -/
theorem grouped_last {others mine : List MediaRow} {key : JsString}
    (apart : ∀ row ∈ others, sessionKey row ≠ key) (same : ∀ row ∈ mine, sessionKey row = key)
    (some : mine ≠ []) :
    grouped (others ++ mine) = grouped others ++ [(key, mine.map MediaRow.event)] := by
  have absent : key ∉ (grouped others).map Prod.fst := by
    intro present
    obtain ⟨⟨other, group⟩, inside, rfl⟩ := List.mem_map.mp present
    obtain ⟨filled, rfl⟩ := ((grouped_of others).member _ _).mp inside
    refine filled (List.map_eq_nil_iff.mpr (List.filter_eq_nil_iff.mpr fun row member => ?_))
    simpa using apart row member
  induction mine using List.reverseRecOn with
  | nil => exact absurd rfl some
  | append_singleton mine row inductionHypothesis =>
      have here : sessionKey row = key := same row (by simp)
      rw [← List.append_assoc, grouped_snoc, here]
      rcases List.eq_nil_or_concat mine with rfl | nonempty
      · rw [List.append_nil, addToGroup_new absent]
        rfl
      · have filled : mine ≠ [] := by
          obtain ⟨init, last, rfl⟩ := nonempty
          simp
        rw [inductionHypothesis (fun other member => same other (by simp [member])) filled,
          addToGroup_old absent, List.map_append]
        rfl

/-- With a session at the end its last duration is the candidate. -/
theorem observedDuration_withLast (policy : TelemetryPolicy) {rows : List MediaRow}
    {key : JsString} {candidate : ℕ}
    (last : candidate ∈ lastReported rows key) :
    observedDuration policy (withLast rows key) = settle (allReported rows) candidate := by
  have filled : (rows.filter fun row => sessionKey row = key) ≠ [] := by
    intro empty
    have none : eventsOf rows key = [] := by rw [eventsOf, empty, List.map_nil]
    rw [lastReported, none] at last
    cases last
  have groups : grouped (withLast rows key) =
      grouped (rows.filter fun row => sessionKey row ≠ key) ++ [(key, eventsOf rows key)] :=
    grouped_last (fun row member => by simpa using (List.mem_filter.mp member).2)
      (fun row member => by simpa using (List.mem_filter.mp member).2) filled
  rw [observedDuration_eq, groups, List.flatMap_append, List.getLast?_append, List.flatMap_singleton]
  have found : (reported (eventsOf rows key)).getLast? = some candidate := last
  rw [found, Option.some_or, Option.bind_some]
  exact settle_perm (allReported_perm (withLast_perm rows key)) candidate

/-! ## The summary -/

/-- The part of a summary that is computed without the duration. -/
def Summary.withoutDuration (summary : Summary) : Summary :=
  { summary with
    confidence := ⟨[], []⟩
    playback := { summary.playback with
      completionMet := false
      durationMilliseconds := none
      durationSource := []
      percentBasisPoints := 0 } }

/-- The descriptor has a duration, or every session's last report settles alike. -/
def DurationSettled (content : ExternalMediaContent) (rows : List MediaRow) : Prop :=
  configuredDuration content ≠ none ∨
    ∀ first second, ∀ one ∈ lastReported rows first, ∀ other ∈ lastReported rows second,
      settle (allReported rows) one = settle (allReported rows) other

/-- What the order of the rows can change. -/
def OrderLaw (content : ExternalMediaContent) : Prop :=
  ∀ rows, UniquePairs rows →
    (∀ permuted : List MediaRow, permuted.Perm rows →
      (calculateMediaSummary content permuted).withoutDuration =
        (calculateMediaSummary content rows).withoutDuration) ∧
    ((∀ permuted : List MediaRow, permuted.Perm rows →
      calculateMediaSummary content permuted = calculateMediaSummary content rows) ↔
        DurationSettled content rows)

theorem summarize_same (content : ExternalMediaContent) (eventCount sessionCount : ℕ)
    {first second : Totals} (same : first.Same second) (observed : Option ℕ) :
    summarize content eventCount sessionCount first observed =
      summarize content eventCount sessionCount second observed := by
  have counts := same.counts
  simp only [Totals.mk.injEq, and_true] at counts
  obtain ⟨one, two, three, four, five, six, seven, eight, nine, ten, eleven⟩ := counts
  simp only [summarize, limitations, intervalUnionMilliseconds_perm same.intervals, one, two, three,
    four, five, six, seven, eight, nine, ten, eleven]

/-- Another order leaves all but the observed duration. -/
theorem calculateMediaSummary_perm {content : ExternalMediaContent} {rows permuted : List MediaRow}
    (same : permuted.Perm rows) (unique : UniquePairs rows) :
    calculateMediaSummary content permuted =
      summarize content rows.length (grouped rows).length (collect content.telemetryPolicy rows)
        (observedDuration content.telemetryPolicy permuted) := by
  have sessions : (grouped permuted).length = (grouped rows).length := by
    have lengths := (sortGroups_perm same unique).length_eq
    rwa [sortGroups, sortGroups, List.length_map, List.length_map] at lengths
  unfold calculateMediaSummary
  dsimp only
  rw [summarize_same content _ _ (collect_perm same unique), same.length_eq, sessions]
  rfl

/-- With a configured duration the observed one is not used. -/
theorem summarize_configured {content : ExternalMediaContent} {duration : ℤ}
    (configured : configuredDuration content = some duration) (eventCount sessionCount : ℕ)
    (totals : Totals) (first second : Option ℕ) :
    summarize content eventCount sessionCount totals first =
      summarize content eventCount sessionCount totals second := by
  simp [summarize, durationSource, configured]

theorem calculateMediaSummary_order (content : ExternalMediaContent) : OrderLaw content := by
  intro rows unique
  refine ⟨fun permuted same => ?_, fun free => ?_, fun settled permuted same => ?_⟩
  · rw [calculateMediaSummary_perm same unique]
    rfl
  · by_cases configured : configuredDuration content = none
    · refine .inr fun first second one oneLast other otherLast => ?_
      have duration (key : JsString) {candidate : ℕ} (last : candidate ∈ lastReported rows key) :
          (settle (allReported rows) candidate).map Int.ofNat =
            (calculateMediaSummary content rows).playback.durationMilliseconds := by
        rw [← free _ (withLast_perm rows key),
          calculateMediaSummary_perm (withLast_perm rows key) unique,
          observedDuration_withLast _ last]
        simp [summarize, configured]
      have equal := (duration first oneLast).trans (duration second otherLast).symm
      exact Option.map_injective (fun _ _ => Int.ofNat.inj) equal
    · exact .inl configured
  · rw [calculateMediaSummary_perm same unique, calculateMediaSummary_perm (.refl _) unique]
    rcases settled with configured | agree
    · obtain ⟨duration, isConfigured⟩ := Option.ne_none_iff_exists'.mp configured
      exact summarize_configured isConfigured _ _ _ _ _
    · have observed : observedDuration content.telemetryPolicy permuted =
          observedDuration content.telemetryPolicy rows := by
        have lasts (key : JsString) : lastReported permuted key = lastReported rows key := by
          rw [lastReported, lastReported, reported, reported, sort_eventsOf same unique]
        rcases observedDuration_session content.telemetryPolicy permuted with
          ⟨none, result⟩ | ⟨key, one, last, result⟩ <;>
        rcases observedDuration_session content.telemetryPolicy rows with
          ⟨noneToo, resultToo⟩ | ⟨other, two, lastToo, resultToo⟩ <;>
        rw [result, resultToo]
        · rw [← lasts, none] at lastToo
          cases lastToo
        · rw [lasts, noneToo] at last
          cases last
        · rw [settle_perm (allReported_perm same)]
          rw [lasts] at last
          exact agree key other one last two lastToo
      rw [observed]

/-! ## Two players that report almost the same duration -/

theorem position_seek : EventType.position = .seek →
    (none : Option ℕ) ≠ none ∧ (none : Option ℕ) ≠ none := nofun

theorem position_rate : EventType.position = .rate → (none : Option RateMilli) ≠ none := nofun

/-- A position event that reports a duration. -/
def reporting (duration : ℕ) : MediaEvent where
  type := .position
  detail := none
  durationMilliseconds := some duration
  fromMilliseconds := none
  id := js "event"
  monotonicMs := 0
  playbackRateMilli := none
  positionMilliseconds := some 0
  sequence := 1
  toMilliseconds := none
  position_given := fun _ => nofun
  seek_given := position_seek
  rate_given := position_rate

/-- A video without a configured duration. -/
def unmeasuredVideo : ExternalMediaContent where
  accessibilityAlternative := none
  acknowledgementLabel := js "reviewed"
  completionPolicy := ⟨1, .playback, 90⟩
  descriptor := {
    accessMode := js "provider_shared"
    description := none
    dimensions := none
    durationMilliseconds := none
    owner := none
    provider := js "youtube"
    providerDescriptor := ⟨⟨js "vasi-youtube-iframe", js "1"⟩, [], js "instrumented_player", none,
      js "M7lc1UVf-VE", js "video", []⟩
    sourceUrl := js "https://youtu.be/M7lc1UVf-VE"
    title := js "Training"
    version := ⟨none, none, none, none, none⟩ }
  prompt := js "Watch."
  providerNotice := js "Hosted."
  telemetryPolicy := ⟨5, 30, 10⟩

/-- One event in each of two sessions. -/
def twoSessions : List MediaRow :=
  [⟨js "one", js "interaction", js "first", reporting 100000⟩,
    ⟨js "two", js "interaction", js "second", reporting 100500⟩]

/-- The session that comes last decides between 100 and 100.5 seconds. -/
theorem twoSessions_order :
    ¬ ∀ content rows permuted, UniquePairs rows → permuted.Perm rows →
      calculateMediaSummary content permuted = calculateMediaSummary content rows := by
  intro always
  have unique : (twoSessions.map fun row => (sessionKey row, row.event.sequence)).Nodup := by
    decide
  have same := always unmeasuredVideo twoSessions twoSessions.reverse unique (List.reverse_perm _)
  have durations := congrArg (fun summary => summary.playback.durationMilliseconds) same
  have different : (calculateMediaSummary unmeasuredVideo
      twoSessions.reverse).playback.durationMilliseconds ≠
        (calculateMediaSummary unmeasuredVideo twoSessions).playback.durationMilliseconds := by
    decide +kernel
  exact different durations

end Vasi.MediaSummary
