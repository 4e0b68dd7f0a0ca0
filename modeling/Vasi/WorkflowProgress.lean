import Vasi.Lifecycle

/-!
# Workflow progress

The activities of an assignment in the order of their workflow: those before
some position are completed or skipped, the one at the position is available
and the others are pending. The position moves forward with each submitted
answer, because a validated workflow leads forward only, and reaches the end
when the assignment is completed. This holds of every case in every reachable
state, whatever the other transactions do.
-/
namespace Vasi.WorkflowProgress

open JsValue IsoTime Validation Activities Workflow ReadCommitted EngineRows EvidenceEvents
  EngineCases EvidenceStore Respond EngineEffects Engine

/-! ## Positions -/

/-- An activity that is over: answered once, or skipped without an answer. -/
def Over (activity : ActivityInstance) : Prop :=
  (activity.status = .completed ∧ activity.responses.length = 1) ∨
    (activity.status = .skipped ∧ activity.responses = [])

/-- How an activity stands when its assignment has come to a position. -/
inductive Placed (position : ℕ) : ℕ → ActivityInstance → Prop
  | behind {index : ℕ} {activity : ActivityInstance} (earlier : index < position)
      (behind : Over activity) : Placed position index activity
  | current {activity : ActivityInstance} (available : activity.status = .available)
      (unanswered : activity.responses = []) : Placed position position activity
  | later {index : ℕ} {activity : ActivityInstance} (later : position < index)
      (pending : activity.status = .pending) (unanswered : activity.responses = []) :
      Placed position index activity

/-- The activities of a workflow, come to a position. -/
structure Reached (workflow : WorkflowDocument) (activities : List ActivityInstance)
    (position : ℕ) : Prop where
  definitions : activities.map ActivityInstance.definition = workflow.activities
  placed : ∀ index activity, activities[index]? = some activity → Placed position index activity

/-- The answers that have been submitted. -/
def answerCount (activities : List ActivityInstance) : ℕ :=
  (activities.map fun activity => activity.responses.length).sum

/-- What holds of the activities of a case: at a position inside the workflow,
or at its end when the assignment is completed. -/
def Progress (record : Case) : Prop :=
  ∀ workflow, record.request.workflow = some workflow →
    if record.assignment.status = .completed then
      Reached workflow.snapshot record.activities workflow.snapshot.activities.length
    else ∃ position < workflow.snapshot.activities.length,
      Reached workflow.snapshot record.activities position

section

variable {workflow : WorkflowDocument} {activities : List ActivityInstance} {position : ℕ}

theorem Reached.length (reached : Reached workflow activities position) :
    activities.length = workflow.activities.length := by
  rw [← reached.definitions, List.length_map]

/-- The available activity stands at the position. -/
theorem Reached.available (reached : Reached workflow activities position) {index : ℕ}
    {activity : ActivityInstance} (found : activities[index]? = some activity)
    (available : activity.status = .available) : index = position := by
  cases reached.placed index activity found with
  | behind earlier behind =>
      rcases behind with ⟨completed, _⟩ | ⟨skipped, _⟩
      · rw [completed] at available
        cases available
      · rw [skipped] at available
        cases available
  | current => rfl
  | later _ pending _ =>
      rw [pending] at available
      cases available

/-- A change of one activity that keeps its definition, status and answers. -/
theorem Reached.modify (reached : Reached workflow activities position) (index : ℕ)
    {change : ActivityInstance → ActivityInstance}
    (keeps : ∀ activity, (change activity).definition = activity.definition ∧
      (change activity).status = activity.status ∧
      (change activity).responses = activity.responses) :
    Reached workflow (activities.modify index change) position := by
  have same (activity : ActivityInstance) (other : ℕ)
      (placed : Placed position other activity) : Placed position other (change activity) := by
    obtain ⟨_, status, responses⟩ := keeps activity
    cases placed with
    | behind earlier behind => exact .behind earlier (by rw [Over, status, responses]; exact behind)
    | current available unanswered =>
        exact .current (by rw [status]; exact available) (by rw [responses]; exact unanswered)
    | later later pending unanswered =>
        exact .later later (by rw [status]; exact pending) (by rw [responses]; exact unanswered)
  refine ⟨?_, fun other activity found => ?_⟩
  · rw [← reached.definitions]
    refine List.ext_getElem? fun other => ?_
    rw [List.getElem?_map, List.getElem?_map, List.getElem?_modify]
    cases activities[other]? with
    | none => rfl
    | some activity => by_cases here : index = other <;> simp [here, keeps]
  · rw [List.getElem?_modify] at found
    cases earlier : activities[other]? with
    | none => simp [earlier] at found
    | some original =>
        have placed := reached.placed other original earlier
        by_cases here : index = other
        · obtain rfl : change original = activity := by simpa [earlier, here] using found
          exact same original other placed
        · obtain rfl : original = activity := by simpa [earlier, here] using found
          exact placed

/-- The number of answers stays under such a change. -/
theorem answerCount_modify (index : ℕ) {change : ActivityInstance → ActivityInstance}
    (keeps : ∀ activity, (change activity).responses = activity.responses) :
    answerCount (activities.modify index change) = answerCount activities := by
  have same : (activities.modify index change).map (fun activity => activity.responses.length) =
      activities.map fun activity => activity.responses.length := by
    refine List.ext_getElem? fun other => ?_
    rw [List.getElem?_map, List.getElem?_map, List.getElem?_modify]
    cases activities[other]? with
    | none => rfl
    | some activity => by_cases here : index = other <;> simp [here, keeps]
  rw [answerCount, same, answerCount]

/-- The current activity is the one at the position. -/
theorem currentActivity_reached {now : Time} {ordinal : ℕ} {opened : List ActivityInstance}
    (reached : Reached workflow activities position)
    (current : currentActivity activities now = .ok (ordinal, opened)) :
    ordinal = position ∧ Reached workflow opened position ∧
      answerCount opened = answerCount activities := by
  obtain ⟨index, rfl⟩ := currentActivity_ok current
  rw [List.findIdx?_eq_some_iff_getElem] at index
  obtain ⟨inside, available, _⟩ := index
  refine ⟨?_, reached.modify ordinal fun activity => ⟨rfl, rfl, rfl⟩,
    answerCount_modify ordinal fun activity => rfl⟩
  exact reached.available (List.getElem?_eq_getElem inside) (by simpa using available)

/-! ## Submitting -/

/-- The activities before a bound are over and the others are pending: so they
stand between an answer and the activation of the next activity. -/
structure Between (workflow : WorkflowDocument) (activities : List ActivityInstance)
    (bound : ℕ) : Prop where
  definitions : activities.map ActivityInstance.definition = workflow.activities
  behind : ∀ index activity, activities[index]? = some activity → index < bound → Over activity
  pending : ∀ index activity, activities[index]? = some activity → bound ≤ index →
    activity.status = .pending ∧ activity.responses = []

/-- Completing the activity at the position puts it behind. -/
theorem completeActivity_between (reached : Reached workflow activities position)
    (response : RecordedResponse) :
    Between workflow (completeActivity activities position response) (position + 1) := by
  have entry {index : ℕ} {activity : ActivityInstance}
      (found : (completeActivity activities position response)[index]? = some activity) :
      ∃ original, activities[index]? = some original ∧ activity = if position = index then
        { original with status := .completed, responses := original.responses ++ [response] }
        else original := by
    rw [completeActivity, List.getElem?_modify, Option.map_eq_map, Option.map_eq_some_iff] at found
    obtain ⟨original, there, result⟩ := found
    exact ⟨original, there, result.symm⟩
  refine ⟨?_, fun index activity found before => ?_, fun index activity found after => ?_⟩
  · rw [← reached.definitions]
    refine List.ext_getElem? fun other => ?_
    rw [List.getElem?_map, List.getElem?_map, completeActivity, List.getElem?_modify]
    cases activities[other]? with
    | none => rfl
    | some activity => by_cases here : position = other <;> simp [here]
  · obtain ⟨original, there, rfl⟩ := entry found
    cases reached.placed index original there with
    | behind earlier behind =>
        rw [if_neg (by omega)]
        exact behind
    | current available unanswered =>
        rw [if_pos rfl]
        exact .inl ⟨rfl, by simp [unanswered]⟩
    | later later _ _ => omega
  · obtain ⟨original, there, rfl⟩ := entry found
    cases reached.placed index original there with
    | behind earlier behind => omega
    | current available unanswered => omega
    | later later pending unanswered =>
        rw [if_neg (by omega)]
        exact ⟨pending, unanswered⟩

/-- Completing the activity at the position adds one answer. -/
theorem completeActivity_answers {index : ℕ} {activity : ActivityInstance}
    (found : activities[index]? = some activity) (response : RecordedResponse) :
    answerCount (completeActivity activities index response) = answerCount activities + 1 := by
  induction activities generalizing index with
  | nil => simp at found
  | cons first rest inductionHypothesis =>
      cases index with
      | zero =>
          simp only [completeActivity, List.modify_zero_cons, answerCount, List.map_cons,
            List.sum_cons, List.length_append, List.length_singleton]
          omega
      | succ index =>
          have later := inductionHypothesis (by simpa using found)
          simp only [completeActivity, answerCount, List.modify_succ_cons, List.map_cons,
            List.sum_cons] at later ⊢
          omega

/-- Skipping the pending activities before a target puts them behind. -/
theorem skipPending_between {bound : ℕ} (between : Between workflow activities bound)
    (target : ℕ) (further : bound ≤ target) : Between workflow (skipPending activities target) target := by
  have entry {index : ℕ} {activity : ActivityInstance}
      (found : (skipPending activities target)[index]? = some activity) :
      ∃ original, activities[index]? = some original ∧ activity =
        if original.status = .pending ∧ index < target then { original with status := .skipped }
        else original := by
    rw [skipPending, List.getElem?_mapIdx, Option.map_eq_some_iff] at found
    obtain ⟨original, there, result⟩ := found
    exact ⟨original, there, result.symm⟩
  refine ⟨?_, fun index activity found before => ?_, fun index activity found after => ?_⟩
  · rw [← between.definitions]
    refine List.ext_getElem? fun other => ?_
    rw [List.getElem?_map, List.getElem?_map, skipPending, List.getElem?_mapIdx]
    cases activities[other]? with
    | none => rfl
    | some activity =>
        by_cases skip : activity.status = .pending ∧ other < target <;> simp [skip]
  · obtain ⟨original, there, rfl⟩ := entry found
    by_cases passed : index < bound
    · have behind := between.behind index original there passed
      rw [if_neg]
      · exact behind
      · rintro ⟨pending, _⟩
        rcases behind with ⟨completed, _⟩ | ⟨skipped, _⟩
        · rw [completed] at pending
          cases pending
        · rw [skipped] at pending
          cases pending
    · obtain ⟨pending, unanswered⟩ := between.pending index original there (by omega)
      rw [if_pos ⟨pending, before⟩]
      exact .inr ⟨rfl, unanswered⟩
  · obtain ⟨original, there, rfl⟩ := entry found
    rw [if_neg (by omega)]
    exact between.pending index original there (by omega)

theorem skipPending_answers (target : ℕ) :
    answerCount (skipPending activities target) = answerCount activities := by
  have same : (skipPending activities target).map (fun activity => activity.responses.length) =
      activities.map fun activity => activity.responses.length := by
    refine List.ext_getElem? fun other => ?_
    rw [List.getElem?_map, List.getElem?_map, skipPending, List.getElem?_mapIdx]
    cases activities[other]? with
    | none => rfl
    | some activity =>
        by_cases skip : activity.status = .pending ∧ other < target <;> simp [skip]
  rw [answerCount, same, answerCount]

/-- Activating the activity at the bound succeeds and makes it the current one. -/
theorem activate_reached {bound : ℕ} {id : JsString} (between : Between workflow activities bound)
    (distinct : (workflow.activities.map Activity.id).Nodup)
    (index : activityIndex workflow.activities id = some bound) :
    ∃ after, activate activities id = .ok after ∧ Reached workflow after bound ∧
      answerCount after = answerCount activities := by
  rw [activityIndex, List.findIdx?_eq_some_iff_getElem] at index
  obtain ⟨inside, named, _⟩ := index
  have length : activities.length = workflow.activities.length := by
    rw [← between.definitions, List.length_map]
  have defined (other : ℕ) (activity : ActivityInstance)
      (found : activities[other]? = some activity) :
      workflow.activities[other]? = some activity.definition := by
    rw [← between.definitions, List.getElem?_map, found]
    rfl
  have target : ∃ activity, activities[bound]? = some activity ∧ activity.definition.id = id := by
    have there : bound < activities.length := by omega
    refine ⟨activities[bound], List.getElem?_eq_getElem there, ?_⟩
    have same := defined bound activities[bound] (List.getElem?_eq_getElem there)
    rw [List.getElem?_eq_getElem inside, Option.some.injEq] at same
    rw [← same]
    simpa using named
  obtain ⟨current, there, isNamed⟩ := target
  obtain ⟨waiting, unanswered⟩ := between.pending bound current there (le_refl bound)
  have only (other : ℕ) (activity : ActivityInstance)
      (found : activities[other]? = some activity) :
      isPending id activity = true ↔ other = bound := by
    constructor
    · intro pending
      simp only [isPending, Bool.and_eq_true, decide_eq_true_eq] at pending
      have here := activityIndex_eq distinct (defined other activity found)
      have aim := activityIndex_eq distinct (defined bound current there)
      rw [pending.1] at here
      rw [isNamed, here, Option.some.injEq] at aim
      exact aim
    · rintro rfl
      obtain rfl : current = activity := by simpa [there] using found
      simp [isPending, isNamed, waiting]
  have found : activities.any (isPending id) = true := by
    rw [List.any_eq_true]
    exact ⟨current, List.mem_of_getElem? there, (only bound current there).mpr rfl⟩
  refine ⟨_, by rw [activate, if_pos found], ⟨?_, fun other activity changed => ?_⟩, ?_⟩
  · rw [← between.definitions, List.map_map]
    refine List.map_congr_left fun activity _ => ?_
    by_cases pending : isPending id activity = true <;> simp [pending]
  · rw [List.getElem?_map, Option.map_eq_some_iff] at changed
    obtain ⟨original, earlier, rfl⟩ := changed
    by_cases here : other = bound
    · subst here
      rw [if_pos ((only other original earlier).mpr rfl)]
      exact .current rfl (between.pending other original earlier (le_refl other)).2
    · rw [if_neg (fun pending => here ((only other original earlier).mp pending))]
      by_cases before : other < bound
      · exact .behind before (between.behind other original earlier before)
      · obtain ⟨pending, empty⟩ := between.pending other original earlier (by omega)
        exact .later (by omega) pending empty
  · rw [answerCount, List.map_map, answerCount]
    refine congrArg List.sum (List.map_congr_left fun activity _ => ?_)
    by_cases pending : isPending id activity = true <;> simp [pending]

/-- Where a submission at a position leads: to the end, or to an activity further on. -/
def Leads (workflow : WorkflowDocument) (activities : List ActivityInstance) (position : ℕ) :
    Option JsString → Prop
  | none => Reached workflow activities workflow.activities.length
  | some _ => ∃ later < workflow.activities.length, position < later ∧
      Reached workflow activities later

/-- A submitted answer moves on: it always finds its next activity, which stands
further on, or comes to the end; and it adds one answer. -/
theorem advanceActivities_reached (forward : Forward workflow.activities)
    (reached : Reached workflow activities position) {activity : ActivityInstance}
    (found : activities[position]? = some activity) (response : RecordedResponse)
    (outcome : JsString) :
    ∃ next after, advanceActivities workflow (completeActivity activities position response)
        activity.definition.id outcome = .ok (next, after) ∧
      answerCount after = answerCount activities + 1 ∧
      Leads workflow after position next := by
  have defined : workflow.activities[position]? = some activity.definition := by
    rw [← reached.definitions, List.getElem?_map, found]
    rfl
  obtain ⟨next, evaluated, leads⟩ := evaluateNextActivity_forward forward defined outcome
  have completed := completeActivity_between reached response
  have answers := completeActivity_answers found response
  have length : (completeActivity activities position response).length =
      workflow.activities.length := by
    rw [← completed.definitions, List.length_map]
  have inside : position < workflow.activities.length :=
    (List.getElem?_eq_some_iff.mp defined).1
  cases next with
  | none =>
      refine ⟨none, skipPending (completeActivity activities position response)
        (completeActivity activities position response).length, ?_, ?_, ?_⟩
      · rw [advanceActivities, evaluated]
        rfl
      · rw [skipPending_answers, answers]
      · rw [length]
        have skipped := skipPending_between completed workflow.activities.length inside
        refine ⟨skipped.definitions, fun index other there => ?_⟩
        have bound : index < workflow.activities.length := by
          have short := (List.getElem?_eq_some_iff.mp there).1
          rw [← skipped.definitions, List.length_map]
          exact short
        exact .behind bound (skipped.behind index other there bound)
  | some id =>
      obtain ⟨later, index, further⟩ := leads id rfl
      have skipped := skipPending_between completed later further
      obtain ⟨after, activated, reachedLater, same⟩ :=
        activate_reached skipped forward.distinct index
      refine ⟨some id, after, ?_, ?_, later, ?_, further, reachedLater⟩
      · rw [advanceActivities, evaluated]
        simp only [codeOf, Except.mapError, bind, Except.bind, index, Option.getD_some, activated]
        rfl
      · rw [same, skipPending_answers, answers]
      · rw [activityIndex, List.findIdx?_eq_some_iff_getElem] at index
        exact index.1

/-- The first activity of a new assignment is available. -/
theorem newActivities_reached (workflow : PublishedWorkflow) :
    Reached workflow.snapshot (newActivities workflow) 0 := by
  refine ⟨?_, fun index activity found => ?_⟩
  · refine List.ext_getElem? fun index => ?_
    rw [List.getElem?_map, newActivities, List.getElem?_mapIdx]
    cases workflow.snapshot.activities[index]? <;> rfl
  · rw [newActivities, List.getElem?_mapIdx, Option.map_eq_some_iff] at found
    obtain ⟨definition, _, rfl⟩ := found
    cases index with
    | zero => exact .current rfl rfl
    | succ index => exact .later (Nat.succ_pos index) (by simp) rfl

theorem newActivities_answers (workflow : PublishedWorkflow) :
    answerCount (newActivities workflow) = 0 := by
  rw [answerCount, List.sum_eq_zero_iff]
  intro count member
  obtain ⟨activity, there, rfl⟩ := List.mem_map.mp member
  obtain ⟨index, inside, rfl⟩ := List.mem_iff_getElem.mp there
  simp [newActivities]

/-- No activity is answered twice. -/
theorem Reached.answers_le (reached : Reached workflow activities position) :
    answerCount activities ≤ workflow.activities.length := by
  rw [← reached.length, answerCount]
  refine (List.sum_le_card_nsmul _ 1 ?_).trans (by simp)
  intro count member
  obtain ⟨activity, there, rfl⟩ := List.mem_map.mp member
  obtain ⟨index, inside, rfl⟩ := List.mem_iff_getElem.mp there
  cases reached.placed index _ (List.getElem?_eq_getElem inside) with
  | behind _ behind =>
      rcases behind with ⟨_, one⟩ | ⟨_, none⟩
      · exact one.le
      · simp [none]
  | current _ unanswered => simp [unanswered]
  | later _ _ unanswered => simp [unanswered]

end

/-! ## Steps -/

variable {platform : Platform} {guard : EngineGuard} {name : TransactionName} {record after : Case}

/-- An accepted submission: it records the answer to the current activity and
goes on to the next one, or completes the case. -/
inductive Submits (platform : Platform) : Case → Case → Prop
  | moved (command : RespondCommand) (record : Case) (workflow : PublishedWorkflow)
      (completedAt : Time) (answered : Answered) (responseId eventId : Uuid)
      (nextActivityId : JsString) (after : Case)
      (answering : Answering platform command record workflow completedAt answered)
      (intent : command.intent = .submit)
      (step : submitResponse platform.env answered command workflow completedAt responseId eventId =
        .ok (some nextActivityId, after)) : Submits platform record after
  | completed (command : RespondCommand) (record : Case) (workflow : PublishedWorkflow)
      (completedAt : Time) (answered : Answered) (responseId eventId : Uuid)
      (submitted : Case) (manifest : Option ManifestRow)
      (answering : Answering platform command record workflow completedAt answered)
      (intent : command.intent = .submit)
      (step : submitResponse platform.env answered command workflow completedAt responseId eventId =
        .ok (none, submitted)) : Submits platform record { completeCase submitted with manifest }

/-- What a submission makes of a case: it completes the assignment, with every
activity over, or goes on to a later activity. -/
def MovesOn (workflow : PublishedWorkflow) (record after : Case) : Prop :=
  (after.assignment.status = .completed ∧
    Reached workflow.snapshot after.activities workflow.snapshot.activities.length) ∨
  (after.assignment.status ≠ .completed ∧
    ∃ earlier later, earlier < later ∧ later < workflow.snapshot.activities.length ∧
      Reached workflow.snapshot record.activities earlier ∧
      Reached workflow.snapshot after.activities later)

/-- Recording an answer stays at the position. -/
theorem answerActivity_reached {command : RespondCommand} {now completedAt : Time}
    {revisionId eventId : Uuid} {answered : Answered} {workflow : WorkflowDocument}
    {position : ℕ} (reached : Reached workflow record.activities position)
    (recorded : answerActivity platform.env record command now completedAt revisionId eventId =
      .ok answered) :
    Reached workflow answered.record.activities position ∧
      answerCount answered.record.activities = answerCount record.activities ∧
      answered.ordinal = position ∧
      ∃ activity, answered.record.activities[position]? = some activity ∧
        answered.activity = activity.definition := by
  obtain ⟨opened, activity, revision, chain, event, current, found, defined, _, result⟩ :=
    answerActivity_ok recorded
  obtain ⟨here, stays, same⟩ := currentActivity_reached reached current
  rw [here] at found
  rw [result, here]
  refine ⟨stays.modify position fun activity => ⟨rfl, rfl, rfl⟩, ?_, rfl,
    { activity with revisions := activity.revisions ++ [revision] }, ?_, defined⟩
  · rw [← same]
    exact answerCount_modify position fun activity => rfl
  · simp [recordRevision, found]

/-- A validated workflow leads forward only. -/
theorem published_forward (workflow : PublishedWorkflow) :
    Workflow.Forward workflow.snapshot.activities := by
  obtain ⟨platform, value, accepted⟩ := workflow.validated
  exact (validateWorkflowDraft_forward accepted).1

/-- A recorded answer can be submitted: the next activity is always found. -/
theorem advanceActivities_submits {command : RespondCommand} {now completedAt : Time}
    {revisionId eventId : Uuid} {answered : Answered} (workflow : PublishedWorkflow)
    {position : ℕ} (reached : Reached workflow.snapshot record.activities position)
    (recorded : answerActivity platform.env record command now completedAt revisionId eventId =
      .ok answered) (response : RecordedResponse) :
    ∃ next activities, advanceActivities workflow.snapshot
        (completeActivity answered.record.activities answered.ordinal response)
        answered.activity.id answered.response.outcome = .ok (next, activities) ∧
      answerCount activities = answerCount record.activities + 1 ∧
      Leads workflow.snapshot activities position next := by
  obtain ⟨stays, same, ordinal, activity, found, defined⟩ := answerActivity_reached reached recorded
  rw [← same, ordinal, defined]
  exact advanceActivities_reached (published_forward workflow) stays found response
    answered.response.outcome

/-- What submitting a recorded answer gives. -/
theorem submitResponse_reached {command : RespondCommand} {now completedAt : Time}
    {revisionId eventId responseId completionId : Uuid} {answered : Answered}
    {workflow : PublishedWorkflow} {position : ℕ}
    (reached : Reached workflow.snapshot record.activities position)
    (recorded : answerActivity platform.env record command now completedAt revisionId eventId =
      .ok answered) {next : Option JsString} {submitted : Case}
    (step : submitResponse platform.env answered command workflow completedAt responseId
      completionId = .ok (next, submitted)) :
    (submitted.request = record.request ∧ submitted.assignment = record.assignment) ∧
      answerCount submitted.activities = answerCount record.activities + 1 ∧
      Leads workflow.snapshot submitted.activities position next := by
  obtain ⟨activities, chain, event, advanced, _, rfl⟩ := submitResponse_ok step
  obtain ⟨_, _, _, _, _, _, _, _, _, result⟩ := answerActivity_ok recorded
  obtain ⟨found, after, moved, answers, leads⟩ :=
    advanceActivities_submits workflow reached recorded
      ⟨responseId, answered.response, completedAt⟩
  obtain ⟨rfl, rfl⟩ := Prod.mk.inj (Except.ok.inj (moved.symm.trans advanced))
  exact ⟨by rw [result]; exact ⟨rfl, rfl⟩, answers, leads⟩

/-- The position of a case that can be answered. -/
theorem Progress.position {workflow : PublishedWorkflow} (progress : Progress record)
    (published : record.request.workflow = some workflow)
    (notCompleted : record.assignment.status ≠ .completed) :
    ∃ position < workflow.snapshot.activities.length,
      Reached workflow.snapshot record.activities position := by
  have current := progress workflow published
  rwa [if_neg notCompleted] at current

/-- An accepted submission moves on and adds one answer. -/
theorem Submits.movesOn (submits : Submits platform record after) (progress : Progress record)
    {workflow : PublishedWorkflow} (published : record.request.workflow = some workflow) :
    MovesOn workflow record after ∧ after.request.workflow = some workflow ∧
      answerCount after.activities = answerCount record.activities + 1 := by
  cases submits with
  | moved command _ found completedAt answered responseId eventId next _ answering intent step =>
      obtain rfl := Option.some.inj (answering.workflow.symm.trans published)
      obtain ⟨position, inside, reached⟩ := progress.position published answering.notCompleted
      obtain ⟨now, revisionId, firstId, recorded⟩ := answering.answered
      obtain ⟨⟨request, assignment⟩, answers, later, bound, further, there⟩ :=
        submitResponse_reached reached recorded step
      refine ⟨.inr ⟨?_, position, later, further, bound, reached, there⟩, ?_, answers⟩
      · rw [assignment]
        exact answering.notCompleted
      · rw [request]
        exact published
  | completed command _ found completedAt answered responseId eventId submitted manifest answering
      intent step =>
      obtain rfl := Option.some.inj (answering.workflow.symm.trans published)
      obtain ⟨position, inside, reached⟩ := progress.position published answering.notCompleted
      obtain ⟨now, revisionId, firstId, recorded⟩ := answering.answered
      obtain ⟨⟨request, assignment⟩, answers, finished⟩ :=
        submitResponse_reached reached recorded step
      refine ⟨.inl ⟨rfl, finished⟩, ?_, answers⟩
      show submitted.request.workflow = some found
      rw [request]
      exact published

/-- What follows a submission makes progress. -/
theorem MovesOn.progress {workflow : PublishedWorkflow} (moves : MovesOn workflow record after)
    (published : after.request.workflow = some workflow) : Progress after := by
  intro other found
  obtain rfl := Option.some.inj (published.symm.trans found)
  rcases moves with ⟨completed, finished⟩ | ⟨notCompleted, _, later, _, inside, _, reached⟩
  · rw [if_pos completed]
    exact finished
  · rw [if_neg notCompleted]
    exact ⟨later, inside, reached⟩

/-- A case that was issued is at its first activity. -/
theorem CaseMove.progress {known : List (Sigma Row)}
    (move : CaseMove platform guard name known none (some record)) : Progress record := by
  intro workflow published
  cases move with
  | issued command now requestId assignmentId eventId eventType _ row _ _ _ step =>
      obtain ⟨event, chain, _, rfl⟩ := appendCase_ok step
      obtain rfl : command.workflow = workflow := Option.some.inj published
      have nonempty := (published_forward command.workflow).nonempty
      have notCompleted : (command.newCase now requestId assignmentId).assignment.status ≠
          .completed := by
        simp only [PublishedIssue.newCase]
        split <;> simp
      rw [if_neg notCompleted]
      exact ⟨0, List.length_pos_iff.mpr nonempty, newActivities_reached command.workflow⟩
  | issuedTerms command now requestId assignmentId eventId _ row _ _ _ step =>
      obtain ⟨event, chain, _, rfl⟩ := appendCase_ok step
      cases published

/-- A step other than a submission: it stays at the position, whatever else it does. -/
structure Stays (record after : Case) : Prop where
  workflow : after.request.workflow = record.request.workflow
  answers : answerCount after.activities = answerCount record.activities
  completed : record.request.workflow.isSome →
    (after.assignment.status = .completed ↔ record.assignment.status = .completed)
  reached : ∀ workflow position, Reached workflow record.activities position →
    Reached workflow after.activities position

theorem Stays.progress (stays : Stays record after) (progress : Progress record) :
    Progress after := by
  intro workflow published
  rw [stays.workflow] at published
  have current := progress workflow published
  have completed := stays.completed (by rw [published]; rfl)
  by_cases finished : record.assignment.status = .completed
  · rw [if_pos finished] at current
    rw [if_pos (completed.mpr finished)]
    exact stays.reached _ _ current
  · rw [if_neg finished] at current
    rw [if_neg (completed.not.mpr finished)]
    obtain ⟨position, inside, reached⟩ := current
    exact ⟨position, inside, stays.reached _ _ reached⟩

/-- A change of the statuses of a case that is active stays at the position. -/
theorem stays_setStatus (agree : Lifecycle.Agree record)
    (active : record.request.status.active = true) {status : Status}
    (notCompleted : status ≠ .completed) (chain : ChainRow) :
    Stays record { setStatus record status with chain } := by
  refine ⟨rfl, rfl, fun _ => ⟨fun same => absurd same notCompleted, fun same => ?_⟩,
    fun _ _ reached => reached⟩
  rw [← agree] at same
  rw [same] at active
  cases active

/-- Binding the participant does not complete an assignment. -/
theorem bindParticipant_notCompleted (actor : Actor)
    (notCompleted : record.assignment.status ≠ .completed) :
    (bindParticipant (issueScheduled record) actor).assignment.status ≠ .completed := by
  have issued : (issueScheduled record).assignment.status ≠ .completed := by
    unfold issueScheduled
    split
    · simp [setStatus]
    · exact notCompleted
  unfold bindParticipant
  split
  · exact issued
  · simp

theorem bindParticipant_workflow (record : Case) (actor : Actor) :
    (bindParticipant (issueScheduled record) actor).request.workflow = record.request.workflow := by
  unfold bindParticipant issueScheduled setStatus
  split <;> split <;> rfl

/-- Each step of a case is a submission or stays at the position. -/
theorem CaseStep.submits_or_stays (step : CaseStep platform guard name record after)
    (agree : Lifecycle.Agree record) : Submits platform record after ∨ Stays record after := by
  cases step with
  | opened command now interactionId eventId _ _ notCompleted step =>
      obtain ⟨_, interaction, chain, activities, _, opened, rfl⟩ := openCase_ok step
      refine .inr ⟨bindParticipant_workflow record command.actor, ?_, fun _ => ⟨?_, ?_⟩, ?_⟩
      · rcases opened with rfl | ⟨ordinal, current⟩
        · rfl
        · obtain ⟨_, rfl⟩ := currentActivity_ok current
          exact answerCount_modify ordinal fun activity => rfl
      · exact fun same => absurd same (bindParticipant_notCompleted command.actor notCompleted)
      · exact fun same => absurd same notCompleted
      · intro workflow position reached
        rcases opened with rfl | ⟨ordinal, current⟩
        · exact reached
        · exact (currentActivity_reached reached current).2.1
  | recorded recording command now eventId _ _ step =>
      obtain ⟨_, chain, event, _, rfl⟩ := recordCase_ok step
      exact .inr ⟨rfl, rfl, fun _ => Iff.rfl, fun _ _ reached => reached⟩
  | presented command now eventId _ _ step =>
      obtain ⟨_, rfl | ⟨_, chain, event, _, rfl⟩⟩ := openArtifactCase_ok step
      · exact .inr ⟨rfl, rfl, fun _ => Iff.rfl, fun _ _ reached => reached⟩
      · exact .inr ⟨rfl, rfl, fun _ => Iff.rfl, fun _ _ reached => reached⟩
  | saved command _ workflow completedAt answered answering intent =>
      obtain ⟨now, revisionId, eventId, recorded⟩ := answering.answered
      obtain ⟨opened, activity, revision, chain, event, current, _, _, _, result⟩ :=
        answerActivity_ok recorded
      obtain ⟨_, rfl⟩ := currentActivity_ok current
      refine .inr ⟨by rw [result], ?_, fun _ => by rw [result], fun workflow position reached => ?_⟩
      · rw [result]
        refine Eq.trans (answerCount_modify answered.ordinal ?_)
          (answerCount_modify answered.ordinal ?_)
        · exact fun activity => rfl
        · exact fun activity => rfl
      · exact (answerActivity_reached reached recorded).1
  | submitted command _ workflow completedAt answered responseId eventId next _ answering intent
      step =>
      exact .inl (.moved command record workflow completedAt answered responseId eventId next after
        answering intent step)
  | completed command _ workflow completedAt answered responseId eventId submitted evidence
      manifestId _ answering intent step sealed =>
      obtain ⟨row, _, rfl⟩ := sealCase_ok sealed
      exact .inl (.completed command record workflow completedAt answered responseId eventId
        submitted (some row) answering intent step)
  | completedTerms command _ now completedAt eventId responded manifestId _ available notCompleted
      terms step sealed =>
      obtain ⟨event, chain, _, rfl⟩ := appendCase_ok step
      obtain ⟨row, _, rfl⟩ := sealCase_ok sealed
      refine .inr ⟨rfl, rfl, fun some => ?_, fun _ _ reached => reached⟩
      rw [terms] at some
      cases some
  | revoked _ actor eventType payload now eventId _ _ active step =>
      obtain ⟨chain, event, _, rfl⟩ := revokeCase_ok step
      exact .inr (stays_setStatus agree active (by decide) chain)
  | advanced databaseClock now eventId _ _ due decided step =>
      obtain ⟨chain, event, _, rfl⟩ := advanceCase_ok step
      refine .inr (stays_setStatus agree (isDue_active due) ?_ chain)
      split <;> decide

/-- Every step keeps the progress of a case. -/
theorem CaseStep.progress (step : CaseStep platform guard name record after)
    (agree : Lifecycle.Agree record) (progress : Progress record) : Progress after := by
  rcases CaseStep.submits_or_stays step agree with submits | stays
  · intro workflow published
    cases found : record.request.workflow with
    | none =>
        cases submits with
        | moved _ _ _ _ _ _ _ _ _ answering =>
            exact absurd (found.symm.trans answering.workflow) (by simp)
        | completed _ _ _ _ _ _ _ _ _ answering =>
            exact absurd (found.symm.trans answering.workflow) (by simp)
    | some earlier =>
        obtain ⟨moves, same, _⟩ := submits.movesOn progress found
        exact moves.progress same workflow published
  · exact stays.progress progress

/-! ## Runs -/

/-- A run of steps of a case with the number of its accepted submissions. -/
inductive CaseRun (platform : Platform) (guard : EngineGuard) : Case → Case → ℕ → Prop
  | refl (record : Case) : CaseRun platform guard record record 0
  | submitted {record middle after : Case} {count : ℕ} {name : TransactionName}
      (run : CaseRun platform guard record middle count)
      (step : CaseStep platform guard name middle after)
      (submits : Submits platform middle after) : CaseRun platform guard record after (count + 1)
  | other {record middle after : Case} {count : ℕ} {name : TransactionName}
      (run : CaseRun platform guard record middle count)
      (step : CaseStep platform guard name middle after)
      (notSubmits : ¬ Submits platform middle after) : CaseRun platform guard record after count

/-- Runs of a case compose. -/
theorem CaseRun.append {first second third : Case} {left right : ℕ}
    (run : CaseRun platform guard first second left)
    (further : CaseRun platform guard second third right) :
    CaseRun platform guard first third (left + right) := by
  induction further with
  | refl => exact run
  | submitted _ step submits inductionHypothesis => exact inductionHypothesis.submitted step submits
  | other _ step notSubmits inductionHypothesis => exact inductionHypothesis.other step notSubmits

/-- The state of a case along a run: what holds of its workflow, its statuses and its answers. -/
theorem CaseRun.answers {last : Case} {count : ℕ} (run : CaseRun platform guard record last count)
    (agree : Lifecycle.Agree record) (progress : Progress record) {workflow : PublishedWorkflow}
    (published : record.request.workflow = some workflow) :
    (Lifecycle.Agree last ∧ Progress last ∧ last.request.workflow = some workflow) ∧
      answerCount last.activities = answerCount record.activities + count := by
  induction run with
  | refl => exact ⟨⟨agree, progress, published⟩, rfl⟩
  | submitted _ step submits inductionHypothesis =>
      obtain ⟨⟨agree, progress, published⟩, answers⟩ := inductionHypothesis
      obtain ⟨_, same, one⟩ := submits.movesOn progress published
      refine ⟨⟨Lifecycle.CaseStep.agree step agree, CaseStep.progress step agree progress, same⟩, ?_⟩
      rw [one, answers, Nat.add_assoc]
  | other _ step notSubmits inductionHypothesis =>
      obtain ⟨⟨agree, progress, published⟩, answers⟩ := inductionHypothesis
      have stays := (CaseStep.submits_or_stays step agree).resolve_left notSubmits
      refine ⟨⟨Lifecycle.CaseStep.agree step agree, CaseStep.progress step agree progress, ?_⟩, ?_⟩
      · rw [stays.workflow, published]
      · rw [stays.answers, answers]

/-- No activity of a case is answered twice. -/
theorem Progress.answers_le {workflow : PublishedWorkflow} (progress : Progress record)
    (published : record.request.workflow = some workflow) :
    answerCount record.activities ≤ workflow.snapshot.activities.length := by
  have current := progress workflow published
  split at current
  · exact current.answers_le
  · obtain ⟨_, _, reached⟩ := current
    exact reached.answers_le

/-- The statuses and the position of every case in every reachable state. -/
theorem case_progress {state : EngineState} (reachable : Reachable platform guard state)
    {requestId : Uuid} (found : caseAt state.store requestId = some record) :
    Lifecycle.Agree record ∧ Progress record :=
  case_reachable (fun record => Lifecycle.Agree record ∧ Progress record)
    (fun _ _ _ move => ⟨Lifecycle.CaseMove.agree move, CaseMove.progress move⟩)
    (fun _ _ _ both step => ⟨Lifecycle.CaseStep.agree step both.1,
      CaseStep.progress step both.1 both.2⟩) reachable found

/-- What holds of a case with a workflow in every reachable state: it stands at one
activity of its workflow or is completed, an accepted submission moves it on, the
answer to its current activity never fails for want of a pending next activity,
and whatever happens to it, the answers that were submitted and those that
are yet to be are at most as many as its activities. -/
def WorkflowsProgress (platform : Platform) (guard : EngineGuard) : Prop :=
  ∀ state, Reachable platform guard state → ∀ requestId record workflow,
    caseAt state.store requestId = some record → record.request.workflow = some workflow →
      Progress record ∧
      (∀ after, Submits platform record after → MovesOn workflow record after) ∧
      (∀ command now completedAt revisionId eventId answered response,
        record.assignment.status ≠ .completed →
        answerActivity platform.env record command now completedAt revisionId eventId =
          .ok answered →
        ∃ moved, advanceActivities workflow.snapshot
          (completeActivity answered.record.activities answered.ordinal response)
          answered.activity.id answered.response.outcome = .ok moved) ∧
      (∀ last count, CaseRun platform guard record last count →
        answerCount last.activities = answerCount record.activities + count ∧
          answerCount record.activities + count ≤ workflow.snapshot.activities.length) ∧
      ∀ after, Runs (start platform) guard state after →
        ∃ last count, caseAt after.store requestId = some last ∧
          CaseRun platform guard record last count

/-- Workflows progress, whatever the other transactions do. -/
theorem workflows_progress (platform : Platform) (guard : EngineGuard) :
    WorkflowsProgress platform guard := by
  intro state reachable requestId record workflow found published
  obtain ⟨agree, progress⟩ := case_progress reachable found
  refine ⟨progress, fun after submits => (submits.movesOn progress published).1, ?_, ?_, ?_⟩
  · intro command now completedAt revisionId eventId answered response notCompleted recorded
    obtain ⟨position, _, reached⟩ := progress.position published notCompleted
    obtain ⟨next, activities, advanced, _⟩ :=
      advanceActivities_submits workflow reached recorded response
    exact ⟨_, advanced⟩
  · intro last count run
    obtain ⟨⟨_, lastProgress, lastPublished⟩, answers⟩ := run.answers agree progress published
    refine ⟨answers, ?_⟩
    rw [← answers]
    exact lastProgress.answers_le lastPublished
  · intro after run
    obtain ⟨last, there, count, steps⟩ := case_runs
      (fun record last => ∃ count, CaseRun platform guard record last count)
      (fun record => ⟨0, .refl record⟩)
      (fun first second third ⟨left, run⟩ ⟨right, further⟩ => ⟨left + right, run.append further⟩)
      (fun name record after step => by
        by_cases submits : Submits platform record after
        · exact ⟨1, (CaseRun.refl record).submitted step submits⟩
        · exact ⟨0, (CaseRun.refl record).other step submits⟩)
      reachable run found
    exact ⟨last, count, there, steps⟩

end Vasi.WorkflowProgress
