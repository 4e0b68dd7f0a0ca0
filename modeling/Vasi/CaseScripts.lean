import Vasi.EnginePlans

/-!
# The participant's and the owner's programs keep the contract

Each program is followed from its first statement to its commit with the rules
for its parts: what it has locked, what it has checked and what it has computed
make up the plan with which it commits.
-/
namespace Vasi.EngineEffects

open JsValue IsoTime ReadCommitted EngineRows EvidenceEvents EngineCases Notifications Outbox
  EvidenceStore Respond RequestActions

variable {platform : Platform} {guard : EngineGuard} {name : TransactionName}
  {changes : EngineChanges} {knowledge : Knowledge Row}

/-- The script of a program meets the contract from any rows. -/
abbrev Follows (platform : Platform) (guard : EngineGuard) (program : Engine Outcome) : Prop :=
  ∀ store, program.script.Meets (engineContract platform guard) (.start store)

/-! ## Participants -/

/-- A transaction that changes one locked case and nothing else commits the step it staged. -/
theorem meets_stageCase {requestId : Uuid} {record after : Case}
    (locked : HasLocked knowledge requestId record)
    (step : CaseStep platform guard name record after) (ordinary : name.ordinary = true) :
    (commitDone name (fun result _ => .stop result) (stageCase after ∅)).Meets
      (engineContract platform guard) knowledge :=
  meets_commitDone ((Plan.empty name).stageCase rfl locked step) Quiet.empty.stageCase ordinary

theorem openAssignment_follows (command : ParticipantCommand) :
    Follows platform guard (openAssignment platform.env command) := by
  intro store
  simp only [Transaction.script, openAssignment, Transaction.bind_apply]
  refine meets_lockCase rfl ?_
  intro record found _ locked
  apply meets_orRefuse
  intro _ authorized
  split
  · exact trivial
  · rename_i notCompleted
    apply meets_clock
    intro now timed moreKnown
    have locked := locked.later moreKnown
    apply meets_randomUUID
    intro interactionId named moreKnown
    have locked := locked.later moreKnown
    apply meets_randomUUID
    intro eventId ready moreKnown
    have locked := locked.later moreKnown
    apply meets_orRefuse
    intro opened step
    have stepped : CaseStep platform guard (.openAssignment command.requestId) record opened := by
      rw [← locked.requestId]
      exact .opened command now interactionId eventId record opened notCompleted step
    exact meets_stageCase locked stepped rfl

theorem recordScript_follows (recording : Recording) (command : RecordCommand)
    (ordinary : (recording.transaction command.requestId).ordinary = true) :
    Follows platform guard (recordScript platform.env recording command) := by
  intro store
  simp only [Transaction.script, recordScript, Transaction.bind_apply]
  refine meets_lockCase rfl ?_
  intro record found _ locked
  apply meets_orRefuse
  intro _ authorized
  apply meets_clock
  intro now timed moreKnown
  have locked := locked.later moreKnown
  apply meets_randomUUID
  intro eventId ready moreKnown
  have locked := locked.later moreKnown
  apply meets_orRefuse
  intro recorded step
  have stepped : CaseStep platform guard (recording.transaction command.requestId) record
      recorded := by
    rw [← locked.requestId]
    exact .recorded recording command now eventId record recorded step
  exact meets_stageCase locked stepped ordinary

theorem openParticipantArtifact_follows (command : ArtifactCommand) :
    Follows platform guard (openParticipantArtifact platform.env command) := by
  intro store
  simp only [Transaction.script, openParticipantArtifact, Transaction.bind_apply]
  refine meets_lockCase rfl ?_
  intro record found _ locked
  apply meets_orRefuse
  intro _ authorized
  apply meets_clock
  intro now timed moreKnown
  have locked := locked.later moreKnown
  apply meets_randomUUID
  intro eventId ready moreKnown
  have locked := locked.later moreKnown
  apply meets_orRefuse
  intro opened step
  have stepped : CaseStep platform guard (.openParticipantArtifact command.requestId) record
      opened := by
    rw [← locked.requestId]
    exact .presented command now eventId record opened step
  exact meets_stageCase locked stepped rfl

/-! ## Issuing -/

theorem meets_assertTenantAdmitted {tenantId : Uuid}
    {continuation : AdmissionRow → EngineChanges → EngineScript}
    (untouched : changes.lookup (Key.admission tenantId) = none)
    (rest : ∀ row later, knowledge.Later later (engineContract platform guard) →
      (⟨.admission tenantId, row⟩ : Sigma Row) ∈ later.known → row.admission.admitted = true →
      (continuation row changes).Meets (engineContract platform guard) later) :
    (assertTenantAdmitted tenantId continuation changes).Meets (engineContract platform guard)
      knowledge := by
  simp only [assertTenantAdmitted, Transaction.bind_apply]
  refine meets_lockRow untouched ?_
  intro row later moreKnown known _
  apply meets_require
  intro admitted
  exact rest row later moreKnown known admitted

theorem issueTermsRequest_follows (command : TermsIssue) :
    Follows platform guard (issueTermsRequest platform.env command) := by
  intro store
  simp only [Transaction.script, issueTermsRequest, Transaction.bind_apply]
  refine meets_assertTenantAdmitted rfl ?_
  intro row checked _ known admitted
  apply meets_clock
  intro issuedAt timed moreKnown
  have known := moreKnown.known known
  apply meets_randomUUID
  intro requestId named moreKnown
  have known := moreKnown.known known
  apply meets_randomUUID
  intro assignmentId assigned moreKnown
  have known := moreKnown.known known
  apply meets_randomUUID
  intro eventId ready moreKnown
  have known := moreKnown.known known
  apply meets_orRefuse
  intro issued step
  refine meets_insertNew (by simp) ?_
  intro last moreKnown _
  have known := moreKnown.known known
  have move : CaseMove platform guard (.issueRequest command.tenantId) last.known none
      (some issued) :=
    .issuedTerms command issuedAt requestId assignmentId eventId issued row rfl known admitted step
  exact meets_commitDone ((Plan.empty _).insertCase rfl move) Quiet.empty.insertCase rfl

/-- The transactions that issue a request queue its reminders with a plan for the new case. -/
theorem meets_queueReminders {command : PublishedIssue} {requestId : Uuid} {now : Time}
    {continuation : Unit → EngineChanges → EngineScript} (hours : List ℕ)
    (plan : Plan platform guard name knowledge changes)
    (queueable : Queueable knowledge changes requestId)
    (rest : ∀ later queued, knowledge.Later later (engineContract platform guard) →
      Plan platform guard name later queued → SameElsewhere changes queued →
      (continuation () queued).Meets (engineContract platform guard) later) :
    (queueReminders platform.env command requestId now hours continuation changes).Meets
      (engineContract platform guard) knowledge := by
  induction hours generalizing changes knowledge with
  | nil => exact rest knowledge changes Knowledge.Later.refl plan fun _ _ => rfl
  | cons hoursBeforeDue later inductionHypothesis =>
      simp only [queueReminders]
      split
      · refine meets_queueNotification plan queueable ?_ ?_
        · simp [NOTIFICATION_TYPES]
        · intro next queued moreKnown planned same
          refine inductionHypothesis planned ((queueable.later moreKnown).elsewhere same) ?_
          intro last reminded stillMore plannedLast sameLast
          exact rest last reminded (moreKnown.trans stillMore) plannedLast
            fun key notJob => (sameLast key notJob).trans (same key notJob)
      · exact inductionHypothesis plan queueable rest

theorem meets_issuePublishedRequest {command : PublishedIssue}
    {continuation : Unit → EngineChanges → EngineScript} (issues : name.issues = true)
    (plan : Plan platform guard name knowledge changes) (quiet : Quiet changes)
    (rest : ∀ later issued, knowledge.Later later (engineContract platform guard) →
      Plan platform guard name later issued → Quiet issued →
      (continuation () issued).Meets (engineContract platform guard) later) :
    (issuePublishedRequest platform.env command continuation changes).Meets
      (engineContract platform guard) knowledge := by
  simp only [issuePublishedRequest, Transaction.bind_apply]
  refine meets_assertTenantAdmitted (quiet.admissions _) ?_
  intro row checked toChecked known admitted
  apply meets_clock
  intro now timed toTimed
  apply meets_require
  intro scheduled
  apply meets_randomUUID
  intro requestId named toNamed
  apply meets_randomUUID
  intro assignmentId assigned toAssigned
  apply meets_randomUUID
  intro eventId ready toReady
  apply meets_orRefuse
  intro issued step
  refine meets_insertNew (plan.undeleted _) ?_
  intro inserted toInserted fresh
  have fromChecked := ((toTimed.trans toNamed).trans (toAssigned.trans toReady)).trans toInserted
  have moreKnown := toChecked.trans fromChecked
  have move : CaseMove platform guard name inserted.known none (some issued) :=
    .issued command now requestId assignmentId eventId _ issued row issues
      (fromChecked.known known) admitted step
  have planned := (plan.later moreKnown).insertCase fresh move
  have quietInserted : Quiet (changes.insertRow (.request issued.requestId) issued) :=
    quiet.insertCase
  have named : issued.requestId = requestId := by
    obtain ⟨event, chain, _, rfl⟩ := appendCase_ok step
    rfl
  have queueable : Queueable inserted (changes.insertRow (.request issued.requestId) issued)
      requestId := by
    right
    rw [named]
    exact ⟨issued, AList.lookup_insert changes⟩
  have reminders : ∀ later queued, inserted.Later later (engineContract platform guard) →
      Plan platform guard name later queued →
      SameElsewhere (changes.insertRow (.request issued.requestId) issued) queued →
      (queueReminders platform.env command requestId now
        command.workflow.snapshot.notifications.reminderHoursBeforeDue continuation queued).Meets
        (engineContract platform guard) later := by
    intro later queued toLater plannedLater same
    refine meets_queueReminders _ plannedLater ((queueable.later toLater).elsewhere same) ?_
    intro last reminded toLast plannedLast sameLast
    exact rest last reminded ((moreKnown.trans toLater).trans toLast) plannedLast
      ((quietInserted.elsewhere same).elsewhere sameLast)
  split
  · refine meets_queueNotification planned queueable ?_ ?_
    · simp [NOTIFICATION_TYPES]
    · intro later queued toLater plannedLater same
      exact reminders later queued toLater plannedLater same
  · exact reminders inserted _ Knowledge.Later.refl planned fun _ _ => rfl

theorem issueRequest_follows (command : PublishedIssue) :
    Follows platform guard (issueRequest platform.env command) := by
  intro store
  simp only [Transaction.script, issueRequest, Transaction.bind_apply]
  refine meets_issuePublishedRequest rfl (Plan.empty (.issueRequest command.tenantId)) Quiet.empty ?_
  intro later issued _ planned quiet
  exact meets_commitDone planned quiet rfl

/-! ## Request actions -/

theorem meets_lockActionRequest {command : ActionCommand}
    {continuation : Case → EngineChanges → EngineScript}
    (untouched : changes.lookup (Key.request command.requestId) = none)
    (rest : ∀ record later, knowledge.Later later (engineContract platform guard) →
      HasLocked later command.requestId record →
      record.request.status ≠ .completed → record.request.status ≠ .expired →
      (continuation record changes).Meets (engineContract platform guard) later) :
    (lockActionRequest command continuation changes).Meets (engineContract platform guard)
      knowledge := by
  simp only [lockActionRequest, lockRequest, Transaction.bind_apply]
  refine meets_plainQuery plain_statement ?_
  intro input store locks record allowed _ answered
  obtain ⟨found, there, result⟩ := Option.bind_eq_some_iff.mp answered
  obtain ⟨_, result⟩ := Option.ite_none_right_eq_some.mp result
  obtain ⟨rfl, rfl⟩ := Prod.mk.inj (Option.some.inj result)
  rw [caseAt_untouched untouched] at there
  apply meets_require
  intro allowedStatus
  obtain ⟨notCompleted, notExpired⟩ := Bool.and_eq_true_iff.mp allowedStatus
  have named := (caseAt_eq_some.mp there).2
  refine rest found _ (allowed.later _) (hasLocked_after ?_ there)
    (of_decide_eq_true notCompleted) (of_decide_eq_true notExpired)
  rw [caseLocks, named]
  exact List.mem_singleton.mpr rfl

/-- The changes of jobs are suppressions of waiting notifications that are locked. -/
def SuppressedJobs (requestId : Uuid) (knowledge : Knowledge Row)
    (changes later : EngineChanges) : Prop :=
  ∀ id, changes.lookup (Key.job id) = none → later.lookup (Key.job id) = none ∨
    ∃ row reason suppressedAt,
      later.lookup (Key.job id) = some (.update (JobRow.suppress row reason suppressedAt)) ∧
      isPendingRequestNotification requestId row = true ∧
      (⟨.job id, row⟩ : Sigma Row) ∈ knowledge.known

/-- Suppressing the notifications that call for an answer is part of every plan. -/
theorem meets_suppressPending {reason : JsString} {requestId : Uuid} {suppressedAt : Time}
    {continuation : Unit → EngineChanges → EngineScript}
    (plan : Plan platform guard name knowledge changes)
    (rest : ∀ later suppressed, knowledge.Later later (engineContract platform guard) →
      Plan platform guard name later suppressed → SameElsewhere changes suppressed →
      SuppressedJobs requestId later changes suppressed →
      (continuation () suppressed).Meets (engineContract platform guard) later) :
    (suppressPendingRequestNotifications reason requestId suppressedAt continuation changes).Meets
      (engineContract platform guard) knowledge := by
  unfold suppressPendingRequestNotifications
  refine meets_updateJobs plan ?_ ?_
  · intro input view id row after updated
    obtain ⟨pending, result⟩ := Option.ite_none_right_eq_some.mp updated
    obtain rfl := Option.some.inj result
    exact .suppressed row reason suppressedAt (isPendingRequestNotification_waiting pending)
  · intro later suppressed toLater planned same updated
    refine rest later suppressed toLater planned same ?_
    intro id untouched
    rcases updated id untouched with none | ⟨_, _, row, after, change, selected, known⟩
    · exact .inl none
    · obtain ⟨pending, result⟩ := Option.ite_none_right_eq_some.mp selected
      obtain rfl := Option.some.inj result
      exact .inr ⟨row, reason, suppressedAt, change, pending, known⟩

/-- Revoking a request that can still be answered. -/
theorem meets_revokeRequest {command : ActionCommand} {record : Case} {requestId : Uuid}
    {eventType reason : JsString} {now : Time} {continuation : Unit → EngineChanges → EngineScript}
    (plan : Plan platform guard name knowledge changes) (quiet : Quiet changes)
    (untouched : changes.lookup (Key.request requestId) = none)
    (locked : HasLocked knowledge requestId record)
    (notCompleted : record.request.status ≠ .completed)
    (notExpired : record.request.status ≠ .expired)
    (rest : ∀ later revoked, knowledge.Later later (engineContract platform guard) →
      Plan platform guard name later revoked → Quiet revoked →
      (continuation () revoked).Meets (engineContract platform guard) later) :
    (revokeRequest platform.env command record eventType reason now continuation changes).Meets
      (engineContract platform guard) knowledge := by
  simp only [revokeRequest, Transaction.bind_apply]
  apply meets_require
  intro notRevoked
  have active : record.request.status.active = true := by
    have notRevoked := of_decide_eq_true notRevoked
    cases status : record.request.status <;> simp_all [Status.active]
  refine meets_suppressPending plan ?_
  intro later suppressed toLater planned same _
  apply meets_randomUUID
  intro eventId ready toReady
  apply meets_orRefuse
  intro revoked step
  have moreKnown := toLater.trans toReady
  have untouched : suppressed.lookup (Key.request requestId) = none :=
    (same (.request requestId) (by simp)).trans untouched
  exact rest ready _ moreKnown
    ((planned.later toReady).stageCase untouched (locked.later moreKnown)
      (.revoked name command.actor eventType command.payload now eventId record revoked active step))
    (quiet.elsewhere same).stageCase

theorem applyRequestAction_follows (command : ActionCommand) :
    Follows platform guard (applyRequestAction platform.env command) := by
  intro store
  cases action : command.action with
  | revoke =>
      simp only [Transaction.script, applyRequestAction, action, Transaction.bind_apply]
      refine meets_lockActionRequest rfl ?_
      intro record found _ locked notCompleted notExpired
      apply meets_clock
      intro now timed toTimed
      refine meets_revokeRequest (Plan.empty (.requestAction command.requestId)) Quiet.empty rfl
        (locked.later toTimed) notCompleted notExpired ?_
      intro later revoked _ planned quiet
      exact meets_commitDone planned quiet rfl
  | reissue payload notification =>
      simp only [Transaction.script, applyRequestAction, action, Transaction.bind_apply]
      refine meets_assertTenantAdmitted rfl ?_
      intro row checked _ known admitted
      refine meets_lockActionRequest rfl ?_
      intro record found _ locked notCompleted notExpired
      apply meets_clock
      intro now timed toTimed
      refine meets_revokeRequest (Plan.empty (.requestAction command.requestId)) Quiet.empty rfl
        (locked.later toTimed) notCompleted notExpired ?_
      intro later revoked _ planned quiet
      split
      · exact trivial
      · refine meets_issuePublishedRequest rfl planned quiet ?_
        intro last issued _ plannedLast quietLast
        exact meets_commitDone plannedLast quietLast rfl
  | remind notification =>
      simp only [Transaction.script, applyRequestAction, action, Transaction.bind_apply]
      refine meets_lockActionRequest rfl ?_
      intro record found _ locked notCompleted notExpired
      apply meets_require
      intro notRevoked
      apply meets_clock
      intro now timed toTimed
      refine meets_queueNotification (Plan.empty (.requestAction command.requestId))
        (.inl ⟨record, locked.later toTimed⟩) ?_ ?_
      · simp [NOTIFICATION_TYPES]
      · intro later queued _ planned same
        exact meets_commitDone planned (Quiet.empty.elsewhere same) rfl

/-! ## Responding -/

/-- The rows as a transaction sees them that has suppressed notifications only. -/
theorem capturedView_suppressed {requestId : Uuid} {suppressed : EngineChanges}
    {store : EngineStore} (updated : SuppressedJobs requestId knowledge ∅ suppressed)
    (same : SameElsewhere ∅ suppressed)
    (allowed : knowledge.Allows (engineContract platform guard) store) :
    CapturedView requestId store (applyChanges store suppressed) where
  jobs := by
    intro id
    rcases updated id rfl with untouched | ⟨row, reason, suppressedAt, change, pending, known⟩
    · exact .inl (lookup_untouched untouched)
    · refine .inr ⟨row, reason, suppressedAt, allowed.current _ known, pending, ?_⟩
      rw [jobAt, lookup_applyChanges, change]
      rfl
  attempts := by
    intro id attempt
    exact lookup_untouched (same (.attempt id attempt) (by simp))

theorem respondToTerms_meets {command : RespondCommand} {record : Case}
    (locked : HasLocked knowledge command.requestId record) {now : Time}
    (available : assertAssignmentAvailable record now = .ok ())
    (notCompleted : record.assignment.status ≠ .completed)
    (terms : record.request.workflow = none) :
    (respondToTerms platform.env platform.provider platform.verifier command record
      (fun result _ => .stop result) ∅).Meets (engineContract platform guard) knowledge := by
  simp only [respondToTerms, Transaction.bind_apply]
  apply meets_require
  intro participant
  apply meets_clock
  intro completedAt timed moreKnown
  have locked := locked.later moreKnown
  apply meets_randomUUID
  intro eventId named moreKnown
  have locked := locked.later moreKnown
  apply meets_orRefuse
  intro responded step
  apply meets_randomUUID
  intro manifestId ready moreKnown
  have locked := locked.later moreKnown
  apply meets_orRefuse
  intro after sealed
  have stepped : CaseStep platform guard (.respond command.requestId) record after := by
    rw [← locked.requestId]
    exact .completedTerms command record now completedAt eventId responded manifestId after
      available notCompleted terms step sealed
  exact meets_stageCase locked stepped rfl

theorem completeWorkflow_meets {command : RespondCommand} {record submitted : Case}
    {workflow : PublishedWorkflow} {completedAt : Time} {answered : Answered}
    {responseId eventId : Uuid} (locked : HasLocked knowledge command.requestId record)
    (answering : Answering platform command record workflow completedAt answered)
    (intent : command.intent = .submit)
    (step : submitResponse platform.env answered command workflow completedAt responseId eventId =
      .ok (none, submitted)) :
    (completeWorkflow platform.env platform.provider platform.verifier command workflow submitted
      completedAt (fun result _ => .stop result) ∅).Meets (engineContract platform guard)
      knowledge := by
  have named : submitted.requestId = command.requestId := by
    obtain ⟨_, _, _, recorded⟩ := answering.answered
    obtain ⟨_, _, _, _, _, _, _, _, _, result⟩ := answerActivity_ok recorded
    obtain ⟨_, _, _, _, _, rfl⟩ := submitResponse_ok step
    rw [result]
    exact locked.requestId
  simp only [completeWorkflow, Transaction.bind_apply]
  refine meets_suppressPending (Plan.empty (.respond command.requestId)) ?_
  intro later suppressed toLater planned same updated
  have locked := locked.later toLater
  unfold readRows
  apply meets_query
  intro input store locks loaded allowed guarded answer
  obtain ⟨rfl, captured⟩ := Prod.mk.inj (Option.some.inj answer)
  have moreKnown := allowed.later []
  have locked := locked.later moreKnown
  have planned := planned.later moreKnown
  cases loaded with
  | error failure =>
      refine ⟨?_, trivial⟩
      rintro outcome -
      exact ⟨_, _, failure, capturedView_suppressed updated same allowed, captured⟩
  | ok evidence =>
      refine ⟨by rintro outcome ⟨⟩, ?_⟩
      apply meets_orRefuse
      rintro _ ⟨⟩
      apply meets_randomUUID
      intro manifestId ready moreKnown
      have locked := locked.later moreKnown
      have planned := planned.later moreKnown
      apply meets_orRefuse
      intro completed sealed
      have stepped : CaseStep platform guard (.respond command.requestId) record completed := by
        rw [← locked.requestId]
        exact .completed command record workflow completedAt answered responseId eventId submitted
          evidence manifestId completed answering intent step sealed
      have untouched : suppressed.lookup (Key.request command.requestId) = none :=
        same (.request command.requestId) (by simp)
      split
      · refine meets_queueNotification planned (.inl ⟨record, named ▸ locked⟩) ?_ ?_
        · simp [NOTIFICATION_TYPES]
        · intro last queued toLast plannedLast sameLast
          refine meets_commitDone (plannedLast.stageCase ?_ (locked.later toLast) stepped)
            ((Quiet.empty.elsewhere same).elsewhere sameLast).stageCase rfl
          exact (sameLast (.request command.requestId) (by simp)).trans untouched
      · exact meets_commitDone (planned.stageCase untouched locked stepped)
          (Quiet.empty.elsewhere same).stageCase rfl

theorem respondToWorkflowActivity_meets {command : RespondCommand} {record : Case}
    {workflow : PublishedWorkflow} (locked : HasLocked knowledge command.requestId record)
    {available : Time} (assignable : assertAssignmentAvailable record available = .ok ())
    (notCompleted : record.assignment.status ≠ .completed)
    (published : record.request.workflow = some workflow) :
    (respondToWorkflowActivity platform.env platform.provider platform.verifier command workflow
      record (fun result _ => .stop result) ∅).Meets (engineContract platform guard)
      knowledge := by
  simp only [respondToWorkflowActivity, Transaction.bind_apply]
  apply meets_require
  intro participant
  apply meets_clock
  intro now timed moreKnown
  have locked := locked.later moreKnown
  apply meets_clock
  intro completedAt completing moreKnown
  have locked := locked.later moreKnown
  apply meets_randomUUID
  intro revisionId revised moreKnown
  have locked := locked.later moreKnown
  apply meets_randomUUID
  intro eventId ready moreKnown
  have locked := locked.later moreKnown
  apply meets_orRefuse
  intro answered recorded
  have answering : Answering platform command record workflow completedAt answered :=
    ⟨⟨available, assignable⟩, notCompleted, participant, published,
      ⟨now, revisionId, eventId, recorded⟩⟩
  cases intent : command.intent with
  | save =>
      have stepped : CaseStep platform guard (.respond command.requestId) record
          answered.record := by
        rw [← locked.requestId]
        exact .saved command record workflow completedAt answered answering intent
      exact meets_stageCase locked stepped rfl
  | submit =>
      apply meets_randomUUID
      intro responseId responding moreKnown
      have locked := locked.later moreKnown
      apply meets_randomUUID
      intro completionId submitting moreKnown
      have locked := locked.later moreKnown
      apply meets_orRefuse
      rintro ⟨nextActivityId, submitted⟩ step
      cases nextActivityId with
      | some nextActivityId =>
          have stepped : CaseStep platform guard (.respond command.requestId) record submitted := by
            rw [← locked.requestId]
            exact .submitted command record workflow completedAt answered responseId completionId
              nextActivityId submitted answering intent step
          exact meets_stageCase locked stepped rfl
      | none => exact completeWorkflow_meets locked answering intent step

theorem respond_follows (command : RespondCommand) :
    Follows platform guard
      (respond platform.env platform.provider platform.verifier command) := by
  intro store
  simp only [Transaction.script, respond, Transaction.bind_apply]
  refine meets_lockCase rfl ?_
  intro record found _ locked
  apply meets_orRefuse
  intro _ authorized
  apply meets_clock
  intro now timed moreKnown
  have locked := locked.later moreKnown
  apply meets_orRefuse
  intro _ available
  apply meets_require
  intro notCompleted
  have notCompleted := of_decide_eq_true notCompleted
  cases published : record.request.workflow with
  | some workflow => exact respondToWorkflowActivity_meets locked available notCompleted published
  | none => exact respondToTerms_meets locked available notCompleted published

end Vasi.EngineEffects
