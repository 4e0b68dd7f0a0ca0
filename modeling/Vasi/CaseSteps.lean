import Vasi.EngineEffects

/-!
# What the steps of a case do

One lemma for each function that a transaction applies to a case: what it
required, and which parts of the case it has changed. From these follows what
every step has in common: the identity of the case stays, the chain grows by
appends, and a request that can no longer be answered stays so.
-/
namespace Vasi.EngineEffects

open JsValue IsoTime Validation ReadCommitted EngineRows EvidenceEvents EngineCases Notifications
  EvidenceStore Sealing Respond RequestActions Worker

variable {env : Environment}

/-- The chain is the same or longer by one appended event. -/
def AppendedTo (env : Environment) (chain after : ChainRow) : Prop :=
  after = chain ∨ ∃ event, appendEvent env event chain = .ok after

/-- The chain has grown by appended events. -/
abbrev Extends (env : Environment) : ChainRow → ChainRow → Prop :=
  Relation.ReflTransGen fun chain after => ∃ event, appendEvent env event chain = .ok after

theorem AppendedTo.extends {chain after : ChainRow} (appended : AppendedTo env chain after) :
    Extends env chain after := by
  rcases appended with rfl | appended
  · exact .refl
  · exact .single appended

/-! ## Opening -/

theorem currentActivity_ok {activities after : List ActivityInstance} {now : Time} {ordinal : ℕ}
    (found : currentActivity activities now = .ok (ordinal, after)) :
    activities.findIdx? (fun activity => activity.status = .available) = some ordinal ∧
      after = activities.modify ordinal fun activity =>
        { activity with openedAt := some (activity.openedAt.getD now) } := by
  unfold currentActivity at found
  split at found
  · cases found
  · rename_i first index
    obtain ⟨rfl, rfl⟩ := Prod.mk.inj (Except.ok.inj found)
    exact ⟨index, rfl⟩

theorem startInteraction_ok {record after : Case} {command : ParticipantCommand} {now : Time}
    {interactionId eventId : Uuid}
    (started : startInteraction env record command now interactionId eventId = .ok after) :
    ∃ interaction chain event, appendEvent env event record.chain = .ok chain ∧
      after = { record with assignment := { record.assignment with interaction }, chain } := by
  obtain ⟨event, chain, appended, rfl⟩ := appendCase_ok started
  exact ⟨_, chain, event, appended, rfl⟩

theorem openInteraction_ok {record after : Case} {command : ParticipantCommand} {now : Time}
    {interactionId eventId : Uuid}
    (opened : openInteraction env record command now interactionId eventId = .ok after) :
    ∃ interaction chain, AppendedTo env record.chain chain ∧
      after = { record with assignment := { record.assignment with interaction }, chain } := by
  unfold openInteraction at opened
  split at opened
  · split at opened
    · obtain rfl := Except.ok.inj opened
      exact ⟨record.assignment.interaction, record.chain, .inl rfl, rfl⟩
    · obtain ⟨interaction, chain, event, appended, rfl⟩ := startInteraction_ok opened
      exact ⟨interaction, chain, .inr ⟨event, appended⟩, rfl⟩
  · obtain ⟨interaction, chain, event, appended, rfl⟩ := startInteraction_ok opened
    exact ⟨interaction, chain, .inr ⟨event, appended⟩, rfl⟩

/-- Opening binds the participant, starts an interaction if there is none and
sets the opening time of the current activity. -/
theorem openCase_ok {record after : Case} {command : ParticipantCommand} {now : Time}
    {interactionId eventId : Uuid}
    (opened : openCase env record command now interactionId eventId = .ok after) :
    assertAssignmentAvailable record now = .ok () ∧
      ∃ interaction chain activities, AppendedTo env record.chain chain ∧
        (activities = record.activities ∨
          ∃ ordinal, currentActivity record.activities now = .ok (ordinal, activities)) ∧
        after = { bindParticipant (issueScheduled record) command.actor with
          assignment := { (bindParticipant (issueScheduled record) command.actor).assignment with
            interaction }
          activities, chain } := by
  obtain ⟨⟨⟩, available, opened⟩ := bind_ok opened
  obtain ⟨middle, interacted, opened⟩ := bind_ok opened
  have sameChain : (bindParticipant (issueScheduled record) command.actor).chain = record.chain := by
    unfold bindParticipant issueScheduled setStatus
    split <;> split <;> rfl
  have sameActivities :
      (bindParticipant (issueScheduled record) command.actor).activities = record.activities := by
    unfold bindParticipant issueScheduled setStatus
    split <;> split <;> rfl
  obtain ⟨interaction, chain, appended, rfl⟩ := openInteraction_ok interacted
  rw [sameChain] at appended
  refine ⟨available, interaction, chain, ?_⟩
  simp only [sameActivities] at opened
  split at opened
  · obtain ⟨⟨ordinal, activities⟩, current, result⟩ := bind_ok opened
    obtain rfl := Except.ok.inj result
    exact ⟨activities, appended, .inr ⟨ordinal, current⟩, rfl⟩
  · obtain rfl := Except.ok.inj opened
    exact ⟨record.activities, appended, .inl rfl, rfl⟩

/-! ## Recording and reading -/

theorem assertActivityAvailable_ok {record : Case} {unavailable : JsString} {now : Time}
    (available : assertActivityAvailable record unavailable now = .ok ()) :
    record.assignment.status.active = true ∧ record.request.status.active = true := by
  unfold assertActivityAvailable at available
  split at available
  · cases available
  split at available
  · cases available
  split at available
  · cases available
  rename_i notRevoked notCompleted notExpired
  push Not at notRevoked notCompleted notExpired
  refine ⟨?_, ?_⟩
  · cases status : record.assignment.status <;> simp_all [Status.active]
  · cases status : record.request.status <;> simp_all [Status.active]

/-- A recording appends one event to the chain of a case that can be answered. -/
theorem recordCase_ok {recording : Recording} {record after : Case} {command : RecordCommand}
    {now : Time} {eventId : Uuid}
    (recorded : recordCase env recording record command now eventId = .ok after) :
    (record.assignment.status.active = true ∧ record.request.status.active = true) ∧
      ∃ chain event, appendEvent env event record.chain = .ok chain ∧
        after = { record with chain } := by
  obtain ⟨⟨⟩, available, recorded⟩ := bind_ok recorded
  refine ⟨assertActivityAvailable_ok available, ?_⟩
  dsimp only at recorded
  split at recorded
  · obtain ⟨event, chain, appended, rfl⟩ := appendCase_ok recorded
    exact ⟨chain, event, appended, rfl⟩
  · cases recorded

/-- Opening a document appends one event unless the assignment is completed. -/
theorem openArtifactCase_ok {record after : Case} {command : ArtifactCommand} {now : Time}
    {eventId : Uuid} (opened : openArtifactCase env record command now eventId = .ok after) :
    assertParticipantContentAccess record command.activityId now = .ok () ∧
      (after = record ∨ (record.assignment.status ≠ .completed ∧
        ∃ chain event, appendEvent env event record.chain = .ok chain ∧
          after = { record with chain })) := by
  obtain ⟨⟨⟩, access, opened⟩ := bind_ok opened
  refine ⟨access, ?_⟩
  split at opened
  · rename_i notCompleted
    obtain ⟨event, chain, appended, rfl⟩ := appendCase_ok opened
    exact .inr ⟨notCompleted, chain, event, appended, rfl⟩
  · exact .inl (Except.ok.inj opened).symm

/-! ## Responding -/

theorem codeOf_ok {α : Type} {checked : Checked α} {value : α}
    (accepted : codeOf checked = .ok value) : checked = .ok value := by
  cases checked with
  | error failure => cases accepted
  | ok found => exact congrArg Except.ok (Except.ok.inj accepted)

/-- Media completion keeps everything but the result. -/
theorem assertMediaCompletion_ok {command : RespondCommand} {activity : Activities.Activity}
    {response after : Activities.ActivityResponse}
    (accepted : assertMediaCompletion command activity response = .ok after) :
    ∃ result, after = { response with result } := by
  unfold assertMediaCompletion at accepted
  split at accepted
  · cases completion : command.mediaCompletion with
    | error code => rw [completion] at accepted; cases accepted
    | ok result =>
        rw [completion] at accepted
        exact ⟨result, (Except.ok.inj accepted).symm⟩
  · exact ⟨response.result, (Except.ok.inj accepted).symm⟩

/-- Answering records a revision of the current activity and appends one event. -/
theorem answerActivity_ok {record : Case} {command : RespondCommand} {now completedAt : Time}
    {revisionId eventId : Uuid} {answered : Answered}
    (recorded : answerActivity env record command now completedAt revisionId eventId =
      .ok answered) :
    ∃ activities activity revision chain event,
      currentActivity record.activities now = .ok (answered.ordinal, activities) ∧
      activities[answered.ordinal]? = some activity ∧
      answered.activity = activity.definition ∧
      appendEvent env event record.chain = .ok chain ∧
      answered.record = { record with
        activities := recordRevision activities answered.ordinal revision, chain } := by
  obtain ⟨⟨ordinal, activities⟩, current, recorded⟩ := bind_ok recorded
  simp only at recorded
  split at recorded
  · cases recorded
  rename_i activity found
  split at recorded
  · cases recorded
  obtain ⟨validated, _, recorded⟩ := bind_ok recorded
  obtain ⟨response, _, recorded⟩ := bind_ok recorded
  obtain ⟨after, stored, recorded⟩ := bind_ok recorded
  obtain rfl := Except.ok.inj recorded
  obtain ⟨event, chain, appended, result⟩ := appendCase_ok stored
  exact ⟨activities, activity, _, chain, event, current, found, rfl, appended, result⟩

/-- Submitting moves the workflow on and appends one event. -/
theorem submitResponse_ok {answered : Answered} {command : RespondCommand}
    {workflow : PublishedWorkflow} {completedAt : Time} {responseId eventId : Uuid}
    {nextActivityId : Option JsString} {after : Case}
    (submitted : submitResponse env answered command workflow completedAt responseId eventId =
      .ok (nextActivityId, after)) :
    ∃ activities chain event,
      advanceActivities workflow.snapshot (completeActivity answered.record.activities
        answered.ordinal ⟨responseId, answered.response, completedAt⟩) answered.activity.id
        answered.response.outcome = .ok (nextActivityId, activities) ∧
      appendEvent env event answered.record.chain = .ok chain ∧
      after = { answered.record with activities, chain } := by
  obtain ⟨⟨next, activities⟩, advanced, submitted⟩ := bind_ok submitted
  obtain ⟨record, stored, submitted⟩ := bind_ok submitted
  obtain ⟨rfl, rfl⟩ := Prod.mk.inj (Except.ok.inj submitted)
  obtain ⟨event, chain, appended, result⟩ := appendCase_ok stored
  exact ⟨activities, chain, event, advanced, appended, result⟩

/-- Sealing stores a manifest for a record that had none. -/
theorem sealCase_ok {provider : SigningProvider} {verifier : Verifier} {command : RespondCommand}
    {record after : Case} {evidence : Option DeliveryEvidence} {completedAt : Time}
    {manifestId : Uuid}
    (sealed : sealCase env provider verifier command record evidence completedAt manifestId =
      .ok after) :
    ∃ row, persistSeal env provider verifier completedAt record
        (command.manifest record evidence manifestId completedAt) manifestId = .ok row ∧
      after = { record with manifest := some row } := by
  obtain ⟨row, persisted, sealed⟩ := bind_ok sealed
  exact ⟨row, persisted, (Except.ok.inj sealed).symm⟩

/-! ## Ending and advancing -/

theorem revokeCase_ok {record after : Case} {actor : Actor} {eventType : JsString}
    {payload : Document} {now : Time} {eventId : Uuid}
    (revoked : revokeCase env record actor eventType payload now eventId = .ok after) :
    ∃ chain event, appendEvent env event record.chain = .ok chain ∧
      after = { setStatus record .revoked with chain } := by
  obtain ⟨event, chain, appended, rfl⟩ := appendCase_ok revoked
  exact ⟨chain, event, appended, rfl⟩

theorem advanceCase_ok {record after : Case} {status : Status} {now : Time} {eventId : Uuid}
    (advanced : advanceCase env record status now eventId = .ok after) :
    ∃ chain event, appendEvent env event record.chain = .ok chain ∧
      after = { setStatus record status with chain } := by
  obtain ⟨event, chain, appended, rfl⟩ := appendCase_ok advanced
  exact ⟨chain, event, appended, rfl⟩

/-! ## What all steps have in common -/

/-- The columns of a case that no step changes. -/
structure SameCase (record after : Case) : Prop where
  requestId : after.requestId = record.requestId
  request : after.request = { record.request with status := after.request.status }
  assignmentId : after.assignment.id = record.assignment.id
  intendedEmail : after.assignment.intendedEmail = record.assignment.intendedEmail

theorem SameCase.refl (record : Case) : SameCase record record := ⟨rfl, rfl, rfl, rfl⟩

/-- A change of status and of other columns keeps the identity of a case. -/
theorem sameCase_setStatus (record : Case) (status : Status) :
    SameCase record (setStatus record status) := ⟨rfl, rfl, rfl, rfl⟩

/-- Binding the participant touches the statuses and the participant. -/
theorem bindParticipant_same (record : Case) (actor : Actor) :
    SameCase record (bindParticipant (issueScheduled record) actor) := by
  unfold bindParticipant issueScheduled setStatus
  split <;> split <;> exact ⟨rfl, rfl, rfl, rfl⟩

variable {platform : Platform} {guard : EngineGuard} {name : TransactionName}
  {record after : Case}

/-- A step keeps the identity of the case. -/
theorem CaseStep.same (step : CaseStep platform guard name record after) :
    SameCase record after := by
  cases step with
  | opened command now interactionId eventId _ _ notCompleted step =>
      obtain ⟨_, interaction, chain, activities, _, _, rfl⟩ := openCase_ok step
      have same := bindParticipant_same record command.actor
      exact ⟨same.requestId, same.request, same.assignmentId, same.intendedEmail⟩
  | recorded recording command now eventId _ _ step =>
      obtain ⟨_, chain, event, _, rfl⟩ := recordCase_ok step
      exact ⟨rfl, rfl, rfl, rfl⟩
  | presented command now eventId _ _ step =>
      obtain ⟨_, rfl | ⟨_, chain, event, _, rfl⟩⟩ := openArtifactCase_ok step
      · exact SameCase.refl _
      · exact ⟨rfl, rfl, rfl, rfl⟩
  | saved command _ workflow completedAt answered answering intent =>
      obtain ⟨now, revisionId, eventId, recorded⟩ := answering.answered
      obtain ⟨activities, activity, revision, chain, event, _, _, _, _, result⟩ :=
        answerActivity_ok recorded
      rw [result]
      exact ⟨rfl, rfl, rfl, rfl⟩
  | submitted command _ workflow completedAt answered responseId eventId next _ answering intent
      step =>
      obtain ⟨now, revisionId, eventId, recorded⟩ := answering.answered
      obtain ⟨activities, activity, revision, chain, event, _, _, _, _, result⟩ :=
        answerActivity_ok recorded
      obtain ⟨activities', chain', event', _, _, rfl⟩ := submitResponse_ok step
      rw [result]
      exact ⟨rfl, rfl, rfl, rfl⟩
  | completed command _ workflow completedAt answered responseId eventId submitted evidence
      manifestId _ answering intent step sealed =>
      obtain ⟨now, revisionId, eventId, recorded⟩ := answering.answered
      obtain ⟨activities, activity, revision, chain, event, _, _, _, _, result⟩ :=
        answerActivity_ok recorded
      obtain ⟨activities', chain', event', _, _, rfl⟩ := submitResponse_ok step
      obtain ⟨row, _, rfl⟩ := sealCase_ok sealed
      rw [result]
      exact ⟨rfl, rfl, rfl, rfl⟩
  | completedTerms command _ now completedAt eventId responded manifestId _ available notCompleted
      terms step sealed =>
      obtain ⟨event, chain, _, rfl⟩ := appendCase_ok step
      obtain ⟨row, _, rfl⟩ := sealCase_ok sealed
      exact ⟨rfl, rfl, rfl, rfl⟩
  | revoked _ actor eventType payload now eventId _ _ active step =>
      obtain ⟨chain, event, _, rfl⟩ := revokeCase_ok step
      exact ⟨rfl, rfl, rfl, rfl⟩
  | advanced databaseClock now eventId _ _ due decided step =>
      obtain ⟨chain, event, _, rfl⟩ := advanceCase_ok step
      exact ⟨rfl, rfl, rfl, rfl⟩

/-- A step lengthens the chain by appends. -/
theorem CaseStep.extends (step : CaseStep platform guard name record after) :
    Extends platform.env record.chain after.chain := by
  cases step with
  | opened command now interactionId eventId _ _ notCompleted step =>
      obtain ⟨_, interaction, chain, activities, appended, _, rfl⟩ := openCase_ok step
      exact appended.extends
  | recorded recording command now eventId _ _ step =>
      obtain ⟨_, chain, event, appended, rfl⟩ := recordCase_ok step
      exact .single ⟨event, appended⟩
  | presented command now eventId _ _ step =>
      obtain ⟨_, rfl | ⟨_, chain, event, appended, rfl⟩⟩ := openArtifactCase_ok step
      · exact .refl
      · exact .single ⟨event, appended⟩
  | saved command _ workflow completedAt answered answering intent =>
      obtain ⟨now, revisionId, eventId, recorded⟩ := answering.answered
      obtain ⟨activities, activity, revision, chain, event, _, _, _, appended, result⟩ :=
        answerActivity_ok recorded
      rw [result]
      exact .single ⟨event, appended⟩
  | submitted command _ workflow completedAt answered responseId eventId next _ answering intent
      step =>
      obtain ⟨now, revisionId, eventId, recorded⟩ := answering.answered
      obtain ⟨activities, activity, revision, chain, event, _, _, _, appended, result⟩ :=
        answerActivity_ok recorded
      obtain ⟨activities', chain', event', _, appended', rfl⟩ := submitResponse_ok step
      rw [result] at appended'
      exact .tail (.single ⟨event, appended⟩) ⟨event', appended'⟩
  | completed command _ workflow completedAt answered responseId eventId submitted evidence
      manifestId _ answering intent step sealed =>
      obtain ⟨now, revisionId, eventId, recorded⟩ := answering.answered
      obtain ⟨activities, activity, revision, chain, event, _, _, _, appended, result⟩ :=
        answerActivity_ok recorded
      obtain ⟨activities', chain', event', _, appended', rfl⟩ := submitResponse_ok step
      obtain ⟨row, _, rfl⟩ := sealCase_ok sealed
      rw [result] at appended'
      exact .tail (.single ⟨event, appended⟩) ⟨event', appended'⟩
  | completedTerms command _ now completedAt eventId responded manifestId _ available notCompleted
      terms step sealed =>
      obtain ⟨event, chain, appended, rfl⟩ := appendCase_ok step
      obtain ⟨row, _, rfl⟩ := sealCase_ok sealed
      exact .single ⟨event, appended⟩
  | revoked _ actor eventType payload now eventId _ _ active step =>
      obtain ⟨chain, event, appended, rfl⟩ := revokeCase_ok step
      exact .single ⟨event, appended⟩
  | advanced databaseClock now eventId _ _ due decided step =>
      obtain ⟨chain, event, appended, rfl⟩ := advanceCase_ok step
      exact .single ⟨event, appended⟩

/-- The worker selects only requests that can still be answered. -/
theorem isDue_active {row : RequestRow} {now : Time} (due : isDue row now = true) :
    row.status.active = true := by
  simp only [isDue, Bool.or_eq_true, Bool.and_eq_true, decide_eq_true_eq] at due
  rcases due with ⟨scheduled, _⟩ | ⟨active, _⟩
  · rw [scheduled]; rfl
  · exact active

/-- Binding the participant does not bring an ended request back. -/
theorem bindParticipant_ended (record : Case) (actor : Actor)
    (ended : record.request.status.active = false) :
    (bindParticipant (issueScheduled record) actor).request.status.active = false := by
  have notScheduled : record.request.status ≠ .scheduled := by
    intro same
    rw [same] at ended
    cases ended
  have notIssued : record.request.status ≠ .issued := by
    intro same
    rw [same] at ended
    cases ended
  have same : issueScheduled record = record := if_neg notScheduled
  rw [same, bindParticipant]
  split
  · exact ended
  · simpa [notScheduled, notIssued] using ended

/-- A request that can no longer be answered stays so. -/
theorem CaseStep.ended (step : CaseStep platform guard name record after)
    (ended : record.request.status.active = false) : after.request.status.active = false := by
  cases step with
  | opened command now interactionId eventId _ _ notCompleted step =>
      obtain ⟨_, interaction, chain, activities, _, _, rfl⟩ := openCase_ok step
      exact bindParticipant_ended record command.actor ended
  | recorded recording command now eventId _ _ step =>
      obtain ⟨_, chain, event, _, rfl⟩ := recordCase_ok step
      exact ended
  | presented command now eventId _ _ step =>
      obtain ⟨_, rfl | ⟨_, chain, event, _, rfl⟩⟩ := openArtifactCase_ok step
      · exact ended
      · exact ended
  | saved command _ workflow completedAt answered answering intent =>
      obtain ⟨now, revisionId, eventId, recorded⟩ := answering.answered
      obtain ⟨activities, activity, revision, chain, event, _, _, _, _, result⟩ :=
        answerActivity_ok recorded
      rw [result]
      exact ended
  | submitted command _ workflow completedAt answered responseId eventId next _ answering intent
      step =>
      obtain ⟨now, revisionId, eventId, recorded⟩ := answering.answered
      obtain ⟨activities, activity, revision, chain, event, _, _, _, _, result⟩ :=
        answerActivity_ok recorded
      obtain ⟨activities', chain', event', _, _, rfl⟩ := submitResponse_ok step
      rw [result]
      exact ended
  | completed command _ workflow completedAt answered responseId eventId submitted evidence
      manifestId _ answering intent step sealed =>
      obtain ⟨row, _, rfl⟩ := sealCase_ok sealed
      rfl
  | completedTerms command _ now completedAt eventId responded manifestId _ available notCompleted
      terms step sealed =>
      obtain ⟨row, _, rfl⟩ := sealCase_ok sealed
      rfl
  | revoked _ actor eventType payload now eventId _ _ active step =>
      rw [ended] at active
      cases active
  | advanced databaseClock now eventId _ _ due decided step =>
      rw [isDue_active due] at ended
      cases ended

end Vasi.EngineEffects
