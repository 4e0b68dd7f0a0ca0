import Vasi.Sample

/-!
# Request and assignment status

The two statuses of a case agree in every reachable state, because every step
changes both alike. They also move forward only, with one exception: the worker
selects a request by the clock of the database and decides with its own clock,
and where it finds the selected request not yet expired it marks it issued, also
when the participant had already started. The statuses move forward in every
run in which the worker's clock has reached the expiry of each request in
progress that it selected.
-/
namespace Vasi.Lifecycle

open JsValue IsoTime ReadCommitted EngineRows EvidenceEvents EngineCases EvidenceStore
  RequestActions Worker EngineEffects Engine

/-- The place of a status along scheduled, issued, in progress and the end. -/
def rank : Status → ℕ
  | .scheduled => 0
  | .issued => 1
  | .inProgress => 2
  | .completed | .revoked | .expired => 3

/-- A status moves forward, and no further once the request has ended. -/
def Forward (first second : Status) : Prop :=
  rank first ≤ rank second ∧ (first.active = false → second = first)

theorem Forward.refl (status : Status) : Forward status status := ⟨le_refl _, fun _ => rfl⟩

theorem Forward.trans {first second third : Status} (left : Forward first second)
    (right : Forward second third) : Forward first third := by
  refine ⟨left.1.trans right.1, ?_⟩
  intro ended
  have same := left.2 ended
  rw [right.2 (same ▸ ended), same]

/-- An active status moves forward to any end. -/
theorem forward_ended {first second : Status} (active : first.active = true)
    (ended : second.active = false) : Forward first second := by
  refine ⟨?_, ?_⟩
  · cases first <;> cases second <;> simp_all [rank, Status.active]
  · intro inactive
    rw [active] at inactive
    cases inactive

/-- What holds of the statuses of a case in every reachable state. -/
def Agree (record : Case) : Prop := record.request.status = record.assignment.status

/-- Both statuses move forward. -/
structure Advances (record after : Case) : Prop where
  request : Forward record.request.status after.request.status
  assignment : Forward record.assignment.status after.assignment.status

theorem Advances.refl (record : Case) : Advances record record :=
  ⟨Forward.refl _, Forward.refl _⟩

/-- Statuses that agree advance together. -/
theorem advances_of_agree {record after : Case} (before : Agree record) (agree : Agree after)
    (forward : Forward record.request.status after.request.status) : Advances record after := by
  refine ⟨forward, ?_⟩
  rw [← before, ← agree]
  exact forward

/-- Setting both statuses makes them agree. -/
theorem agree_setStatus (record : Case) (status : Status) : Agree (setStatus record status) := rfl

/-! ## Steps -/

/-- A case that can be opened is active. -/
theorem available_active {record : Case} {now : Time} (agree : Agree record)
    (available : assertAssignmentAvailable record now = .ok ())
    (notCompleted : record.assignment.status ≠ .completed) :
    record.request.status.active = true := by
  obtain ⟨_, notRevoked, notExpired, _⟩ := assertAssignmentAvailable_ok available
  rw [← agree] at notCompleted
  cases status : record.request.status <;> simp_all [Status.active]

/-- Opening keeps the statuses or starts progress. -/
theorem bindParticipant_advances {record : Case} (actor : Actor) (agree : Agree record)
    (active : record.request.status.active = true) :
    Agree (bindParticipant (issueScheduled record) actor) ∧
      Forward record.request.status
        (bindParticipant (issueScheduled record) actor).request.status := by
  obtain ⟨_, ⟨_, status, _, _, _, _, _⟩, ⟨_, assignmentStatus, _, principalId, _⟩, _, _, _⟩ := record
  obtain rfl : status = assignmentStatus := agree
  cases status with
  | completed | revoked | expired => cases active
  | scheduled | issued | inProgress =>
      cases principalId <;>
        simp [Agree, Forward, rank, Status.active, bindParticipant, issueScheduled, setStatus]

variable {platform : Platform} {guard : EngineGuard} {name : TransactionName} {record after : Case}

/-- Whenever the worker decides about a request in progress, its clock has reached the expiry. -/
def decidesInTime : EngineGuard where
  statement := fun point input _ => match point with
    | .lifecycleDecision selected => selected.status ≠ .inProgress || selected.expiresAt ≤ input.clock
    | _ => true
  commit := fun _ _ => true

/-- A step keeps the agreement of the statuses. -/
theorem CaseStep.agree (step : CaseStep platform guard name record after) (agree : Agree record) :
    Agree after := by
  cases step with
  | opened command now interactionId eventId _ _ notCompleted step =>
      obtain ⟨available, interaction, chain, activities, _, _, rfl⟩ := openCase_ok step
      exact (bindParticipant_advances command.actor agree
        (available_active agree available notCompleted)).1
  | recorded recording command now eventId _ _ step =>
      obtain ⟨_, chain, event, _, rfl⟩ := recordCase_ok step
      exact agree
  | presented command now eventId _ _ step =>
      obtain ⟨_, rfl | ⟨_, chain, event, _, rfl⟩⟩ := openArtifactCase_ok step
      · exact agree
      · exact agree
  | saved command _ workflow completedAt answered answering intent =>
      obtain ⟨now, revisionId, eventId, recorded⟩ := answering.answered
      obtain ⟨_, _, _, _, _, _, _, _, _, result⟩ := answerActivity_ok recorded
      rw [result]
      exact agree
  | submitted command _ workflow completedAt answered responseId eventId next _ answering intent
      step =>
      obtain ⟨now, revisionId, eventId, recorded⟩ := answering.answered
      obtain ⟨_, _, _, _, _, _, _, _, _, result⟩ := answerActivity_ok recorded
      obtain ⟨_, _, _, _, _, rfl⟩ := submitResponse_ok step
      rw [result]
      exact agree
  | completed command _ workflow completedAt answered responseId eventId submitted evidence
      manifestId _ answering intent step sealed =>
      obtain ⟨row, _, rfl⟩ := sealCase_ok sealed
      rfl
  | completedTerms command _ now completedAt eventId responded manifestId _ available notCompleted
      terms step sealed =>
      obtain ⟨row, _, rfl⟩ := sealCase_ok sealed
      rfl
  | revoked _ actor eventType payload now eventId _ _ active step =>
      obtain ⟨chain, event, _, rfl⟩ := revokeCase_ok step
      rfl
  | advanced databaseClock now eventId _ _ due decided step =>
      obtain ⟨chain, event, _, rfl⟩ := advanceCase_ok step
      rfl

/-- A step moves the statuses forward, if the worker decides in time. -/
theorem CaseStep.advances (step : CaseStep platform decidesInTime name record after)
    (agree : Agree record) : Advances record after := by
  refine advances_of_agree agree (CaseStep.agree step agree) ?_
  cases step with
  | opened command now interactionId eventId _ _ notCompleted step =>
      obtain ⟨available, interaction, chain, activities, _, _, rfl⟩ := openCase_ok step
      exact (bindParticipant_advances command.actor agree
        (available_active agree available notCompleted)).2
  | recorded recording command now eventId _ _ step =>
      obtain ⟨_, chain, event, _, rfl⟩ := recordCase_ok step
      exact Forward.refl _
  | presented command now eventId _ _ step =>
      obtain ⟨_, rfl | ⟨_, chain, event, _, rfl⟩⟩ := openArtifactCase_ok step
      · exact Forward.refl _
      · exact Forward.refl _
  | saved command _ workflow completedAt answered answering intent =>
      obtain ⟨now, revisionId, eventId, recorded⟩ := answering.answered
      obtain ⟨_, _, _, _, _, _, _, _, _, result⟩ := answerActivity_ok recorded
      rw [result]
      exact Forward.refl _
  | submitted command _ workflow completedAt answered responseId eventId next _ answering intent
      step =>
      obtain ⟨now, revisionId, eventId, recorded⟩ := answering.answered
      obtain ⟨_, _, _, _, _, _, _, _, _, result⟩ := answerActivity_ok recorded
      obtain ⟨_, _, _, _, _, rfl⟩ := submitResponse_ok step
      rw [result]
      exact Forward.refl _
  | completed command _ workflow completedAt answered responseId eventId submitted evidence
      manifestId _ answering intent step sealed =>
      obtain ⟨now, available⟩ := answering.available
      obtain ⟨row, _, rfl⟩ := sealCase_ok sealed
      exact forward_ended (available_active agree available answering.notCompleted) rfl
  | completedTerms command _ now completedAt eventId responded manifestId _ available notCompleted
      terms step sealed =>
      obtain ⟨row, _, rfl⟩ := sealCase_ok sealed
      exact forward_ended (available_active agree available notCompleted) rfl
  | revoked _ actor eventType payload now eventId _ _ active step =>
      obtain ⟨chain, event, _, rfl⟩ := revokeCase_ok step
      exact forward_ended active rfl
  | advanced databaseClock now eventId _ _ due decided step =>
      obtain ⟨input, store, rfl, inTime⟩ := decided
      obtain ⟨chain, event, _, rfl⟩ := advanceCase_ok step
      have active := isDue_active due
      by_cases expired : record.request.expiresAt ≤ input.clock
      · rw [if_pos expired]
        exact forward_ended active rfl
      · rw [if_neg expired]
        have notStarted : record.request.status ≠ .inProgress := by
          simpa [decidesInTime, expired] using inTime
        show Forward record.request.status .issued
        cases status : record.request.status <;> simp_all [Forward, rank, Status.active]

/-! ## Runs -/

/-- An issued case starts with statuses that agree. -/
theorem CaseMove.agree {known : List (Sigma Row)}
    (move : CaseMove platform guard name known none (some record)) : Agree record := by
  cases move with
  | issued command now requestId assignmentId eventId eventType _ row _ _ _ step =>
      obtain ⟨_, _, _, rfl⟩ := appendCase_ok step
      rfl
  | issuedTerms command now requestId assignmentId eventId _ row _ _ _ step =>
      obtain ⟨_, _, _, rfl⟩ := appendCase_ok step
      rfl

/-- The statuses of every case agree in every reachable state. -/
theorem statuses_agree {state : EngineState} (reachable : Reachable platform guard state)
    {requestId : Uuid} (found : caseAt state.store requestId = some record) : Agree record :=
  case_reachable Agree (fun _ _ _ move => CaseMove.agree move)
    (fun _ _ _ agree step => CaseStep.agree step agree) reachable found

/-- Under a guard, a request has ended exactly when its assignment has, neither
changes once it has ended and neither goes back. -/
def StatusesMoveForward (platform : Platform) (guard : EngineGuard) : Prop :=
  ∀ before after, Reachable platform guard before → Runs (start platform) guard before after →
    ∀ requestId record, caseAt before.store requestId = some record →
      (∀ status, status.active = false →
        (record.request.status = status ↔ record.assignment.status = status)) ∧
      ∃ last, caseAt after.store requestId = some last ∧ Advances record last

/-- Where the worker decides in time, the statuses agree and move forward. -/
theorem statuses_move_forward (platform : Platform) : StatusesMoveForward platform decidesInTime := by
  intro before after reachable run requestId record found
  have agree := statuses_agree reachable found
  refine ⟨fun status _ => by rw [agree], ?_⟩
  obtain ⟨last, there, related⟩ := case_runs
    (fun record last => Agree record → Agree last ∧ Advances record last)
    (fun record agree => ⟨agree, Advances.refl record⟩)
    (fun first second third left right agree =>
      ⟨(right (left agree).1).1, (left agree).2.request.trans (right (left agree).1).2.request,
        (left agree).2.assignment.trans (right (left agree).1).2.assignment⟩)
    (fun name record after step agree => ⟨CaseStep.agree step agree, CaseStep.advances step agree⟩)
    reachable run found
  exact ⟨last, there, (related agree).2⟩

/-- The worker's selection of a request by a clock of the database that is ahead. -/
def earlySelection : List EngineLabel :=
  Sample.session 3 .advanceOneLifecycle
    [Sample.reading 999 1000 0 Sample.requestId, Sample.reading 999 1000 0 0,
      Sample.reading 999 1000 6 0]

/-- A request in progress is issued again when the clock of the database has
reached its expiry and the worker's has not. -/
theorem statuses_move_back :
    ¬ StatusesMoveForward Sample.platform (Guard.none Row Outside Point) := by
  intro forward
  have run : ((execute (start Sample.platform) (Guard.none Row Outside Point) Sample.idle
      (Sample.issuing ++ Sample.openingSession)).bind fun before =>
        (execute (start Sample.platform) (Guard.none Row Outside Point) before earlySelection).map
          fun after => ((caseAt before.store Sample.requestId).map fun record =>
              record.request.status,
            (caseAt after.store Sample.requestId).map fun record => record.request.status)) =
      some (some .inProgress, some .issued) := by
    decide +kernel
  obtain ⟨before, reached, run⟩ := Option.bind_eq_some_iff.mp run
  obtain ⟨after, continued, statuses⟩ := Option.map_eq_some_iff.mp run
  obtain ⟨inProgress, issued⟩ := Prod.mk.inj statuses
  obtain ⟨record, found, started⟩ := Option.map_eq_some_iff.mp inProgress
  obtain ⟨_, last, there, advances⟩ := forward before after (Sample.execute_reachable reached)
    (execute_runs (start Sample.platform) earlySelection before after continued)
    Sample.requestId record found
  rw [there] at issued
  have result : last.request.status = .issued := Option.some.inj issued
  have backward := advances.request.1
  rw [started, result] at backward
  exact absurd backward (by decide)

end Vasi.Lifecycle
