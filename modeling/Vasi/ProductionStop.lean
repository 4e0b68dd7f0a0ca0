import Vasi.Lifecycle

/-!
# The production stop

A stop holds the admission of its tenant for update, so no issue of the tenant
is under way when it reads the requests: every request that could still be
answered is revoked by its commit, and the next one is issued only after the
tenant has been admitted again, which needs a decision on the stopped gate. What
has ended stays as it ended, and the claim of a job looks at the status of the
request that the job is for.
-/
namespace Vasi.ProductionStop

open JsValue IsoTime ReadCommitted EngineRows EvidenceEvents EngineCases Notifications Outbox
  EvidenceStore RequestActions ProductStore Worker EngineEffects Engine Admission

variable {platform : Platform} {guard : EngineGuard} {name : TransactionName} {record after : Case}

/-! ## What has ended stays as it ended -/

/-- Binding the participant of an ended request keeps its status. -/
theorem bindParticipant_status (record : Case) (actor : Actor)
    (ended : record.request.status.active = false) :
    (bindParticipant (issueScheduled record) actor).request.status = record.request.status := by
  obtain ⟨_, ⟨_, status, _, _, _, _, _⟩, ⟨_, _, _, principalId, _⟩, _, _, _⟩ := record
  cases status with
  | scheduled | issued | inProgress => cases ended
  | completed | revoked | expired =>
      cases principalId <;> simp [bindParticipant, issueScheduled]

/-- A step keeps the status of an ended request. -/
theorem CaseStep.ended_status (step : CaseStep platform guard name record after)
    (agree : Lifecycle.Agree record) (ended : record.request.status.active = false) :
    after.request.status = record.request.status := by
  cases step with
  | opened command now interactionId eventId _ _ notCompleted step =>
      obtain ⟨_, interaction, chain, activities, _, _, rfl⟩ := openCase_ok step
      exact bindParticipant_status record command.actor ended
  | recorded recording command now eventId _ _ step =>
      obtain ⟨_, chain, event, _, rfl⟩ := recordCase_ok step
      rfl
  | presented command now eventId _ _ step =>
      obtain ⟨_, rfl | ⟨_, chain, event, _, rfl⟩⟩ := openArtifactCase_ok step
      · rfl
      · rfl
  | saved command _ workflow completedAt answered answering intent =>
      obtain ⟨now, revisionId, eventId, recorded⟩ := answering.answered
      obtain ⟨_, _, _, _, _, _, _, _, _, result⟩ := answerActivity_ok recorded
      rw [result]
  | submitted command _ workflow completedAt answered responseId eventId next _ answering intent
      step =>
      obtain ⟨now, revisionId, eventId, recorded⟩ := answering.answered
      obtain ⟨_, _, _, _, _, _, _, _, _, result⟩ := answerActivity_ok recorded
      obtain ⟨_, _, _, _, _, rfl⟩ := submitResponse_ok step
      rw [result]
  | completed command _ workflow completedAt answered responseId eventId submitted evidence
      manifestId _ answering intent step sealed =>
      obtain ⟨now, available⟩ := answering.available
      rw [Lifecycle.available_active agree available answering.notCompleted] at ended
      cases ended
  | completedTerms command _ now completedAt eventId responded manifestId _ available notCompleted
      terms step sealed =>
      rw [Lifecycle.available_active agree available notCompleted] at ended
      cases ended
  | revoked _ actor eventType payload now eventId _ _ active step =>
      rw [ended] at active
      cases active
  | advanced databaseClock now eventId _ _ due decided step =>
      rw [isDue_active due] at ended
      cases ended

/-- An ended request stays as it ended, throughout a run. -/
theorem ended_stays {before last : EngineState} (reachable : Reachable platform guard before)
    (run : Runs (start platform) guard before last) {requestId : Uuid}
    (found : caseAt before.store requestId = some record)
    (ended : record.request.status.active = false) :
    ∃ final, caseAt last.store requestId = some final ∧
      final.request.status = record.request.status ∧
      final.assignment.status = record.request.status := by
  obtain ⟨final, there, related⟩ := case_runs
    (fun first second => Lifecycle.Agree first → Lifecycle.Agree second ∧
      (first.request.status.active = false → second.request.status = first.request.status))
    (fun first agree => ⟨agree, fun _ => rfl⟩)
    (fun first second third left right agree => by
      obtain ⟨middle, same⟩ := left agree
      obtain ⟨last_, further⟩ := right middle
      refine ⟨last_, fun ended => ?_⟩
      have kept := same ended
      rw [further (kept ▸ ended), kept])
    (fun name first second step agree => ⟨Lifecycle.CaseStep.agree step agree,
      CaseStep.ended_status step agree⟩)
    reachable run found
  obtain ⟨agree, same⟩ := related (Lifecycle.statuses_agree reachable found)
  have kept := same ended
  exact ⟨final, there, kept, agree.symm.trans kept⟩

/-! ## The admission after a stop -/

/-- The gate of a tenant is approved. -/
def GateApproved (tenantId : Uuid) (gateId : Gate) (store : EngineStore) : Prop :=
  ∃ row, admissionAt store tenantId = some row ∧ (row.admission.state gateId).isApproved = true

/-- Every gate of a tenant is approved. -/
def Admitted (tenantId : Uuid) (store : EngineStore) : Prop :=
  ∃ row, admissionAt store tenantId = some row ∧ row.admission.admitted = true

theorem Admitted.gate {tenantId : Uuid} {store : EngineStore} (admitted : Admitted tenantId store)
    (gateId : Gate) : GateApproved tenantId gateId store := by
  obtain ⟨row, found, approved⟩ := admitted
  exact ⟨row, found, (row.admission.admitted_iff.mp approved) gateId⟩

/-- Only a decision on a gate approves it. -/
theorem gate_decided {known : List (Sigma Row)} {store next : EngineStore}
    (effect : Effect platform guard name known store next) {tenantId : Uuid} {gateId : Gate}
    (before : ¬ GateApproved tenantId gateId store) (approved : GateApproved tenantId gateId next) :
    name = .updateTenantAdmission tenantId gateId := by
  obtain ⟨row, found, isApproved⟩ := approved
  rcases effect.admissions tenantId with same | ⟨earlier, last, there, lastThere, move⟩
  · exact absurd ⟨row, same.symm.trans found, isApproved⟩ before
  · obtain rfl : last = row := Option.some.inj (lastThere.symm.trans found)
    cases move with
    | decided _ decidedGate _ decision now =>
        by_cases same : gateId = decidedGate
        · rw [same]
        · refine absurd ⟨earlier, there, ?_⟩ before
          rwa [applyTenantAdmissionDecision_other earlier.admission decision now same]
            at isApproved
    | stopped _ stoppedGate _ now =>
        by_cases same : gateId = stoppedGate
        · subst same
          rw [applyTenantAdmissionDecision_same] at isApproved
          cases isApproved
        · refine absurd ⟨earlier, there, ?_⟩ before
          rwa [applyTenantAdmissionDecision_other earlier.admission .pending now same]
            at isApproved

/-- A request is issued by a tenant that is admitted. -/
theorem issued_admitted {known : List (Sigma Row)} {store next : EngineStore}
    (transacts : Transacts platform guard name known store next) {requestId : Uuid}
    (absent : caseAt store requestId = none) (found : caseAt next requestId = some record) :
    Admitted record.request.tenantId store := by
  obtain ⟨issued, row, same, locked, admitted⟩ :=
    (transacts.effect.case_new absent found).issued_tenant
  obtain rfl := Option.some.inj same
  exact ⟨row, transacts.current _ locked, admitted⟩

/-- A request keeps its tenant. -/
theorem tenant_stays {before last : EngineState} (reachable : Reachable platform guard before)
    (run : Runs (start platform) guard before last) {requestId : Uuid}
    (found : caseAt before.store requestId = some record)
    (there : caseAt last.store requestId = some after) :
    after.request.tenantId = record.request.tenantId := by
  obtain ⟨final, finalThere, same⟩ := case_runs
    (fun first second => second.request.tenantId = first.request.tenantId) (fun _ => rfl)
    (fun first second third left right => right.trans left)
    (fun name first second step => by rw [step.same.request]) reachable run found
  obtain rfl : final = after := Option.some.inj (finalThere.symm.trans there)
  exact same

/-! ## Claims -/

/-- The notification of a job calls for an answer to its request. -/
def callsForAnswer (row : JobRow) : Prop :=
  row.notificationType = some REQUEST_ISSUED ∨ row.notificationType = some REQUEST_REMINDER

/-- A job that calls for an answer to an ended request cannot be claimed. -/
theorem ended_not_claimable {input : Outside} {store : EngineStore} {row : JobRow}
    {requestId : Uuid} (calls : callsForAnswer row) (request : row.requestId = some requestId)
    (found : caseAt store requestId = some record)
    (ended : record.request.status.active = false) : isClaimable input store row = false := by
  have dataStatus : ∀ status, participantDataStatusAllows row.notificationType status = false := by
    intro status
    rcases calls with issued | reminder
    · rw [issued]
      rfl
    · rw [reminder]
      rfl
  have requestStatus : requestStatusAllows row.notificationType record.request.status = false := by
    exact (if_pos calls).trans ended
  unfold isClaimable
  cases row.participantDataRequestId with
  | some id =>
      have refused : input.dataRequest.any (participantDataStatusAllows row.notificationType) =
          false := by
        cases input.dataRequest with
        | none => rfl
        | some status => exact dataStatus status
      simp [refused]
  | none => simp [request, found, requestStatus]

/-- A session claims a job with its next statement, the only one of its transaction. -/
def Claims (state : EngineState) (input : Outside) : Prop :=
  ∃ id locks next held wanted,
    state.sessions.lookup id = some ⟨.statement .claimJob locks next, held⟩ ∧
      locks input state.store = some wanted

/-- A claim takes a job that can be claimed then. -/
theorem Claims.claimable {state : EngineState} {input : Outside} (claims : Claims state input)
    (reachable : Reachable platform guard state)
    (guarded : guard.statement .claimJob input state.store = true) :
    ∃ row, jobAt state.store input.first = some row ∧
      isClaimable input state.store row = true := by
  obtain ⟨id, locks, next, held, wanted, found, asked⟩ := claims
  obtain ⟨promised, _⟩ := reachable.holds.ran found asked guarded
  obtain ⟨row, there, claimable, _⟩ := promised
  exact ⟨row, there, claimable⟩

/-! ## Stops -/

/-- What a committed stop does to the requests of its tenant, and what stays so. -/
structure Stopped (platform : Platform) (guard : EngineGuard) (tenantId : Uuid) (gateId : Gate)
    (before after : EngineState) : Prop where
  revoked : ∀ requestId record, caseAt before.store requestId = some record →
    record.request.tenantId = tenantId → record.request.status.active = true →
    ∃ stopped, caseAt after.store requestId = some stopped ∧
      stopped.request.status = .revoked ∧ stopped.assignment.status = .revoked
  unchanged : ∀ requestId record, caseAt before.store requestId = some record →
    record.request.status.active = false → caseAt after.store requestId = some record
  lasting : ∀ last, Runs (start platform) guard after last → ∀ requestId record,
    caseAt after.store requestId = some record → record.request.status = .revoked →
    ∃ final, caseAt last.store requestId = some final ∧
      final.request.status = .revoked ∧ final.assignment.status = .revoked
  closed : ∀ last, Runs (start platform) guard after last → ∀ requestId record,
    caseAt last.store requestId = some record → record.request.tenantId = tenantId →
    caseAt after.store requestId = none →
    ∃ session earlier decided issuing, Runs (start platform) guard after earlier ∧
      CommitStep guard session (.updateTenantAdmission tenantId gateId) earlier decided ∧
      GateApproved tenantId gateId decided.store ∧
      Runs (start platform) guard decided issuing ∧ Admitted tenantId issuing.store ∧
      caseAt issuing.store requestId = none ∧ Runs (start platform) guard issuing last
  unclaimed : ∀ last, Runs (start platform) guard after last → ∀ input row requestId record,
    Claims last input → guard.statement .claimJob input last.store = true →
    jobAt last.store input.first = some row → row.requestId = some requestId →
    caseAt after.store requestId = some record → record.request.status = .revoked →
    ¬ callsForAnswer row

/-- A stop is complete and lasting, whatever runs beside it and after it. -/
def StopLasts (platform : Platform) (guard : EngineGuard) : Prop :=
  ∀ session tenantId gateId before after, Reachable platform guard before →
    CommitStep guard session (.stopTenantProduction tenantId gateId) before after →
      Stopped platform guard tenantId gateId before after

/-- A stop changes no request that has ended. -/
theorem stop_unchanged {known : List (Sigma Row)} {store next : EngineStore} {tenantId : Uuid}
    {gateId : Gate} (effect : Effect platform guard (.stopTenantProduction tenantId gateId) known
      store next) {requestId : Uuid} (found : caseAt store requestId = some record)
    (ended : record.request.status.active = false) : caseAt next requestId = some record := by
  obtain ⟨last, there, same | step⟩ := effect.case_kept found
  · rw [there, same]
  · generalize transaction : TransactionName.stopTenantProduction tenantId gateId = name at step
    cases step with
    | recorded recording command now eventId _ _ step =>
        obtain ⟨⟨_, active⟩, _⟩ := recordCase_ok step
        rw [ended] at active
        cases active
    | revoked _ actor eventType payload now eventId _ _ active step =>
        rw [ended] at active
        cases active
    | _ => cases transaction

/-- Stops are complete and lasting. -/
theorem stop_lasts (platform : Platform) (guard : EngineGuard) : StopLasts platform guard := by
  intro session tenantId gateId before after reachable commits
  obtain ⟨known, transacts⟩ := commits.transacts reachable
  have stops := transacts.effect.stops tenantId gateId rfl
  have stopped : Reachable platform guard after := reachable.runs (.single commits.step)
  refine ⟨?_, ?_, ?_, ?_, ?_⟩
  · intro requestId record found tenant active
    obtain ⟨actor, payload, now, eventId, last, step, there⟩ :=
      stops.revoked requestId record found tenant active
    obtain ⟨chain, event, _, rfl⟩ := revokeCase_ok step
    exact ⟨_, there, rfl, rfl⟩
  · intro requestId record found ended
    exact stop_unchanged transacts.effect found ended
  · intro last run requestId record found revoked
    obtain ⟨final, there, request, assignment⟩ :=
      ended_stays stopped run found (by rw [revoked]; rfl)
    exact ⟨final, there, request.trans revoked, assignment.trans revoked⟩
  · intro last run requestId record found tenant absent
    obtain ⟨_, name, issuing, issued, toIssuing, issue, without, gained, rest⟩ :=
      runs_first (fun store => (caseAt store requestId).isSome) stopped run
        (by simp [absent]) (by simp [found])
    have atIssue := stopped.runs toIssuing
    obtain ⟨_, issues⟩ := issue.transacts atIssue
    obtain ⟨first, firstFound⟩ := Option.isSome_iff_exists.mp gained
    have none : caseAt issuing.store requestId = none := by simpa using without
    have admitted := issued_admitted issues none firstFound
    rw [← tenant_stays (atIssue.runs (.single issue.step)) rest firstFound found, tenant] at admitted
    have pending : ¬ GateApproved tenantId gateId after.store := by
      rintro ⟨row, there, approved⟩
      obtain ⟨other, otherThere, state⟩ := stops.gate
      obtain rfl : other = row := Option.some.inj (otherThere.symm.trans there)
      rw [state] at approved
      cases approved
    obtain ⟨deciding, _, earlier, decided, toEarlier, decision, undecided, approved, onward⟩ :=
      runs_first (GateApproved tenantId gateId) stopped toIssuing pending (admitted.gate gateId)
    obtain ⟨_, decides⟩ := decision.transacts (stopped.runs toEarlier)
    obtain rfl := gate_decided decides.effect undecided approved
    exact ⟨deciding, earlier, decided, issuing, toEarlier, decision, approved, onward, admitted, none,
      rest.head issue.step⟩
  · intro last run input row requestId record claims guarded job request found revoked calls
    obtain ⟨final, there, same, _⟩ := ended_stays stopped run found (by rw [revoked]; rfl)
    obtain ⟨claimed, claimedThere, claimable⟩ :=
      claims.claimable (stopped.runs run) guarded
    obtain rfl : claimed = row := Option.some.inj (claimedThere.symm.trans job)
    rw [ended_not_claimable calls request there (by rw [same, revoked]; rfl)] at claimable
    cases claimable

end Vasi.ProductionStop
