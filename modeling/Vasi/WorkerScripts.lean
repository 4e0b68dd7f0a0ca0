import Vasi.ProductScripts

/-!
# The worker's and the gateway's programs keep the contract

A claim and the delivery after it are two transactions of one program: what the
claim has stored is what the delivery starts from, and the jobs and the
gateway's attempts only move on from there.
-/
namespace Vasi.EngineEffects

open JsValue IsoTime ReadCommitted EngineRows EvidenceEvents EngineCases Notifications Outbox
  Worker IntegrationGateway

variable {platform : Platform} {guard : EngineGuard} {name : TransactionName}
  {changes : EngineChanges} {knowledge : Knowledge Row}

/-! ## The lifecycle -/

theorem advanceOneLifecycle_follows :
    Follows platform guard (advanceOneLifecycle platform.env) := by
  intro start
  simp only [Transaction.script, advanceOneLifecycle, Transaction.bind_apply]
  refine meets_plainQuery plain_statement ?_
  intro input store locks record allowed _ answered
  obtain ⟨found, there, result⟩ := Option.bind_eq_some_iff.mp answered
  obtain ⟨due, result⟩ := Option.ite_none_right_eq_some.mp result
  obtain ⟨rfl, rfl⟩ := Prod.mk.inj (Option.some.inj result)
  rw [applyChanges_empty] at there
  have named := (caseAt_eq_some.mp there).2
  have locked : HasLocked (Knowledge.after (.start start) store (caseLocks found)) found.requestId
      found :=
    hasLocked_after (List.mem_singleton.mpr rfl) (named ▸ there)
  refine meets_fromOutside (fun _ _ _ _ => trivial) ?_
  intro reading earlier timed toTimed guarded
  have locked := locked.later toTimed
  refine meets_randomUUID ?_
  intro eventId ready toReady
  have locked := locked.later toReady
  refine meets_orRefuse ?_
  intro advanced step
  have stepped : CaseStep platform guard (.advanceOneLifecycle found.requestId) found advanced :=
    .advanced input.databaseClock reading.clock eventId found advanced due
      ⟨reading, earlier, rfl, guarded⟩ step
  split
  · refine meets_suppressPending (Plan.empty (.advanceOneLifecycle found.requestId)) ?_
    intro later suppressed toLater planned same _
    have untouched : suppressed.lookup (Key.request found.requestId) = none :=
      same (.request found.requestId) (by simp)
    exact meets_commitDone (planned.stageCase untouched (locked.later toLater) stepped)
      (Quiet.empty.elsewhere same).stageCase rfl
  · exact meets_stageCase locked stepped rfl

/-! ## Single jobs -/

/-- A job that is locked moves once. -/
theorem Plan.updateJob {id : Uuid} {row after : JobRow}
    (plan : Plan platform guard name knowledge changes)
    (untouched : changes.lookup (Key.job id) = none)
    (known : (⟨.job id, row⟩ : Sigma Row) ∈ knowledge.known)
    (move : ∀ store, knowledge.Allows (engineContract platform guard) store →
      JobMove name id (some row) (some after)) :
    Plan platform guard name knowledge (changes.updateRow (.job id) after) := by
  have same : SameElsewhere changes (changes.updateRow (.job id) after) :=
    fun key notJob => Changes.lookup_updateRow_other changes (.job id) key after (notJob id)
  constructor
  · exact Changes.updateRow_undeleted plan.undeleted
  · intro requestId
    rw [same (.request requestId) (by simp)]
    exact plan.cases requestId
  · intro store allowed admissible
    have earlier := plan.jobs store allowed (admissible.of_updateRow (plan.undeleted _))
    refine (earlier.allow fun requestId queueable => queueable.elsewhere same).step ?_
    intro found
    by_cases own : found = id
    · subst own
      refine .inr ⟨row, after, ?_, ?_, move store allowed⟩
      · exact (lookup_untouched untouched).trans (allowed.current _ known)
      · exact lookup_applyChanges_updateRow store changes (.job found) after
    · left
      have apart : Key.job found ≠ Key.job id := by simpa
      have other := Changes.lookup_updateRow_other changes (.job id) (.job found) after apart
      rw [jobAt, lookup_applyChanges, other, jobAt, lookup_applyChanges]

/-- Updating a job leaves the rest quiet. -/
theorem Quiet.updateJob {id : Uuid} {row : JobRow} (quiet : Quiet changes) :
    Quiet (changes.updateRow (.job id) row) :=
  quiet.elsewhere fun key notJob =>
    Changes.lookup_updateRow_other changes (.job id) key row (notJob id)

theorem recoverStaleJobs_follows : Follows platform guard recoverStaleJobs := by
  intro start
  simp only [Transaction.script, recoverStaleJobs, Transaction.bind_apply]
  refine meets_updateJobs (Plan.empty .recoverStaleJobs) ?_ ?_
  · intro input view id row after updated
    obtain ⟨⟨running, _⟩, result⟩ := Option.ite_none_right_eq_some.mp updated
    obtain rfl := Option.some.inj result
    exact .released row input.databaseClock rfl running
  · intro later released toLater planned same _
    exact meets_commitDone planned (Quiet.empty.elsewhere same) rfl

theorem suppressObsoleteJobs_follows : Follows platform guard suppressObsoleteJobs := by
  intro start
  simp only [Transaction.script, suppressObsoleteJobs, Transaction.bind_apply]
  refine meets_updateJobs (Plan.empty .suppressObsoleteJobs) ?_ ?_
  · intro input view id row after updated
    obtain ⟨requestId, _, updated⟩ := Option.bind_eq_some_iff.mp updated
    obtain ⟨record, _, updated⟩ := Option.bind_eq_some_iff.mp updated
    obtain ⟨reason, _, updated⟩ := Option.bind_eq_some_iff.mp updated
    obtain ⟨pending, result⟩ := Option.ite_none_right_eq_some.mp updated
    obtain rfl := Option.some.inj result
    exact .suppressed row reason input.databaseClock (isPendingRequestNotification_waiting pending)
  · intro later suppressed toLater planned same _
    exact meets_commitDone planned (Quiet.empty.elsewhere same) rfl

theorem isObsolete_waiting {input : Outside} {row : JobRow} (obsolete : isObsolete input row = true) :
    row.status.waiting = true := by
  simp only [isObsolete, Bool.and_eq_true, decide_eq_true_eq] at obsolete
  rw [obsolete.1.1]
  rfl

theorem suppressOneObsoleteParticipantDataJob_follows :
    Follows platform guard suppressOneObsoleteParticipantDataJob := by
  intro start
  simp only [Transaction.script, suppressOneObsoleteParticipantDataJob, Transaction.bind_apply]
  refine meets_plainQuery plain_statement ?_
  rintro input store locks ⟨jobId, row⟩ allowed _ answered
  obtain ⟨found, there, result⟩ := Option.bind_eq_some_iff.mp answered
  obtain ⟨obsolete, result⟩ := Option.ite_none_right_eq_some.mp result
  obtain ⟨rfl, same⟩ := Prod.mk.inj (Option.some.inj result)
  obtain ⟨rfl, rfl⟩ := Prod.mk.inj same
  have known : (⟨.job input.first, found⟩ : Sigma Row) ∈
      (Knowledge.after (.start start) store [(.job input.first, .update)]).known :=
    Knowledge.mem_after (List.mem_singleton.mpr rfl) there
  refine meets_clock ?_
  intro now timed toTimed
  refine meets_commitDone ((Plan.empty _).updateJob rfl (toTimed.known known) ?_)
    Quiet.empty.updateJob rfl
  intro later _
  exact .suppressed found _ now (isObsolete_waiting obsolete)

theorem queueOneParticipantDataNotification_follows (notification : DataNotification) :
    Follows platform guard (queueOneParticipantDataNotification platform.env notification) := by
  intro start
  simp only [Transaction.script, queueOneParticipantDataNotification, Transaction.bind_apply]
  refine meets_clock ?_
  intro now timed toTimed
  refine meets_orRefuse ?_
  intro payloadHash _
  refine meets_insertJob (Plan.empty .queueOneParticipantDataNotification) ?_ ?_ ?_ ?_
  · intro createdAt
    exact ⟨rfl, rfl, rfl, rfl, by rintro ⟨⟩⟩
  · rintro createdAt requestId ⟨⟩
  · rintro createdAt requestId ⟨⟩
  · intro later inserted toLater planned same
    exact meets_commitDone planned (Quiet.empty.elsewhere same) rfl

/-! ## Claiming and delivering -/

/-- What a dispatch has found stays found. -/
theorem Dispatched.moved {held : Key → Prop} {first second : EngineStore} {jobId : Uuid}
    {job : JobRow} {delivery : Delivery} (dispatched : Dispatched first jobId job delivery)
    (moves : Moves held first second) : Dispatched second jobId job delivery := by
  cases dispatched with
  | ineligible participantData => exact .ineligible participantData
  | thrown code => exact .thrown code
  | answered row found => exact .answered row (moves.gatewayAttempts _ _ _ found)

theorem meets_dispatchJob {jobId : Uuid} {job : JobRow}
    {continuation : Delivery → EngineChanges → EngineScript}
    (rest : ∀ delivery later, knowledge.Later later (engineContract platform guard) →
      Dispatched later.past jobId job delivery →
      (continuation delivery ∅).Meets (engineContract platform guard) later) :
    (dispatchJob jobId job continuation ∅).Meets (engineContract platform guard) knowledge := by
  simp only [dispatchJob, Transaction.bind_apply]
  refine meets_fromOutside plain_statement ?_
  intro input store checked toChecked _
  split
  · refine meets_plainQuery plain_statement ?_
    intro input store locks delivery allowed _ answered
    have moreKnown := toChecked.trans (allowed.later locks)
    split at answered
    · rename_i code _
      obtain ⟨_, rfl⟩ := Prod.mk.inj (Option.some.inj answered)
      exact rest _ _ moreKnown (.thrown code)
    · obtain ⟨row, found, result⟩ := Option.map_eq_some_iff.mp answered
      obtain ⟨_, rfl⟩ := Prod.mk.inj result
      exact rest _ _ moreKnown (.answered row found)
  · rename_i ineligible
    refine rest _ checked toChecked (.ineligible ?_)
    cases participantData : job.participantDataRequestId with
    | some id => rfl
    | none => simp [participantData] at ineligible

/-- A claimed job is the same job later, with as many attempts or more. -/
theorem claimed_later {jobId : Uuid} {job row : JobRow} {store : EngineStore}
    (claimed : jobAt knowledge.past jobId = some job)
    (allowed : knowledge.Allows (engineContract platform guard) store)
    (found : jobAt store jobId = some row) : SameJob job row ∧ job.attempts ≤ row.attempts := by
  have moves : Moves (· ∈ knowledge.mine) knowledge.past store := allowed.moved
  obtain ⟨after, there, same, attempts⟩ := moves.jobs jobId job claimed
  obtain rfl : after = row := Option.some.inj (there.symm.trans found)
  exact ⟨same, attempts⟩

/-- The changes at the end of a delivery: the attempt and the new row of the job. -/
def deliveryChanges (jobId : Uuid) (row job : JobRow) (attempt : AttemptRow) : EngineChanges :=
  Changes.updateRow (Changes.insertRow ∅ (.attempt jobId job.attempts) attempt) (.job jobId)
    (JobRow.deliver row job attempt.delivery attempt.completedAt)

theorem lookup_deliveryChanges_other {jobId : Uuid} {row job : JobRow} {attempt : AttemptRow}
    (key : Key) (notJob : key ≠ .job jobId) (notAttempt : key ≠ .attempt jobId job.attempts) :
    (deliveryChanges jobId row job attempt).lookup key = none :=
  (Changes.lookup_updateRow_other _ _ key _ notJob).trans (AList.lookup_insert_ne notAttempt)

theorem lookup_deliveryChanges_attempt {jobId : Uuid} {row job : JobRow} {attempt : AttemptRow} :
    (deliveryChanges jobId row job attempt).lookup (Key.attempt jobId job.attempts) =
      some (.insert attempt) :=
  (Changes.lookup_updateRow_other _ _ _ _ (by simp)).trans (AList.lookup_insert _)

/-- The commit at the end of a delivery records the attempt with what the
dispatch gave and delivers the job from the row that the commit finds. -/
theorem deliverJob_delivers {jobId : Uuid} {row job : JobRow} {attempt : AttemptRow}
    {store : EngineStore} (admissible : Admissible store (deliveryChanges jobId row job attempt))
    (found : jobAt store jobId = some row) (positive : 0 < job.attempts)
    (later : SameJob job row ∧ job.attempts ≤ row.attempts)
    (dispatched : Dispatched store jobId job attempt.delivery)
    (timed : ∃ input earlier, input.clock = attempt.completedAt ∧
      guard.statement (.deliveryCompleted attempt.startedAt) input earlier) :
    Delivers guard jobId job.attempts store
      (applyChanges store (deliveryChanges jobId row job attempt)) row job attempt where
  found := found
  attempts := rfl
  positive := positive
  same := later.1
  claimed := later.2
  fresh := admissible.inserted _ attempt lookup_deliveryChanges_attempt
  recorded := by
    rw [attemptAt, lookup_applyChanges, lookup_deliveryChanges_attempt]
    rfl
  settled := lookup_applyChanges_updateRow store _ (.job jobId) _
  dispatched := dispatched
  timed := timed

theorem deliverJob_meets {jobId : Uuid} {job : JobRow}
    (claimed : jobAt knowledge.past jobId = some job) (positive : 0 < job.attempts) :
    (deliverJob jobId job (fun result _ => .stop result) ∅).Meets (engineContract platform guard)
      knowledge := by
  simp only [deliverJob, Transaction.bind_apply]
  refine meets_clock ?_
  intro startedAt starting toStarting
  refine meets_dispatchJob ?_
  intro delivery dispatching toDispatching dispatched
  refine meets_fromOutside (fun _ _ _ _ => trivial) ?_
  intro reading earlier completing toCompleting guarded
  refine meets_insertNew (by simp) ?_
  intro inserting toInserting _
  refine meets_lockRow rfl ?_
  intro row locking toLocking known _
  simp only [commitDone, Transaction.bind_apply, stageChanges]
  refine meets_commitChanges ?_ fun _ _ _ _ => trivial
  intro store allowed admissible
  have fromDispatch := (toCompleting.trans toInserting).trans toLocking
  have allowedDispatch := fromDispatch.allows allowed
  have allowedStart := ((toStarting.trans toDispatching).trans fromDispatch).allows allowed
  have found : jobAt store jobId = some row := allowed.current _ known
  have delivers := deliverJob_delivers admissible found positive
    (claimed_later claimed allowedStart found) (dispatched.moved allowedDispatch.moved)
    ⟨reading, earlier, rfl, guarded⟩
  have planned : Plan platform guard (.deliverJob jobId job.attempts) locking
      (deliveryChanges jobId row job ⟨delivery, startedAt, reading.clock⟩) := by
    have inserted : Plan platform guard (.deliverJob jobId job.attempts) locking
        (Changes.insertRow ∅ (.attempt jobId job.attempts)
          ⟨delivery, startedAt, reading.clock⟩) := 
          (Plan.empty _).insertOther rfl (by simp) (by simp)
    refine inserted.updateJob rfl known ?_
    intro later allowedLater
    have claimedLater := claimed_later claimed
      (((toStarting.trans toDispatching).trans fromDispatch).allows allowedLater)
      (allowedLater.current _ known)
    exact .delivered row job delivery reading.clock rfl claimedLater.1 claimedLater.2
  refine planned.effect allowed admissible ?_ ?_ ?_ ?_ ?_
  · intro id attempt
    by_cases own : id = jobId ∧ attempt = job.attempts
    · obtain ⟨rfl, rfl⟩ := own
      exact .inr ⟨rfl, delivers.fresh⟩
    · left
      exact lookup_untouched (lookup_deliveryChanges_other _ (by simp) (by simpa using own))
  · rintro id attempt ⟨⟩
    exact ⟨row, job, _, delivers⟩
  · intro id attempt
    exact .inl (lookup_untouched (lookup_deliveryChanges_other _ (by simp) (by simp)))
  · intro tenantId
    exact .inl (lookup_untouched (lookup_deliveryChanges_other _ (by simp) (by simp)))
  · intro tenantId gateId different
    cases different

theorem claimAndDeliver_follows : Follows platform guard claimAndDeliver := by
  intro start
  simp only [Transaction.script, claimAndDeliver, claimJob, Transaction.bind_apply]
  apply meets_query
  rintro input store locks ⟨jobId, job⟩ allowed _ answered
  obtain ⟨row, there, result⟩ := Option.bind_eq_some_iff.mp answered
  obtain ⟨claimable, result⟩ := Option.ite_none_right_eq_some.mp result
  obtain ⟨rfl, same⟩ := Prod.mk.inj (Option.some.inj result)
  obtain ⟨rfl, rfl⟩ := Prod.mk.inj same
  rw [applyChanges_empty] at there claimable
  refine ⟨⟨row, there, claimable, rfl⟩, ?_⟩
  have known : (⟨.job input.first, row⟩ : Sigma Row) ∈
      (Knowledge.after (.start start) store [(.job input.first, .update)]).known :=
    Knowledge.mem_after (List.mem_singleton.mpr rfl) there
  have waiting : row.status.waiting = true := by
    simp only [isClaimable, Bool.and_eq_true] at claimable
    exact claimable.1.1
  have planned : Plan platform guard (.claimJob input.first)
      (Knowledge.after (.start start) store [(.job input.first, .update)])
      (Changes.updateRow ∅ (.job input.first) (JobRow.claim row input.databaseClock)) := by
    refine (Plan.empty _).updateJob rfl known ?_
    intro later _
    exact .claimed row input.databaseClock rfl waiting
  simp only [Transaction.bind_apply, stageChanges]
  refine meets_commitChanges (planned.commits Quiet.empty.updateJob rfl) ?_
  intro later _ _ _
  exact deliverJob_meets (lookup_applyChanges_updateRow later ∅ (.job input.first) _)
    (Nat.succ_pos _)

/-! ## The gateway -/

theorem meets_attemptDelivery {command : DeliverCommand} {payloadHash : JsString}
    {continuation : Delivery → EngineChanges → EngineScript}
    (rest : ∀ delivery later, knowledge.Later later (engineContract platform guard) →
      GatewayDelivery delivery →
      (continuation delivery changes).Meets (engineContract platform guard) later) :
    (attemptDelivery command payloadHash continuation changes).Meets
      (engineContract platform guard) knowledge := by
  simp only [attemptDelivery, assertNotificationJobCurrent, assertSourceCurrent, loadBinding,
    Transaction.bind_apply]
  refine meets_plainQuery plain_statement ?_
  intro input store locks row allowed _ _
  have checked := allowed.later locks
  cases row with
  | none => exact rest _ _ checked (.unavailable _)
  | some row =>
      refine meets_plainQuery plain_statement ?_
      intro input store locks current allowed _ _
      have sourced := checked.trans (allowed.later locks)
      cases current with
      | error code => exact rest _ _ sourced (.unavailable code)
      | ok _ =>
          refine meets_plainQuery plain_statement ?_
          intro input store locks loaded allowed _ _
          have bound := sourced.trans (allowed.later locks)
          cases loaded with
          | error code => exact rest _ _ bound (.unavailable code)
          | ok binding =>
              refine meets_fromOutside plain_statement ?_
              intro input store sent toSent _
              exact rest _ sent (bound.trans toSent) (.binding binding input.thrown)

/-- Recording what a delivery came to. -/
theorem meets_recordGatewayAttempt {jobId : Uuid} {attempt : ℕ} {row : GatewayAttemptRow}
    (delivery : GatewayDelivery row.delivery)
    (completed : ∃ input earlier, guard.statement (.gatewayCompleted row.delivery) input earlier) :
    (commitDone (.deliver jobId attempt) (fun result _ => .stop result)
      (Changes.insertRow ∅ (.gatewayAttempt jobId attempt) row)).Meets
        (engineContract platform guard) knowledge := by
  simp only [commitDone, Transaction.bind_apply]
  refine meets_commitChanges ?_ fun _ _ _ _ => trivial
  intro store allowed admissible
  have own : (Changes.insertRow (∅ : EngineChanges) (.gatewayAttempt jobId attempt) row).lookup
      (Key.gatewayAttempt jobId attempt) = some (.insert row) := AList.lookup_insert ∅
  have other : ∀ key, key ≠ .gatewayAttempt jobId attempt →
      (Changes.insertRow (∅ : EngineChanges) (.gatewayAttempt jobId attempt) row).lookup key =
        none := fun key apart => AList.lookup_insert_ne apart
  have planned : Plan platform guard (.deliver jobId attempt) knowledge
      (Changes.insertRow ∅ (.gatewayAttempt jobId attempt) row) :=
    (Plan.empty _).insertOther rfl (by simp) (by simp)
  refine planned.effect allowed admissible ?_ ?_ ?_ ?_ ?_
  · intro id number
    exact .inl (lookup_untouched (other _ (by simp)))
  · intro id number different
    cases different
  · intro id number
    by_cases same : id = jobId ∧ number = attempt
    · obtain ⟨rfl, rfl⟩ := same
      obtain ⟨input, earlier, guarded⟩ := completed
      refine .inr ⟨admissible.inserted _ row own, row, input, earlier, ?_, delivery, guarded⟩
      rw [gatewayAttemptAt, lookup_applyChanges, own]
      rfl
    · exact .inl (lookup_untouched (other _ (by simpa using same)))
  · intro tenantId
    exact .inl (lookup_untouched (other _ (by simp)))
  · intro tenantId gateId different
    cases different

theorem deliver_follows (command : DeliverCommand) :
    Follows platform guard (deliver platform.env command) := by
  intro start
  simp only [Transaction.script, deliver, Transaction.bind_apply]
  refine meets_orRefuse ?_
  intro requestHash _
  refine meets_orRefuse ?_
  intro payloadHash _
  refine meets_readRows plain_statement ?_
  intro input store allowed _
  generalize gatewayAttemptAt (applyChanges store ∅) command.jobId command.attempt = previous
  cases previous with
  | some row =>
      refine meets_require ?_
      intro _
      exact trivial
  | none =>
      simp only [Transaction.bind_apply]
      refine meets_clock ?_
      intro startedAt starting _
      refine meets_attemptDelivery ?_
      intro delivery attempted _ recorded
      refine meets_fromOutside (fun _ _ _ _ => trivial) ?_
      intro reading earlier completing _ guarded
      refine meets_insertNew (by simp) ?_
      intro inserting _ _
      exact meets_recordGatewayAttempt recorded ⟨reading, earlier, guarded⟩

end Vasi.EngineEffects
