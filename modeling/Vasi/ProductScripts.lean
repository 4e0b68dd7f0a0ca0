import Vasi.CaseScripts

/-!
# The administrator's programs keep the contract

A decision on a gate and the production stop. The stop locks the admission of
the tenant first, so no request of the tenant is issued between its query and
its commit; the requests that the query found are locked, so each of them is
revoked as it was found.
-/
namespace Vasi.EngineEffects

open JsValue IsoTime ReadCommitted EngineRows EvidenceEvents EngineCases Outbox RequestActions
  ProductStore Admission

variable {platform : Platform} {guard : EngineGuard} {name : TransactionName}
  {changes : EngineChanges} {knowledge : Knowledge Row}

theorem meets_lockAdmission {tenantId : Uuid} {expectedRevision : ℕ}
    {continuation : AdmissionRow → EngineChanges → EngineScript}
    (untouched : changes.lookup (Key.admission tenantId) = none)
    (rest : ∀ row later, knowledge.Later later (engineContract platform guard) →
      (⟨.admission tenantId, row⟩ : Sigma Row) ∈ later.known → Key.admission tenantId ∈ later.mine →
      (continuation row changes).Meets (engineContract platform guard) later) :
    (lockAdmission tenantId expectedRevision continuation changes).Meets
      (engineContract platform guard) knowledge := by
  simp only [lockAdmission, Transaction.bind_apply]
  refine meets_lockRow untouched ?_
  intro row later moreKnown known mine
  apply meets_require
  intro expected
  exact rest row later moreKnown known (mine rfl)

/-- Changing an admission leaves a plan for cases and jobs as it is. -/
theorem Plan.updateAdmission {tenantId : Uuid} {row : AdmissionRow}
    (plan : Plan platform guard name knowledge changes) :
    Plan platform guard name knowledge (changes.updateRow (.admission tenantId) row) := by
  have other : ∀ key, key ≠ .admission tenantId →
      (changes.updateRow (.admission tenantId) row).lookup key = changes.lookup key :=
    fun key apart => Changes.lookup_updateRow_other changes (.admission tenantId) key row apart
  refine plan.replace (Changes.updateRow_undeleted plan.undeleted) ?_ ?_ ?_ ?_
  · intro requestId
    rw [other (.request requestId) (by simp)]
    exact plan.cases requestId
  · intro id
    exact other (.job id) (by simp)
  · intro store admissible
    exact admissible.of_updateRow (plan.undeleted _)
  · rintro requestId (locked | ⟨record, inserted⟩)
    · exact .inl locked
    · exact .inr ⟨record, (other (.request requestId) (by simp)).trans inserted⟩

/-- An admission that is staged over the committed one is the committed one then. -/
theorem admissionAt_updateRow {store : EngineStore} {tenantId other : Uuid} {row : AdmissionRow} :
    admissionAt (applyChanges store (Changes.updateRow (∅ : EngineChanges)
      (.admission tenantId) row)) other =
      if other = tenantId then some row else admissionAt store other := by
  by_cases same : other = tenantId
  · subst same
    rw [if_pos rfl]
    exact lookup_applyChanges_updateRow store ∅ (.admission other) row
  · rw [if_neg same]
    have apart : Key.admission other ≠ Key.admission tenantId := by simpa
    have untouched := Changes.lookup_updateRow_other (∅ : EngineChanges) (.admission tenantId)
      (.admission other) row apart
    exact lookup_untouched untouched

theorem updateTenantAdmission_follows (command : DecisionCommand) :
    Follows platform guard (updateTenantAdmission command) := by
  intro store
  simp only [Transaction.script, updateTenantAdmission, Transaction.bind_apply]
  refine meets_lockAdmission rfl ?_
  intro current locked _ known _
  apply meets_clock
  intro now timed moreKnown
  have known := moreKnown.known known
  apply meets_require
  intro changed
  simp only [commitDone, Transaction.bind_apply, stageChanges]
  refine meets_commitChanges ?_ fun _ _ _ _ => trivial
  intro store allowed admissible
  have plan : Plan platform guard (.updateTenantAdmission command.tenantId command.gateId) timed
      (Changes.updateRow (∅ : EngineChanges) (.admission command.tenantId)
        ⟨current.revision + 1, applyTenantAdmissionDecision current.admission command.gateId
          command.decision now⟩) := (Plan.empty _).updateAdmission
  refine plan.effect allowed admissible ?_ ?_ ?_ ?_ ?_
  · intro id attempt
    exact .inl (lookup_untouched (Changes.lookup_updateRow_other _ _ _ _ (by simp)))
  · intro id attempt different
    cases different
  · intro id attempt
    exact .inl (lookup_untouched (Changes.lookup_updateRow_other _ _ _ _ (by simp)))
  · intro tenantId
    rw [admissionAt_updateRow]
    split
    · rename_i same
      subst same
      exact .inr ⟨current, _, allowed.current _ known, rfl, .decided _ _ current _ now⟩
    · exact .inl rfl
  · intro tenantId gateId different
    cases different

/-! ## The production stop -/

/-- Each of the cases is revoked as it was found. -/
def RevokedAll (platform : Platform) (command : StopCommand) (stoppedAt : Time)
    (records : List Case) (changes : EngineChanges) : Prop :=
  ∀ record ∈ records, ∃ eventId after,
    revokeCase platform.env record command.actor (js "request.revoked") (command.payload record)
      stoppedAt eventId = .ok after ∧
    changes.lookup (Key.request record.requestId) = some (.update after)

/-- Revoking locked cases one after the other; the induction is on the cases
still to be revoked, which no change has touched. -/
theorem meets_revokeCases {command : StopCommand} {stoppedAt : Time}
    {continuation : Unit → EngineChanges → EngineScript} (records : List Case)
    (distinct : (records.map Case.requestId).Nodup)
    (plan : Plan platform guard name knowledge changes)
    (locked : ∀ record ∈ records, HasLocked knowledge record.requestId record)
    (active : ∀ record ∈ records, record.request.status.active = true)
    (untouched : ∀ record ∈ records, changes.lookup (Key.request record.requestId) = none)
    (rest : ∀ later revoked, knowledge.Later later (engineContract platform guard) →
      Plan platform guard name later revoked →
      (∀ key, (∀ id, key ≠ .job id) → (∀ record ∈ records, key ≠ .request record.requestId) →
        revoked.lookup key = changes.lookup key) →
      RevokedAll platform command stoppedAt records revoked →
      (continuation () revoked).Meets (engineContract platform guard) later) :
    (revokeCases platform.env command stoppedAt records continuation changes).Meets
      (engineContract platform guard) knowledge := by
  induction records generalizing changes knowledge with
  | nil =>
      exact rest knowledge changes Knowledge.Later.refl plan (fun _ _ _ => rfl)
        fun record member => nomatch member
  | cons record others inductionHypothesis =>
      obtain ⟨fresh, distinctOthers⟩ := List.nodup_cons.mp distinct
      have apart : ∀ other ∈ others, other.requestId ≠ record.requestId := by
        intro other member same
        exact fresh (same ▸ List.mem_map.mpr ⟨other, member, rfl⟩)
      simp only [revokeCases, Transaction.bind_apply]
      refine meets_suppressPending plan ?_
      intro suppressing suppressed toSuppressing planned same _
      refine meets_randomUUID ?_
      intro eventId ready toReady
      refine meets_orRefuse ?_
      intro after step
      have moreKnown := toSuppressing.trans toReady
      have named : after.requestId = record.requestId := by
        obtain ⟨_, _, _, rfl⟩ := revokeCase_ok step
        rfl
      have lockedNow := (locked record List.mem_cons_self).later moreKnown
      have untouchedNow : suppressed.lookup (Key.request record.requestId) = none :=
        (same (.request record.requestId) (by simp)).trans (untouched record List.mem_cons_self)
      have own : (stageCase after suppressed).lookup (Key.request record.requestId) =
          some (.update after) := by
        have change := Changes.lookup_updateRow_same suppressed (Key.request record.requestId) after
        rw [untouchedNow] at change
        rw [stageCase, named]
        exact change
      have other : ∀ key, (∀ id, key ≠ .job id) → key ≠ .request record.requestId →
          (stageCase after suppressed).lookup key = changes.lookup key := by
        intro key notJob notOwn
        exact (lookup_stageCase after suppressed key (named ▸ notOwn)).trans (same key notJob)
      refine inductionHypothesis distinctOthers
        ((planned.later toReady).stageCase untouchedNow lockedNow
          (.revoked name command.actor (js "request.revoked") (command.payload record) stoppedAt
            eventId record after (active record List.mem_cons_self) step)) ?_ ?_ ?_ ?_
      · intro found member
        exact (locked found (List.mem_cons_of_mem _ member)).later moreKnown
      · intro found member
        exact active found (List.mem_cons_of_mem _ member)
      · intro found member
        rw [other (.request found.requestId) (by simp)
          fun equal => apart found member (Key.request.inj equal)]
        exact untouched found (List.mem_cons_of_mem _ member)
      · intro last revoked toLast plannedLast elsewhere revokedOthers
        refine rest last revoked (moreKnown.trans toLast) plannedLast ?_ ?_
        · intro key notJob notRecords
          rw [elsewhere key notJob fun found member =>
            notRecords found (List.mem_cons_of_mem _ member)]
          exact other key notJob (notRecords record List.mem_cons_self)
        · intro found member
          rcases List.mem_cons.mp member with rfl | member
          · refine ⟨eventId, after, step, ?_⟩
            rw [elsewhere (.request found.requestId) (by simp)
              fun second secondMember equal =>
                apart second secondMember (Key.request.inj equal).symm]
            exact own
          · exact revokedOthers found member

/-- The active cases that a statement finds before the transaction has changed a case. -/
theorem mem_activeCases {store : EngineStore} {tenantId : Uuid} {record : Case}
    (untouched : ∀ requestId, changes.lookup (Key.request requestId) = none) :
    record ∈ activeCases (applyChanges store changes) tenantId ↔
      caseAt store record.requestId = some record ∧ record.request.tenantId = tenantId ∧
        record.request.status.active = true := by
  rw [activeCases, List.mem_filter, mem_cases, caseAt_untouched (untouched _), Bool.and_eq_true,
    decide_eq_true_eq]

/-- A stop revokes every request of the tenant that can still be answered: those
there at its commit were there when it looked, because it holds the admission. -/
theorem stops_revoked {command : StopCommand} {stoppedAt : Time} {records : List Case}
    {queried : Knowledge Row} {looked store : EngineStore} {staged : EngineChanges}
    (past : queried.past = looked)
    (untouched : ∀ requestId, staged.lookup (Key.request requestId) = none)
    (found : records = activeCases (applyChanges looked staged) command.tenantId)
    (held : Key.admission command.tenantId ∈ queried.mine)
    (locked : ∀ record ∈ records, HasLocked queried record.requestId record)
    (allowed : queried.Allows (engineContract platform guard) store)
    (revoked : RevokedAll platform command stoppedAt records changes) (requestId : Uuid)
    (record : Case) (there : caseAt store requestId = some record)
    (tenant : record.request.tenantId = command.tenantId)
    (active : record.request.status.active = true) :
    ∃ actor payload now eventId after,
      revokeCase platform.env record actor (js "request.revoked") payload now eventId = .ok after ∧
        caseAt (applyChanges store changes) requestId = some after := by
  have moves : Moves (· ∈ queried.mine) looked store := past ▸ allowed.moved
  obtain ⟨before, beforeThere⟩ := Option.isSome_iff_exists.mp
    (moves.issued command.tenantId held requestId record there tenant)
  obtain ⟨after, afterThere, sameTenant, ended⟩ := moves.cases requestId before beforeThere
  obtain rfl : after = record := Option.some.inj (afterThere.symm.trans there)
  have named := (caseAt_eq_some.mp beforeThere).2
  have member : before ∈ records := by
    rw [found]
    refine (mem_activeCases untouched).mpr ⟨named ▸ beforeThere, sameTenant.symm.trans tenant, ?_⟩
    by_contra inactive
    rw [ended (Bool.eq_false_iff.mpr inactive)] at active
    cases active
  have current := (locked before member).found allowed
  rw [named] at current
  obtain rfl : before = after := Option.some.inj (current.symm.trans there)
  obtain ⟨eventId, result, step, change⟩ := revoked before member
  rw [named] at change
  refine ⟨command.actor, _, stoppedAt, eventId, result, step, caseAt_eq_some.mpr ⟨?_, ?_⟩⟩
  · rw [lookup_applyChanges, change]
    rfl
  · obtain ⟨_, _, _, rfl⟩ := revokeCase_ok step
    exact named

theorem stopTenantProduction_follows (command : StopCommand) :
    Follows platform guard (stopTenantProduction platform.env command) := by
  intro start
  simp only [Transaction.script, stopTenantProduction, Transaction.bind_apply]
  refine meets_lockAdmission rfl ?_
  intro current locked _ known held
  apply meets_clock
  intro stoppedAt timed toTimed
  have known := toTimed.known known
  have held := toTimed.mine held
  simp only [Transaction.bind_apply, stageChanges]
  generalize decided : applyTenantAdmissionDecision current.admission command.gateId .pending
    stoppedAt = admission
  generalize stagedChanges : (if admission.same current.admission = true then (∅ : EngineChanges)
    else Changes.updateRow ∅ (.admission command.tenantId) ⟨current.revision + 1, admission⟩) =
      staged
  have stagedElsewhere : ∀ key, key ≠ .admission command.tenantId → staged.lookup key = none := by
    intro key apart
    rw [← stagedChanges]
    split
    · rfl
    · exact Changes.lookup_updateRow_other ∅ (.admission command.tenantId) key _ apart
  have untouched : ∀ requestId, staged.lookup (Key.request requestId) = none :=
    fun requestId => stagedElsewhere _ (by simp)
  have plan : Plan platform guard (.stopTenantProduction command.tenantId command.gateId) timed
      staged := by
    rw [← stagedChanges]
    split
    · exact Plan.empty _
    · exact (Plan.empty _).updateAdmission
  refine meets_plainQuery plain_statement ?_
  intro input looked locks records allowed _ answered
  obtain ⟨asked, found⟩ := Prod.mk.inj (Option.some.inj answered)
  have toQueried := allowed.later locks
  have member : ∀ record ∈ records, caseAt looked record.requestId = some record ∧
      record.request.status.active = true := by
    intro record member
    rw [← found] at member
    obtain ⟨there, _, active⟩ := (mem_activeCases untouched).mp member
    exact ⟨there, active⟩
  have lockedAll : ∀ record ∈ records, HasLocked (timed.after looked locks) record.requestId
      record := by
    intro record recordMember
    refine hasLocked_after ?_ (member record recordMember).1
    rw [← asked, found]
    exact List.mem_flatMap.mpr ⟨record, recordMember, List.mem_singleton.mpr rfl⟩
  have distinct : (records.map Case.requestId).Nodup := by
    rw [← found]
    exact (cases_distinct _).sublist (List.filter_sublist.map Case.requestId)
  refine meets_revokeCases records distinct (plan.later toQueried) lockedAll
    (fun record recordMember => (member record recordMember).2)
    (fun record _ => untouched record.requestId) ?_
  intro last revoked toLast planned elsewhere revokedAll
  simp only [commitDone, Transaction.bind_apply]
  refine meets_commitChanges ?_ fun _ _ _ _ => trivial
  intro store allowedLast admissible
  have allowedQueried := toLast.allows allowedLast
  have admissionNext : ∀ tenantId, admissionAt (applyChanges store revoked) tenantId =
      admissionAt (applyChanges store staged) tenantId := by
    intro tenantId
    rw [admissionAt, lookup_applyChanges, elsewhere (.admission tenantId) (by simp) (by simp),
      admissionAt, lookup_applyChanges]
  have currentAt : admissionAt store command.tenantId = some current :=
    allowedQueried.current _ (toQueried.known known)
  refine planned.effect allowedLast admissible ?_ ?_ ?_ ?_ ?_
  · intro id attempt
    left
    apply lookup_untouched
    rw [elsewhere (.attempt id attempt) (by simp) (by simp)]
    exact stagedElsewhere _ (by simp)
  · intro id attempt different
    cases different
  · intro id attempt
    left
    apply lookup_untouched
    rw [elsewhere (.gatewayAttempt id attempt) (by simp) (by simp)]
    exact stagedElsewhere _ (by simp)
  · intro tenantId
    rw [admissionNext, ← stagedChanges]
    split
    · exact .inl rfl
    · rw [admissionAt_updateRow]
      split
      · rename_i same
        subst same
        refine .inr ⟨current, _, currentAt, rfl, ?_⟩
        rw [← decided]
        exact .stopped _ _ current stoppedAt
      · exact .inl rfl
  · rintro tenantId gateId ⟨⟩
    have pending : admission.state command.gateId = .pending := by
      rw [← decided]
      exact applyTenantAdmissionDecision_same _ _ _ _
    constructor
    · rw [admissionNext, ← stagedChanges]
      split
      · rename_i same
        refine ⟨current, currentAt, ?_⟩
        rw [← (TenantAdmission.same_iff _ _).mp same command.gateId]
        exact pending
      · rw [admissionAt_updateRow, if_pos rfl]
        exact ⟨_, rfl, pending⟩
    · exact stops_revoked rfl untouched found.symm (toQueried.mine held) lockedAll allowedQueried
        revokedAll

end Vasi.EngineEffects
