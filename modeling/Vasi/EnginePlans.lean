import Vasi.JobRules

/-!
# From plans to effects

What staging a case adds to the plan of a transaction, and the effect that a
commit of planned changes has. A transaction that touches only cases and jobs
has the effect as soon as it has a plan; the few that touch other rows say what
they do to those.
-/
namespace Vasi.EngineEffects

open JsValue ReadCommitted EngineRows EvidenceEvents EngineCases EvidenceStore

variable {platform : Platform} {guard : EngineGuard} {name : TransactionName}
  {changes later : EngineChanges} {knowledge : Knowledge Row} {store : EngineStore}

/-! ## Staging -/

/-- A plan for the jobs stands when the changes of other rows are replaced. -/
theorem Plan.replace (plan : Plan platform guard name knowledge changes)
    (undeleted : ∀ key, later.lookup key ≠ some .delete)
    (cases : ∀ requestId,
      CaseChange platform guard name knowledge requestId (later.lookup (Key.request requestId)))
    (jobs : ∀ id, later.lookup (Key.job id) = changes.lookup (Key.job id))
    (admissible : ∀ store, Admissible store later → Admissible store changes)
    (queueable : ∀ requestId, Queueable knowledge changes requestId →
      Queueable knowledge later requestId) : Plan platform guard name knowledge later where
  undeleted := undeleted
  cases := cases
  jobs := by
    intro store allowed admissibleLater
    have earlier := plan.jobs store allowed (admissible store admissibleLater)
    refine (earlier.allow queueable).step ?_
    intro id
    left
    rw [jobAt, lookup_applyChanges, jobs id, jobAt, lookup_applyChanges]

/-- Staging a case changes no other row. -/
theorem lookup_stageCase (record : Case) (changes : EngineChanges) (key : Key)
    (apart : key ≠ .request record.requestId) :
    (stageCase record changes).lookup key = changes.lookup key :=
  Changes.lookup_updateRow_other changes (.request record.requestId) key record apart

/-- Inserting a row that is neither a case nor a job leaves a plan as it is. -/
theorem Plan.insertOther {key : Key} {row : Row key}
    (plan : Plan platform guard name knowledge changes) (untouched : changes.lookup key = none)
    (notCase : ∀ requestId, key ≠ .request requestId) (notJob : ∀ id, key ≠ .job id) :
    Plan platform guard name knowledge (changes.insertRow key row) := by
  have other : ∀ found, found ≠ key →
      (changes.insertRow key row).lookup found = changes.lookup found :=
    fun found apart => AList.lookup_insert_ne apart
  refine plan.replace (Changes.insertRow_undeleted plan.undeleted) ?_ ?_ ?_ ?_
  · intro requestId
    rw [other (.request requestId) (notCase requestId).symm]
    exact plan.cases requestId
  · intro id
    exact other (.job id) (notJob id).symm
  · intro store admissible
    exact admissible.of_insertRow untouched
  · rintro requestId (locked | ⟨record, inserted⟩)
    · exact .inl locked
    · exact .inr ⟨record, (other (.request requestId) (notCase requestId).symm).trans inserted⟩

/-- A case that is locked takes a step. -/
theorem Plan.stageCase {requestId : Uuid} {record after : Case}
    (plan : Plan platform guard name knowledge changes)
    (untouched : changes.lookup (Key.request requestId) = none)
    (locked : HasLocked knowledge requestId record)
    (step : CaseStep platform guard name record after) :
    Plan platform guard name knowledge (stageCase after changes) := by
  have named : after.requestId = requestId := step.same.requestId.trans locked.requestId
  have own : (EngineCases.stageCase after changes).lookup (Key.request requestId) =
      some (.update after) := by
    have change := Changes.lookup_updateRow_same changes (Key.request requestId) after
    rw [untouched] at change
    rw [EngineCases.stageCase, named]
    exact change
  have other : ∀ key, key ≠ .request requestId →
      (EngineCases.stageCase after changes).lookup key = changes.lookup key := by
    intro key apart
    exact lookup_stageCase after changes key (named ▸ apart)
  refine plan.replace (Changes.updateRow_undeleted plan.undeleted) ?_ ?_ ?_ ?_
  · intro found
    by_cases same : found = requestId
    · subst same
      rw [own]
      exact .stepped record after locked step
    · rw [other (.request found) fun equal => same (Key.request.inj equal)]
      exact plan.cases found
  · intro id
    exact other (.job id) (by simp)
  · intro store admissible
    exact admissible.of_updateRow (plan.undeleted _)
  · rintro found (lockedOther | ⟨inserted, change⟩)
    · exact .inl lockedOther
    · refine .inr ⟨inserted, (other (.request found) ?_).trans change⟩
      intro equal
      obtain rfl := Key.request.inj equal
      rw [untouched] at change
      cases change

/-- A new case is inserted. -/
theorem Plan.insertCase {record : Case} (plan : Plan platform guard name knowledge changes)
    (untouched : changes.lookup (Key.request record.requestId) = none)
    (move : CaseMove platform guard name knowledge.known none (some record)) :
    Plan platform guard name knowledge (changes.insertRow (.request record.requestId) record) := by
  have other : ∀ key, key ≠ .request record.requestId →
      (changes.insertRow (.request record.requestId) record).lookup key = changes.lookup key :=
    fun key apart => AList.lookup_insert_ne apart
  refine plan.replace (Changes.insertRow_undeleted plan.undeleted) ?_ ?_ ?_ ?_
  · intro found
    by_cases same : found = record.requestId
    · subst same
      have own : (changes.insertRow (.request record.requestId) record).lookup
          (Key.request record.requestId) = some (.insert record) := AList.lookup_insert changes
      rw [own]
      exact .inserted record rfl move
    · rw [other (.request found) fun equal => same (Key.request.inj equal)]
      exact plan.cases found
  · intro id
    exact other (.job id) (by simp)
  · intro store admissible
    exact admissible.of_insertRow untouched
  · rintro found (lockedOther | ⟨inserted, change⟩)
    · exact .inl lockedOther
    · refine .inr ⟨inserted, (other (.request found) ?_).trans change⟩
      intro equal
      obtain rfl := Key.request.inj equal
      rw [untouched] at change
      cases change

/-! ## Committing -/

/-- What a commit makes of the case of a request. -/
theorem CaseChange.effect {requestId : Uuid}
    (planned : CaseChange platform guard name knowledge requestId
      (changes.lookup (Key.request requestId)))
    (allowed : knowledge.Allows (engineContract platform guard) store)
    (admissible : Admissible store changes) :
    caseAt (applyChanges store changes) requestId = caseAt store requestId ∨
      CaseMove platform guard name knowledge.known (caseAt store requestId)
        (caseAt (applyChanges store changes) requestId) := by
  have image := lookup_applyChanges store changes (Key.request requestId)
  generalize change : changes.lookup (Key.request requestId) = found at planned image
  cases planned with
  | untouched => exact .inl (caseAt_untouched change)
  | stepped record after locked step =>
      have result : caseAt (applyChanges store changes) requestId = some after :=
        caseAt_eq_some.mpr ⟨image, step.same.requestId.trans locked.requestId⟩
      rw [locked.found allowed, result]
      exact .inr (.stepped record after step)
  | inserted after named move =>
      have absent : caseAt store requestId = none := by
        rw [caseAt, admissible.inserted (.request requestId) after change]
        rfl
      have result : caseAt (applyChanges store changes) requestId = some after :=
        caseAt_eq_some.mpr ⟨image, named⟩
      rw [absent, result]
      exact .inr move

/-- A request that a transaction may queue for is there after its commit. -/
theorem Plan.queueable_there {requestId : Uuid}
    (plan : Plan platform guard name knowledge changes)
    (allowed : knowledge.Allows (engineContract platform guard) store)
    (admissible : Admissible store changes)
    (queueable : Queueable knowledge changes requestId) :
    (caseAt (applyChanges store changes) requestId).isSome := by
  have effect := (plan.cases requestId).effect allowed admissible
  rcases queueable with ⟨record, locked⟩ | ⟨record, inserted⟩
  · rw [locked.found allowed] at effect
    rcases effect with same | move
    · rw [same]
      rfl
    · generalize caseAt (applyChanges store changes) requestId = after at move
      cases move
      rfl
  · have planned := plan.cases requestId
    rw [inserted] at planned
    cases planned with
    | inserted _ named move =>
        refine Option.isSome_of_eq_some (caseAt_eq_some.mpr ⟨?_, named⟩)
        rw [lookup_applyChanges, inserted]
        rfl

/-- The effect of a commit of planned changes, given what it does to the rows
that are neither cases nor jobs. -/
theorem Plan.effect (plan : Plan platform guard name knowledge changes)
    (allowed : knowledge.Allows (engineContract platform guard) store)
    (admissible : Admissible store changes)
    (attempts : ∀ id attempt, attemptAt (applyChanges store changes) id attempt =
      attemptAt store id attempt ∨
        (name = .deliverJob id attempt ∧ attemptAt store id attempt = none))
    (delivers : ∀ id attempt, name = .deliverJob id attempt → ∃ row job inserted,
      Delivers guard id attempt store (applyChanges store changes) row job inserted)
    (gatewayAttempts : ∀ id attempt, gatewayAttemptAt (applyChanges store changes) id attempt =
      gatewayAttemptAt store id attempt ∨
        (gatewayAttemptAt store id attempt = none ∧ ∃ row input earlier,
          gatewayAttemptAt (applyChanges store changes) id attempt = some row ∧
            GatewayDelivery row.delivery ∧
            guard.statement (.gatewayCompleted row.delivery) input earlier))
    (admissions : ∀ tenantId, admissionAt (applyChanges store changes) tenantId =
      admissionAt store tenantId ∨ ∃ row after, admissionAt store tenantId = some row ∧
        admissionAt (applyChanges store changes) tenantId = some after ∧
        AdmissionMove name tenantId row after)
    (stops : ∀ tenantId gateId, name = .stopTenantProduction tenantId gateId →
      Stops platform tenantId gateId store (applyChanges store changes)) :
    Effect platform guard name knowledge.known store (applyChanges store changes) where
  cases := fun requestId => (plan.cases requestId).effect allowed admissible
  jobs := by
    refine (plan.jobs store allowed admissible).allow ?_
    rintro requestId (⟨record, locked⟩ | ⟨record, inserted⟩)
    · exact .inl (List.mem_map.mpr ⟨_, locked.known, rfl⟩)
    · right
      rw [caseAt, admissible.inserted _ record inserted]
      rfl
  queuedFor := by
    intro id row requestId found request
    refine ((plan.jobs store allowed admissible).queued id row requestId found request).imp_right ?_
    exact plan.queueable_there allowed admissible
  attempts := attempts
  delivers := delivers
  gatewayAttempts := gatewayAttempts
  admissions := admissions
  stops := stops

/-- The transaction changes cases and jobs only. -/
structure Quiet (changes : EngineChanges) : Prop where
  attempts : ∀ id attempt, changes.lookup (Key.attempt id attempt) = none
  gatewayAttempts : ∀ id attempt, changes.lookup (Key.gatewayAttempt id attempt) = none
  admissions : ∀ tenantId, changes.lookup (Key.admission tenantId) = none

theorem Quiet.empty : Quiet ∅ := ⟨fun _ _ => rfl, fun _ _ => rfl, fun _ => rfl⟩

/-- Changes of jobs leave the rest quiet. -/
theorem Quiet.elsewhere (quiet : Quiet changes) (same : SameElsewhere changes later) :
    Quiet later where
  attempts := fun id attempt => (same _ (by simp)).trans (quiet.attempts id attempt)
  gatewayAttempts := fun id attempt => (same _ (by simp)).trans (quiet.gatewayAttempts id attempt)
  admissions := fun tenantId => (same _ (by simp)).trans (quiet.admissions tenantId)

/-- Staging a case leaves the rest quiet. -/
theorem Quiet.stageCase {record : Case} (quiet : Quiet changes) :
    Quiet (stageCase record changes) where
  attempts := fun id attempt => (lookup_stageCase record changes _ (by simp)).trans
    (quiet.attempts id attempt)
  gatewayAttempts := fun id attempt => (lookup_stageCase record changes _ (by simp)).trans
    (quiet.gatewayAttempts id attempt)
  admissions := fun tenantId => (lookup_stageCase record changes _ (by simp)).trans
    (quiet.admissions tenantId)

/-- Inserting a case leaves the rest quiet. -/
theorem Quiet.insertCase {requestId : Uuid} {record : Case} (quiet : Quiet changes) :
    Quiet (changes.insertRow (.request requestId) record) where
  attempts := fun id attempt => (AList.lookup_insert_ne (by simp)).trans (quiet.attempts id attempt)
  gatewayAttempts := fun id attempt =>
    (AList.lookup_insert_ne (by simp)).trans (quiet.gatewayAttempts id attempt)
  admissions := fun tenantId => (AList.lookup_insert_ne (by simp)).trans (quiet.admissions tenantId)

/-- A transaction that changes cases and jobs only does what was planned. -/
theorem Plan.commits (plan : Plan platform guard name knowledge changes) (quiet : Quiet changes)
    (ordinary : name.ordinary = true) :
    (engineContract platform guard).Pending knowledge changes
      ((engineContract platform guard).effect (.commit name) knowledge.known) := by
  intro store allowed admissible
  refine plan.effect allowed admissible ?_ ?_ ?_ ?_ ?_
  · intro id attempt
    exact .inl (lookup_untouched (quiet.attempts id attempt))
  · rintro id attempt rfl
    cases ordinary
  · intro id attempt
    exact .inl (lookup_untouched (quiet.gatewayAttempts id attempt))
  · intro tenantId
    exact .inl (lookup_untouched (quiet.admissions tenantId))
  · rintro tenantId gateId rfl
    cases ordinary

/-- Committing and ending. -/
theorem meets_commitDone (plan : Plan platform guard name knowledge changes)
    (quiet : Quiet changes) (ordinary : name.ordinary = true) :
    (commitDone name (fun result _ => .stop result) changes).Meets
      (engineContract platform guard) knowledge := by
  simp only [commitDone, Transaction.bind_apply]
  exact meets_commitChanges (plan.commits quiet ordinary) fun _ _ _ _ => trivial

end Vasi.EngineEffects
