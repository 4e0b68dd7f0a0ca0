import Vasi.WorkerScripts

/-!
# Runs of the engine

Any number of sessions run the programs of the engine, the worker and the
integration gateway over one database. A reachable state comes from a database
in which tenants have been set up and nothing has been issued. Every program
keeps the contract of the engine, so each run is, on the committed rows, a run
of the effects that the contract describes.
-/
namespace Vasi.Engine

open JsValue ReadCommitted EngineRows EngineCases EvidenceStore Respond RequestActions ProductStore
  Worker IntegrationGateway EngineEffects

/-- A command that reaches the engine or the gateway, or a task of the worker. -/
inductive Operation where
  | issueRequest (command : PublishedIssue)
  | issueTermsRequest (command : TermsIssue)
  | openAssignment (command : ParticipantCommand)
  | recordParticipantContext (command : RecordCommand)
  | recordMediaEvents (command : RecordCommand)
  | recordInteractionEvents (command : RecordCommand)
  | openParticipantArtifact (command : ArtifactCommand)
  | respond (command : RespondCommand)
  | applyRequestAction (command : ActionCommand)
  | updateTenantAdmission (command : DecisionCommand)
  | stopTenantProduction (command : StopCommand)
  | advanceOneLifecycle
  | claimAndDeliver
  | recoverStaleJobs
  | suppressObsoleteJobs
  | suppressOneObsoleteParticipantDataJob
  | queueOneParticipantDataNotification (notification : DataNotification)
  | deliver (command : DeliverCommand)

/-- The program of an operation. -/
def program (platform : Platform) : Operation → Engine Outcome
  | .issueRequest command => issueRequest platform.env command
  | .issueTermsRequest command => issueTermsRequest platform.env command
  | .openAssignment command => openAssignment platform.env command
  | .recordParticipantContext command => recordParticipantContext platform.env command
  | .recordMediaEvents command => recordMediaEvents platform.env command
  | .recordInteractionEvents command => recordInteractionEvents platform.env command
  | .openParticipantArtifact command => openParticipantArtifact platform.env command
  | .respond command => respond platform.env platform.provider platform.verifier command
  | .applyRequestAction command => applyRequestAction platform.env command
  | .updateTenantAdmission command => updateTenantAdmission command
  | .stopTenantProduction command => stopTenantProduction platform.env command
  | .advanceOneLifecycle => advanceOneLifecycle platform.env
  | .claimAndDeliver => claimAndDeliver
  | .recoverStaleJobs => recoverStaleJobs
  | .suppressObsoleteJobs => suppressObsoleteJobs
  | .suppressOneObsoleteParticipantDataJob => suppressOneObsoleteParticipantDataJob
  | .queueOneParticipantDataNotification notification =>
      queueOneParticipantDataNotification platform.env notification
  | .deliver command => deliver platform.env command

def start (platform : Platform) (operation : Operation) : EngineScript :=
  (program platform operation).script

abbrev EngineState := State Row Outside Point Outcome

abbrev EngineLabel := Label Outside Operation

/-- Nothing has been issued: there are only the admissions of tenants. -/
def Initial (store : EngineStore) : Prop :=
  ∀ key, (∀ tenantId, key ≠ .admission tenantId) → store.lookup key = none

variable {platform : Platform} {guard : EngineGuard}

/-- The states that runs under a guard reach. -/
def Reachable (platform : Platform) (guard : EngineGuard) (state : EngineState) : Prop :=
  ∃ store, Initial store ∧ Runs (start platform) guard (State.idle Row Outside Point Outcome store)
    state

/-- Every program keeps the contract. -/
theorem engineContract_valid : (engineContract platform guard).Valid (start platform) where
  keeps := engineContract_keeps
  meets := by
    intro operation store _
    cases operation with
    | issueRequest command => exact issueRequest_follows command store
    | issueTermsRequest command => exact issueTermsRequest_follows command store
    | openAssignment command => exact openAssignment_follows command store
    | recordParticipantContext command => exact recordScript_follows _ command rfl store
    | recordMediaEvents command => exact recordScript_follows _ command rfl store
    | recordInteractionEvents command => exact recordScript_follows _ command rfl store
    | openParticipantArtifact command => exact openParticipantArtifact_follows command store
    | respond command => exact respond_follows command store
    | applyRequestAction command => exact applyRequestAction_follows command store
    | updateTenantAdmission command => exact updateTenantAdmission_follows command store
    | stopTenantProduction command => exact stopTenantProduction_follows command store
    | advanceOneLifecycle => exact advanceOneLifecycle_follows store
    | claimAndDeliver => exact claimAndDeliver_follows store
    | recoverStaleJobs => exact recoverStaleJobs_follows store
    | suppressObsoleteJobs => exact suppressObsoleteJobs_follows store
    | suppressOneObsoleteParticipantDataJob =>
        exact suppressOneObsoleteParticipantDataJob_follows store
    | queueOneParticipantDataNotification notification =>
        exact queueOneParticipantDataNotification_follows notification store
    | deliver command => exact deliver_follows command store

theorem Initial.jobsHaveRequests {store : EngineStore} (initial : Initial store) :
    JobsHaveRequests store := by
  intro id row requestId found _
  have absent : jobAt store id = none := initial (.job id) (by simp)
  rw [absent] at found
  cases found

/-- What the contract says holds in every reachable state. -/
theorem Reachable.holds {state : EngineState} (reachable : Reachable platform guard state) :
    Holds (engineContract platform guard) state := by
  obtain ⟨store, initial, run⟩ := reachable
  have idle : Holds (engineContract platform guard) (State.idle Row Outside Point Outcome store) :=
    Holds.idle initial.jobsHaveRequests
  exact (idle.runs engineContract_valid run).1

theorem Reachable.runs {before after : EngineState} (reachable : Reachable platform guard before)
    (run : Runs (start platform) guard before after) : Reachable platform guard after := by
  obtain ⟨store, initial, earlier⟩ := reachable
  exact ⟨store, initial, earlier.trans run⟩

/-- One committed transaction of the engine. -/
structure Transacts (platform : Platform) (guard : EngineGuard) (name : TransactionName)
    (known : List (Sigma Row)) (store next : EngineStore) : Prop where
  kept : JobsHaveRequests store
  current : Current known store
  guarded : guard.commit (.commit name) store
  effect : Effect platform guard name known store next

/-- The commits that the contract describes are transactions. -/
theorem commits_transacts {point : Point} {known : List (Sigma Row)} {store next : EngineStore}
    (commits : (engineContract platform guard).Commits point known store next) :
    ∃ name, Transacts platform guard name known store next := by
  have effect : commitEffect platform guard point known store next := commits.effect
  cases point with
  | commit name => exact ⟨name, commits.kept, commits.current, commits.guarded, effect⟩
  | _ => exact effect.elim

/-- A property that every transaction keeps holds throughout a run. -/
theorem runs_keep (property : EngineStore → Prop)
    (transaction : ∀ name known store next, property store →
      Transacts platform guard name known store next → property next)
    {before after : EngineState} (reachable : Reachable platform guard before)
    (initial : property before.store) (run : Runs (start platform) guard before after) :
    property after.store := by
  refine reachable.holds.keeps engineContract_valid property ?_ initial run
  intro point known store next kept commits
  obtain ⟨name, transacts⟩ := commits_transacts commits
  exact transaction name known store next kept transacts

/-- A property that holds before anything is issued and that every transaction
keeps holds in every reachable state. -/
theorem reachable_keeps (property : EngineStore → Prop)
    (initial : ∀ store, Initial store → property store)
    (transaction : ∀ name known store next, property store →
      Transacts platform guard name known store next → property next)
    {state : EngineState} (reachable : Reachable platform guard state) : property state.store := by
  obtain ⟨store, empty, run⟩ := reachable
  exact runs_keep property transaction ⟨store, empty, .refl⟩ (initial store empty) run

/-- What becomes of one case through a run, if every step of a case keeps it. -/
theorem case_runs (related : Case → Case → Prop) (reflexive : ∀ record, related record record)
    (transitive : ∀ first second third, related first second → related second third →
      related first third)
    (step : ∀ name record after, CaseStep platform guard name record after → related record after)
    {before after : EngineState} (reachable : Reachable platform guard before)
    (run : Runs (start platform) guard before after) {requestId : Uuid} {record : Case}
    (found : caseAt before.store requestId = some record) :
    ∃ last, caseAt after.store requestId = some last ∧ related record last := by
  refine runs_keep (fun store => ∃ last, caseAt store requestId = some last ∧ related record last)
    ?_ reachable ⟨record, found, reflexive record⟩ run
  rintro name known store next ⟨middle, there, sofar⟩ transacts
  obtain ⟨last, lastThere, rfl | stepped⟩ := transacts.effect.case_kept there
  · exact ⟨last, lastThere, sofar⟩
  · exact ⟨last, lastThere, transitive _ _ _ sofar (step name middle last stepped)⟩

/-- A property of cases that holds when they are issued and that every step
keeps holds of every case in every reachable state. -/
theorem case_reachable (property : Case → Prop)
    (issued : ∀ name known record, CaseMove platform guard name known none (some record) →
      property record)
    (step : ∀ name record after, property record → CaseStep platform guard name record after →
      property after)
    {state : EngineState} (reachable : Reachable platform guard state) {requestId : Uuid}
    {record : Case} (found : caseAt state.store requestId = some record) : property record := by
  refine reachable_keeps
    (fun store => ∀ requestId record, caseAt store requestId = some record → property record)
    ?_ ?_ reachable requestId record found
  · intro store initial requestId record found
    have absent : store.lookup (.request requestId) = none := initial (.request requestId) (by simp)
    rw [caseAt, absent] at found
    cases found
  · intro name known store next kept transacts requestId record found
    cases there : caseAt store requestId with
    | none => exact issued name known record (transacts.effect.case_new there found)
    | some earlier =>
        obtain ⟨last, lastThere, moved⟩ := transacts.effect.case_kept there
        obtain rfl : last = record := Option.some.inj (lastThere.symm.trans found)
        rcases moved with rfl | stepped
        · exact kept requestId last there
        · exact step name earlier last (kept requestId earlier there) stepped

/-! ## Single commits -/

/-- A session commits a transaction. -/
def CommitStep (guard : EngineGuard) (session : SessionId) (name : TransactionName)
    (before after : EngineState) : Prop :=
  ∃ changes next held,
    before.sessions.lookup session = some ⟨.commit (.commit name) changes next, held⟩ ∧
      guard.commit (.commit name) before.store = true ∧
      changes.entries.all (permitted before.store held) = true ∧
      after = ⟨applyChanges before.store changes, before.sessions.insert session ⟨next, []⟩⟩

/-- A commit is a step. -/
theorem CommitStep.step {session : SessionId} {name : TransactionName}
    {before after : EngineState} (commits : CommitStep guard session name before after) : Step (start platform) guard before after := by
  obtain ⟨changes, next, held, found, guarded, allowed, rfl⟩ := commits
  refine ⟨.commit session, ?_, ?_⟩
  · simp [Guard.admits, found, guarded]
  · simp [ReadCommitted.step, found, commitSession, allowed]

/-- A commit of a reachable state is a transaction. -/
theorem CommitStep.transacts {session : SessionId} {name : TransactionName}
    {before after : EngineState} (commits : CommitStep guard session name before after)
    (reachable : Reachable platform guard before) :
    ∃ known, Transacts platform guard name known before.store after.store := by
  obtain ⟨changes, next, held, found, guarded, allowed, rfl⟩ := commits
  obtain ⟨known, committed, _⟩ := reachable.holds.commits found guarded allowed
  exact ⟨known, committed.kept, committed.current, committed.guarded, committed.effect⟩

/-- A step commits a transaction or leaves the rows as they are. -/
theorem step_commits {before after : EngineState} (reachable : Reachable platform guard before)
    (stepped : Step (start platform) guard before after) :
    after.store = before.store ∨ ∃ session name, CommitStep guard session name before after := by
  cases step_cases (start platform) stepped with
  | opened id operation free result => exact .inl (by rw [result])
  | ran id point locks next held input wanted found asked guarded granted result =>
      exact .inl (by rw [result])
  | rolledBack id result => exact .inl (by rw [result])
  | committed id point changes next held found guarded allowed result =>
      obtain ⟨known, committed, _⟩ := reachable.holds.commits found guarded allowed
      have effect : commitEffect platform guard point known before.store
        (applyChanges before.store changes) := committed.effect
      cases point with
      | commit name =>
          exact .inr ⟨id, name, changes, next, held, found, guarded, allowed, result⟩
      | _ => exact effect.elim

/-- The commit with which a property of the rows comes to hold. -/
theorem runs_first (property : EngineStore → Prop) {before after : EngineState}
    (reachable : Reachable platform guard before) (run : Runs (start platform) guard before after)
    (initially : ¬ property before.store) (eventually : property after.store) :
    ∃ session name earlier later, Runs (start platform) guard before earlier ∧
      CommitStep guard session name earlier later ∧ ¬ property earlier.store ∧ property later.store ∧
      Runs (start platform) guard later after := by
  induction run with
  | refl => exact absurd eventually initially
  | @tail middle last sofar stepped inductionHypothesis =>
      by_cases already : property middle.store
      · obtain ⟨session, name, earlier, later, run, commits, without, gained, rest⟩ :=
          inductionHypothesis already
        exact ⟨session, name, earlier, later, run, commits, without, gained, rest.tail stepped⟩
      · rcases step_commits (reachable.runs sofar) stepped with same | ⟨session, name, commits⟩
        · rw [same] at eventually
          exact absurd eventually already
        · exact ⟨session, name, middle, last, sofar, commits, already, eventually, .refl⟩

end Vasi.Engine
