import Vasi.Sample

/-!
# Runs of the jobs

Any number of workers claim, deliver, release and suppress the jobs of the
outbox. The claim and its delivery are two transactions of one session, and the
delivery records the attempt number that the claim assigned. It writes the row
by its identifier, though, whatever has become of the job since, and the claim
does not look at the attempt budget: a job settles once, within its budget, in
every run in which no delivery finds its job settled and no claim finds the
budget used up.
-/
namespace Vasi.JobRuns

open JsValue IsoTime Validation CanonicalJson ReadCommitted EngineRows EvidenceEvents EngineCases
  Notifications Outbox EvidenceStore Respond RequestActions ProductStore Worker IntegrationGateway
  EngineEffects Engine

/-! ## Deliveries and their claims -/

/-- The rest of a script delivers what it owns: a job and the attempt number
that its claim assigned. -/
def Owns : EngineScript → Option (Uuid × ℕ) → Prop
  | .abandon, _ | .stop _, _ => True
  | .statement _ _ next, owned => ∀ input store, Owns (next input store) owned
  | .commit (.commit (.deliverJob id attempt)) _ next, owned =>
      owned = some (id, attempt) ∧ Owns next none
  | .commit (.commit (.claimJob id)) changes next, _ =>
      ∃ row, (AList.lookup (Key.job id) changes).bind Change.image = some row ∧
        Owns next (some (id, JobRow.attempts row))
  | .commit _ _ next, _ => Owns next none

/-- A part of a program that neither claims nor delivers a job. -/
structure Apart {α : Type} (part : Engine α) : Prop where
  owns : ∀ continuation changes owned,
    (∀ value later owned, Owns (continuation value later) owned) →
      Owns (part continuation changes) owned

/-- The transaction neither claims nor delivers a job. -/
def isApart : TransactionName → Bool
  | .deliverJob _ _ | .claimJob _ => false
  | _ => true

section

variable {α β : Type}

@[simp] theorem apart_pure (value : α) : Apart (pure value) :=
  ⟨fun _ changes owned rest => rest value changes owned⟩

@[simp] theorem apart_bind {first : Engine α} {second : α → Engine β} (left : Apart first)
    (right : ∀ value, Apart (second value)) : Apart (first >>= second) :=
  ⟨fun _ changes owned rest => left.owns _ changes owned fun value later owned =>
    (right value).owns _ later owned rest⟩

@[simp] theorem apart_query (point : Point)
    (body : Outside → EngineStore → Option (List (Key × LockMode) × α)) :
    Apart (query point body) := by
  constructor
  intro continuation changes owned rest input store
  show Owns ((body input (applyChanges store changes)).elim .abandon fun answer =>
    continuation answer.2 changes) owned
  cases body input (applyChanges store changes) with
  | none => trivial
  | some found => exact rest found.2 changes owned

@[simp] theorem apart_readRows (point : Point) (body : Outside → EngineStore → α) :
    Apart (readRows point body) := apart_query point _

@[simp] theorem apart_fromOutside (point : Point) (body : Outside → α) :
    Apart (fromOutside point body) := apart_readRows point _

@[simp] theorem apart_finish (result : Outcome) : Apart (finish result : Engine α) :=
  ⟨fun _ _ _ _ => trivial⟩

@[simp] theorem apart_stageChanges (change : EngineChanges → EngineChanges) :
    Apart (stageChanges change : Engine Unit) :=
  ⟨fun _ changes owned rest => rest () (change changes) owned⟩

@[simp] theorem apart_commitDone {transaction : TransactionName}
    (apart : isApart transaction = true) : Apart (commitDone transaction) := by
  constructor
  intro continuation changes owned rest
  cases transaction with
  | deliverJob | claimJob => cases apart
  | _ => exact rest .done ∅ none

@[simp] theorem apart_ite {condition : Prop} [Decidable condition] {left right : Engine α}
    (first : Apart left) (second : Apart right) : Apart (if condition then left else right) := by
  split
  · exact first
  · exact second

@[simp] theorem apart_orRefuse (result : Except JsString α) : Apart (orRefuse result) := by
  cases result with
  | ok value => exact apart_pure value
  | error code => exact apart_finish (.refused code)

@[simp] theorem apart_require (condition : Bool) (code : JsString) :
    Apart (require condition code) := by
  cases condition with
  | true => exact apart_pure ()
  | false => exact apart_finish (.refused code)

@[simp] theorem apart_clock : Apart clock := apart_fromOutside _ _

@[simp] theorem apart_randomUUID : Apart randomUUID := apart_fromOutside _ _

@[simp] theorem apart_lockRow (key : Key) (mode : LockMode) : Apart (lockRow key mode) :=
  apart_query _ _

@[simp] theorem apart_lockCase (requestId : Uuid) : Apart (lockCase requestId) := apart_query _ _

@[simp] theorem apart_insertNew (key : Key) (row : Row key) : Apart (insertNew key row) := by
  simp [insertNew]

@[simp] theorem apart_updateJobs (update : Outside → EngineStore → JobRow → Option JobRow) :
    Apart (updateJobs update) := by
  simp [updateJobs]

@[simp] theorem apart_insertJob (idempotencyKey : JsString) (row : Time → JobRow) :
    Apart (insertJob idempotencyKey row) := by
  simp [insertJob]

@[simp] theorem apart_suppressPendingRequestNotifications (reason : JsString) (requestId : Uuid)
    (suppressedAt : Time) :
    Apart (suppressPendingRequestNotifications reason requestId suppressedAt) :=
  apart_updateJobs _

@[simp] theorem apart_queueNotification (env : Environment) (notification : NewNotification) :
    Apart (queueNotification env notification) := by
  unfold queueNotification
  repeat' with_reducible refine apart_bind ?_ fun _ => ?_
  all_goals first | exact apart_lockRow _ _ | simp

@[simp] theorem apart_assertTenantAdmitted (tenantId : Uuid) :
    Apart (assertTenantAdmitted tenantId) := by
  unfold assertTenantAdmitted
  repeat' with_reducible refine apart_bind ?_ fun _ => ?_
  all_goals first | exact apart_lockRow _ _ | simp

@[simp] theorem apart_insertCase (record : Case) : Apart (insertCase record) :=
  apart_insertNew (.request record.requestId) record

@[simp] theorem apart_queueReminders (env : Environment) (command : PublishedIssue)
    (requestId : Uuid) (now : Time) (hours : List ℕ) :
    Apart (queueReminders env command requestId now hours) := by
  induction hours with
  | nil => exact apart_pure ()
  | cons first rest inductionHypothesis =>
      unfold queueReminders
      refine apart_ite ?_ inductionHypothesis
      exact apart_bind (apart_queueNotification env _) fun _ => inductionHypothesis

@[simp] theorem apart_issuePublishedRequest (env : Environment) (command : PublishedIssue) :
    Apart (issuePublishedRequest env command) := by
  unfold issuePublishedRequest
  repeat' with_reducible refine apart_bind ?_ fun _ => ?_
  all_goals first | exact apart_lockRow _ _ | simp

theorem apart_recordScript (env : Environment) {recording : Recording} {command : RecordCommand}
    (apart : isApart (recording.transaction command.requestId) = true) :
    Apart (recordScript env recording command) := by
  unfold recordScript
  repeat' with_reducible refine apart_bind ?_ fun _ => ?_
  all_goals first | exact apart_commitDone apart | simp

theorem apart_openAssignment (env : Environment) (command : ParticipantCommand) :
    Apart (openAssignment env command) := by
  unfold openAssignment
  refine apart_bind (apart_lockCase _) fun record => apart_bind (apart_orRefuse _) fun _ => ?_
  refine apart_ite (apart_pure _) ?_
  repeat' with_reducible refine apart_bind ?_ fun _ => ?_
  all_goals first | exact apart_commitDone rfl | exact apart_lockRow _ _ | simp

theorem apart_openParticipantArtifact (env : Environment) (command : ArtifactCommand) :
    Apart (openParticipantArtifact env command) := by
  unfold openParticipantArtifact
  repeat' with_reducible refine apart_bind ?_ fun _ => ?_
  all_goals first | exact apart_commitDone rfl | exact apart_lockRow _ _ | simp

theorem apart_completeWorkflow (platform : Platform) (command : RespondCommand)
    (workflow : PublishedWorkflow) (record : Case) (completedAt : Time) :
    Apart (completeWorkflow platform.env platform.provider platform.verifier command workflow record
      completedAt) := by
  unfold completeWorkflow
  repeat' with_reducible first | refine apart_bind ?_ fun _ => ?_ | refine apart_ite ?_ ?_
  all_goals first | exact apart_commitDone rfl | simp

theorem apart_respond (platform : Platform) (command : RespondCommand) :
    Apart (respond platform.env platform.provider platform.verifier command) := by
  unfold respond
  refine apart_bind (apart_lockCase _) fun record => apart_bind (apart_orRefuse _) fun _ => ?_
  refine apart_bind apart_clock fun now => apart_bind (apart_orRefuse _) fun _ => ?_
  refine apart_bind (apart_require _ _) fun _ => ?_
  cases record.request.workflow with
  | none =>
      show Apart (respondToTerms platform.env platform.provider platform.verifier command record)
      unfold respondToTerms
      repeat' with_reducible refine apart_bind ?_ fun _ => ?_
      all_goals first | exact apart_commitDone rfl | exact apart_lockRow _ _ | simp
  | some workflow =>
      show Apart (respondToWorkflowActivity platform.env platform.provider platform.verifier command
        workflow record)
      refine apart_bind (apart_require _ _) fun _ => apart_bind apart_clock fun _ => ?_
      refine apart_bind apart_clock fun completedAt => apart_bind apart_randomUUID fun _ => ?_
      refine apart_bind apart_randomUUID fun _ => apart_bind (apart_orRefuse _) fun answered => ?_
      cases command.intent with
      | save => exact apart_bind (apart_stageChanges _) fun _ => apart_commitDone rfl
      | submit =>
          refine apart_bind apart_randomUUID fun _ => apart_bind apart_randomUUID fun _ => ?_
          with_reducible refine apart_bind (apart_orRefuse _) fun moved => ?_
          obtain ⟨next, submitted⟩ := moved
          cases next with
          | some _ => exact apart_bind (apart_stageChanges _) fun _ => apart_commitDone rfl
          | none => exact apart_completeWorkflow platform command workflow submitted completedAt

@[simp] theorem apart_revokeRequest (env : Environment) (command : ActionCommand) (record : Case)
    (eventType reason : JsString) (now : Time) :
    Apart (revokeRequest env command record eventType reason now) := by
  unfold revokeRequest
  repeat' with_reducible refine apart_bind ?_ fun _ => ?_
  all_goals first | exact apart_lockRow _ _ | simp

@[simp] theorem apart_lockActionRequest (command : ActionCommand) :
    Apart (lockActionRequest command) := by
  unfold lockActionRequest lockRequest
  repeat' with_reducible refine apart_bind ?_ fun _ => ?_
  all_goals first | exact apart_lockRow _ _ | simp

theorem apart_applyRequestAction (env : Environment) (command : ActionCommand) :
    Apart (applyRequestAction env command) := by
  unfold applyRequestAction
  cases command.action with
  | revoke =>
      repeat' with_reducible refine apart_bind ?_ fun _ => ?_
      all_goals first | exact apart_commitDone rfl | exact apart_lockRow _ _ | simp
  | remind notification =>
      repeat' with_reducible refine apart_bind ?_ fun _ => ?_
      all_goals first | exact apart_commitDone rfl | exact apart_lockRow _ _ | simp
  | reissue payload notification =>
      refine apart_bind (apart_assertTenantAdmitted _) fun _ => ?_
      refine apart_bind (apart_lockActionRequest _) fun record => ?_
      refine apart_bind apart_clock fun _ => apart_bind (apart_revokeRequest _ _ _ _ _ _) fun _ => ?_
      cases record.request.workflow with
      | none => exact apart_finish _
      | some workflow =>
          exact apart_bind (apart_issuePublishedRequest _ _) fun _ => apart_commitDone rfl

theorem apart_updateTenantAdmission (command : DecisionCommand) :
    Apart (updateTenantAdmission command) := by
  unfold updateTenantAdmission lockAdmission
  repeat' with_reducible refine apart_bind ?_ fun _ => ?_
  all_goals first | exact apart_commitDone rfl | exact apart_lockRow _ _ | simp

theorem apart_revokeCases (env : Environment) (command : StopCommand) (stoppedAt : Time)
    (records : List Case) : Apart (revokeCases env command stoppedAt records) := by
  induction records with
  | nil => exact apart_pure ()
  | cons record rest inductionHypothesis =>
      refine apart_bind (apart_suppressPendingRequestNotifications _ _ _) fun _ => ?_
      refine apart_bind apart_randomUUID fun _ => apart_bind (apart_orRefuse _) fun _ => ?_
      exact apart_bind (apart_stageChanges _) fun _ => inductionHypothesis

theorem apart_stopTenantProduction (env : Environment) (command : StopCommand) :
    Apart (stopTenantProduction env command) := by
  unfold stopTenantProduction lockAdmission
  repeat' with_reducible refine apart_bind ?_ fun _ => ?_
  all_goals first | exact apart_commitDone rfl | exact apart_lockRow _ _ | simp [apart_revokeCases]

theorem apart_advanceOneLifecycle (env : Environment) : Apart (advanceOneLifecycle env) := by
  unfold advanceOneLifecycle
  refine apart_bind (apart_query _ _) fun record => apart_bind (apart_fromOutside _ _) fun now => ?_
  refine apart_bind apart_randomUUID fun _ => apart_bind (apart_orRefuse _) fun _ => ?_
  refine apart_ite (apart_bind (apart_suppressPendingRequestNotifications _ _ _) fun _ => ?_) ?_
  · exact apart_bind (apart_stageChanges _) fun _ => apart_commitDone rfl
  · exact apart_bind (apart_stageChanges _) fun _ => apart_commitDone rfl

@[simp] theorem apart_attemptDelivery (command : DeliverCommand) (payloadHash : JsString) :
    Apart (attemptDelivery command payloadHash) := by
  unfold attemptDelivery
  have current : Apart (assertNotificationJobCurrent command payloadHash) := by
    refine apart_bind (apart_query _ _) fun row => ?_
    cases row with
    | none => exact apart_pure _
    | some row => exact apart_query _ _
  refine apart_bind current fun checked => ?_
  cases checked with
  | error code => exact apart_pure _
  | ok =>
      refine apart_bind (apart_query _ _) fun loaded => ?_
      cases loaded with
      | error code => exact apart_pure _
      | ok binding => exact apart_fromOutside _ _

theorem apart_deliver (env : Environment) (command : DeliverCommand) :
    Apart (deliver env command) := by
  unfold deliver
  refine apart_bind (apart_orRefuse _) fun requestHash => apart_bind (apart_orRefuse _) fun _ => ?_
  refine apart_bind (apart_readRows _ _) fun previous => ?_
  cases previous with
  | some row => exact apart_bind (apart_require _ _) fun _ => apart_pure _
  | none =>
      repeat' with_reducible refine apart_bind ?_ fun _ => ?_
      all_goals first | exact apart_commitDone rfl | exact apart_lockRow _ _ | simp

end

/-! ## The delivery owns its claim -/

/-- A statement of a delivery keeps what is owned. -/
theorem owns_query {α : Type} {point : Point}
    {body : Outside → EngineStore → Option (List (Key × LockMode) × α)}
    {continuation : α → EngineChanges → EngineScript} {changes : EngineChanges}
    {owned : Option (Uuid × ℕ)} (rest : ∀ value, Owns (continuation value changes) owned) :
    Owns (query point body continuation changes) owned := by
  intro input store
  show Owns ((body input (applyChanges store changes)).elim .abandon fun answer =>
    continuation answer.2 changes) owned
  cases body input (applyChanges store changes) with
  | none => trivial
  | some found => exact rest found.2

/-- A delivery records the attempt number of the row it is given. -/
theorem deliverJob_owns (id : Uuid) (job : JobRow) (changes : EngineChanges) :
    Owns (deliverJob id job (fun result _ => .stop result) changes) (some (id, job.attempts)) := by
  unfold deliverJob dispatchJob clock
  simp only [Transaction.bind_apply, fromOutside, readRows]
  refine owns_query fun startedAt => ?_
  have rest : ∀ delivery later, Owns ((do
      let completedAt ← fromOutside (.deliveryCompleted startedAt) Outside.clock
      insertNew (.attempt id job.attempts) { delivery, startedAt, completedAt }
      let row ← lockRow (.job id) .update
      stageChanges fun changes =>
        changes.updateRow (.job id) (JobRow.deliver row job delivery completedAt)
      commitDone (.deliverJob id job.attempts) : Engine Outcome)
      (fun result _ => .stop result) later) (some (id, job.attempts)) := by
    intro delivery later
    simp only [Transaction.bind_apply, fromOutside, readRows, insertNew, lockRow]
    refine owns_query fun completedAt => ?_
    dsimp only [Transaction.bind_apply]
    refine owns_query fun _ => ?_
    dsimp only [Transaction.bind_apply, stageChanges]
    refine owns_query fun row => ?_
    exact ⟨rfl, trivial⟩
  refine owns_query fun eligible => ?_
  dsimp only
  split
  · exact owns_query fun delivery => rest delivery changes
  · exact rest _ changes

/-- A claim assigns the attempt number of the row that it writes. -/
theorem claimAndDeliver_owns : Owns claimAndDeliver.script none := by
  unfold claimAndDeliver claimJob Transaction.script
  simp only [Transaction.bind_apply]
  refine owns_query fun claimed => ?_
  refine ⟨claimed.2, ?_, deliverJob_owns claimed.1 claimed.2 ∅⟩
  rw [Changes.lookup_updateRow_same, Option.bind_some]
  exact Change.image_renew _ _

/-- No program delivers a job that it did not claim. -/
theorem program_owns (platform : Platform) (operation : Operation) :
    Owns (start platform operation) none := by
  have ends {whole : Engine Outcome} (apart : Apart whole) : Owns whole.script none :=
    apart.owns _ ∅ none fun _ _ _ => trivial
  cases operation with
  | issueRequest command =>
      exact ends (apart_bind (apart_issuePublishedRequest _ command) fun _ => apart_commitDone rfl)
  | issueTermsRequest command =>
      refine ends ?_
      show Apart (issueTermsRequest platform.env command)
      unfold issueTermsRequest
      repeat' with_reducible refine apart_bind ?_ fun _ => ?_
      all_goals first | exact apart_commitDone rfl | exact apart_lockRow _ _ | simp
  | openAssignment command => exact ends (apart_openAssignment _ command)
  | recordParticipantContext command => exact ends (apart_recordScript _ rfl)
  | recordMediaEvents command => exact ends (apart_recordScript _ rfl)
  | recordInteractionEvents command => exact ends (apart_recordScript _ rfl)
  | openParticipantArtifact command => exact ends (apart_openParticipantArtifact _ command)
  | respond command => exact ends (apart_respond platform command)
  | applyRequestAction command => exact ends (apart_applyRequestAction _ command)
  | updateTenantAdmission command => exact ends (apart_updateTenantAdmission command)
  | stopTenantProduction command => exact ends (apart_stopTenantProduction _ command)
  | advanceOneLifecycle => exact ends (apart_advanceOneLifecycle _)
  | claimAndDeliver => exact claimAndDeliver_owns
  | recoverStaleJobs =>
      exact ends (apart_bind (apart_updateJobs _) fun _ => apart_commitDone rfl)
  | suppressObsoleteJobs =>
      exact ends (apart_bind (apart_updateJobs _) fun _ => apart_commitDone rfl)
  | suppressOneObsoleteParticipantDataJob =>
      refine ends (apart_bind (apart_query _ _) fun ⟨jobId, row⟩ => ?_)
      exact apart_bind apart_clock fun _ => apart_bind (apart_stageChanges _) fun _ =>
        apart_commitDone rfl
  | queueOneParticipantDataNotification notification =>
      refine ends (apart_bind apart_clock fun _ => apart_bind (apart_orRefuse _) fun _ => ?_)
      exact apart_bind (apart_insertJob _ _) fun _ => apart_commitDone rfl
  | deliver command => exact ends (apart_deliver _ command)

/-- A session has claimed the job with the attempt number. -/
def OwnClaim (platform : Platform) (guard : EngineGuard) (session : SessionId) (id : Uuid)
    (attempt : ℕ) (state : EngineState) : Prop :=
  ∃ claiming claimed row, Reachable platform guard claiming ∧
    CommitStep guard session (.claimJob id) claiming claimed ∧
    jobAt claimed.store id = some row ∧ row.attempts = attempt ∧
    Runs (start platform) guard claimed state

/-- What a session owns it has claimed. -/
def Claimed (platform : Platform) (guard : EngineGuard) (session : SessionId)
    (owned : Option (Uuid × ℕ)) (state : EngineState) : Prop :=
  ∀ job ∈ owned, OwnClaim platform guard session job.1 job.2 state

section

variable {platform : Platform} {guard : EngineGuard}

/-- What has been claimed stays claimed. -/
theorem Claimed.step {session : SessionId} {owned : Option (Uuid × ℕ)}
    {before after : EngineState} (claimed : Claimed platform guard session owned before)
    (stepped : Step (start platform) guard before after) :
    Claimed platform guard session owned after := by
  intro job member
  obtain ⟨claiming, middle, row, reachable, commits, found, attempt, run⟩ := claimed job member
  exact ⟨claiming, middle, row, reachable, commits, found, attempt, run.tail stepped⟩

/-- Each session delivers only what it has claimed. -/
def SessionsOwn (platform : Platform) (guard : EngineGuard) (state : EngineState) : Prop :=
  ∀ id session, state.sessions.lookup id = some session →
    ∃ owned, Owns session.script owned ∧ Claimed platform guard id owned state

/-- A step keeps it: a statement keeps what is owned, and a claim is owned from its commit on. -/
theorem sessionsOwn_step {before after : EngineState} (reachable : Reachable platform guard before)
    (own : SessionsOwn platform guard before) (stepped : Step (start platform) guard before after) :
    SessionsOwn platform guard after := by
  have others {id : SessionId} {session : Session Row Outside Point Outcome}
      (found : before.sessions.lookup id = some session) :
      ∃ owned, Owns session.script owned ∧ Claimed platform guard id owned after := by
    obtain ⟨owned, owns, claimed⟩ := own id session found
    exact ⟨owned, owns, claimed.step stepped⟩
  intro other session found
  cases step_cases (start platform) stepped with
  | opened id operation free result =>
      rw [result] at found
      rcases lookup_insert_cases found with ⟨rfl, rfl⟩ | ⟨_, old⟩
      · exact ⟨none, program_owns platform operation, fun _ member => by cases member⟩
      · exact others old
  | rolledBack id result =>
      rw [result] at found
      exact others (lookup_erase_cases found).2
  | ran id point locks next held input wanted there asked guarded granted result =>
      rw [result] at found
      rcases lookup_insert_cases found with ⟨rfl, rfl⟩ | ⟨_, old⟩
      · obtain ⟨owned, owns, claimed⟩ := others there
        exact ⟨owned, owns input before.store, claimed⟩
      · exact others old
  | committed id point changes next held there guarded allowed result =>
      rw [result] at found
      rcases lookup_insert_cases found with ⟨rfl, rfl⟩ | ⟨_, old⟩
      · obtain ⟨owned, owns, _⟩ := others there
        have nothing : Claimed platform guard other none after := fun _ member => by cases member
        cases point with
        | commit name =>
            cases name with
            | deliverJob jobId attempt => exact ⟨none, owns.2, nothing⟩
            | claimJob jobId =>
                obtain ⟨row, written, rest⟩ := owns
                refine ⟨some (jobId, row.attempts), rest, ?_⟩
                intro job member
                obtain rfl := Option.some.inj member
                have commits : CommitStep guard other (.claimJob jobId) before after :=
                  ⟨changes, next, held, there, guarded, allowed, result⟩
                refine ⟨before, after, row, reachable, commits, ?_, rfl, .refl⟩
                obtain ⟨change, changed, image⟩ := Option.bind_eq_some_iff.mp written
                rw [result, jobAt, lookup_applyChanges, changed]
                exact image
            | _ => exact ⟨none, owns, nothing⟩
        | _ => exact ⟨none, owns, nothing⟩
      · exact others old

/-- Each session delivers only what it has claimed, in every reachable state. -/
theorem sessionsOwn_reachable {state : EngineState} (reachable : Reachable platform guard state) :
    SessionsOwn platform guard state := by
  obtain ⟨store, initial, run⟩ := reachable
  induction run with
  | refl =>
      intro id session found
      simp [State.idle] at found
  | tail sofar stepped inductionHypothesis =>
      exact sessionsOwn_step ⟨store, initial, sofar⟩ inductionHypothesis stepped

/-- A delivery records the attempt number that its own claim assigned. -/
theorem delivery_ownClaim {state after : EngineState} (reachable : Reachable platform guard state)
    {session : SessionId} {id : Uuid} {attempt : ℕ}
    (commits : CommitStep guard session (.deliverJob id attempt) state after) :
    OwnClaim platform guard session id attempt state := by
  obtain ⟨changes, next, held, found, _⟩ := commits
  obtain ⟨owned, owns, claimed⟩ := sessionsOwn_reachable reachable session _ found
  exact claimed (id, attempt) owns.1

end

/-! ## Settling -/

/-- A delivery finds its job not settled, and a claim finds a job with attempts left. -/
def settlesInTime : EngineGuard where
  statement := fun _ _ _ => true
  commit := fun point store => match point with
    | .commit (.deliverJob id _) => (jobAt store id).all fun row => !row.status.settled
    | .commit (.claimJob id) => (jobAt store id).all fun row => row.attempts < row.maxAttempts
    | _ => true

section

variable {name : TransactionName} {id : Uuid}

/-- No move but a delivery changes a settled job. -/
theorem jobMove_settled {row : JobRow} {after : Option JobRow}
    (settled : row.status.settled = true) (move : JobMove name id (some row) after) :
    ∃ attempt, name = .deliverJob id attempt := by
  cases move with
  | suppressed _ reason suppressedAt waiting =>
      cases status : row.status <;> simp_all [JobStatus.settled, JobStatus.waiting]
  | claimed _ now transaction waiting =>
      cases status : row.status <;> simp_all [JobStatus.settled, JobStatus.waiting]
  | delivered _ job delivery completedAt transaction => exact ⟨job.attempts, transaction⟩
  | released _ now transaction running =>
      rw [running] at settled
      cases settled

/-- The budget of a job: within a claim its attempts are below the limit while it waits. -/
def Budget (name : TransactionName) (id : Uuid) (row : JobRow) : Prop :=
  row.attempts ≤ row.maxAttempts ∧
    (name = .claimJob id → row.status.waiting = true → row.attempts < row.maxAttempts)

/-- A move keeps the budget. -/
theorem jobMove_budget {before : Option JobRow} {row : JobRow}
    (kept : ∀ earlier, before = some earlier → Budget name id earlier)
    (move : JobMove name id before (some row)) : Budget name id row := by
  cases move with
  | queued _ queued =>
      have limit : row.attempts < row.maxAttempts := by
        rw [queued.attempts, queued.maxAttempts]
        decide
      exact ⟨limit.le, fun _ _ => limit⟩
  | suppressed earlier reason suppressedAt waiting =>
      refine ⟨(kept earlier rfl).1, fun _ again => ?_⟩
      cases again
  | claimed earlier now transaction waiting =>
      refine ⟨(kept earlier rfl).2 transaction waiting, fun _ again => ?_⟩
      cases again
  | delivered earlier job delivery completedAt transaction =>
      refine ⟨(kept earlier rfl).1, fun claim => ?_⟩
      rw [transaction] at claim
      cases claim
  | released earlier now transaction running =>
      refine ⟨(kept earlier rfl).1, fun claim => ?_⟩
      rw [transaction] at claim
      cases claim

/-- The moves of a transaction keep the budget. -/
theorem jobMoves_budget {before after : Option JobRow}
    (kept : ∀ row, before = some row → Budget name id row)
    (moves : Relation.ReflTransGen (JobMove name id) before after) :
    ∀ row, after = some row → Budget name id row := by
  induction moves with
  | refl => exact kept
  | tail _ move inductionHypothesis =>
      rintro row rfl
      exact jobMove_budget inductionHypothesis move

end

section

variable {platform : Platform}

/-- No job has more attempts than it may have. -/
theorem attempts_within {state : EngineState} (reachable : Reachable platform settlesInTime state) :
    ∀ id row, jobAt state.store id = some row → row.attempts ≤ row.maxAttempts := by
  refine reachable_keeps
    (fun store => ∀ id row, jobAt store id = some row → row.attempts ≤ row.maxAttempts)
    ?_ ?_ reachable
  · intro store initial id row found
    have absent : store.lookup (.job id) = none := initial (.job id) (by simp)
    rw [jobAt, absent] at found
    cases found
  · intro name known store next within transacts id row found
    refine (jobMoves_budget ?_ (transacts.effect.jobs.moves id) row found).1
    intro earlier there
    refine ⟨within id earlier there, ?_⟩
    rintro rfl _
    have guarded := transacts.guarded
    simpa [settlesInTime, there] using guarded

/-- A settled job stays as it is. -/
theorem settled_stays {before after : EngineState}
    (reachable : Reachable platform settlesInTime before)
    (run : Runs (start platform) settlesInTime before after) {id : Uuid} {row : JobRow}
    (found : jobAt before.store id = some row) (settled : row.status.settled = true) :
    jobAt after.store id = some row := by
  refine runs_keep (fun store => jobAt store id = some row) ?_ reachable found run
  intro name known store next there transacts
  have moves := transacts.effect.jobs.moves id
  rw [there] at moves
  rcases Relation.ReflTransGen.cases_head moves with same | ⟨after, first, _⟩
  · exact same.symm
  · obtain ⟨attempt, rfl⟩ := jobMove_settled settled first
    have guarded := transacts.guarded
    simp [settlesInTime, there, settled] at guarded

end

/-- Under a guard, jobs settle once: a settled job keeps its status, payload and
result, no job is claimed more often than it may be, and a delivery records,
for the first time, the attempt number that its own claim assigned. -/
def JobsSettleOnce (platform : Platform) (guard : EngineGuard) : Prop :=
  ∀ before, Reachable platform guard before →
    (∀ id row, jobAt before.store id = some row → row.attempts ≤ row.maxAttempts) ∧
    (∀ after, Runs (start platform) guard before after → ∀ id row,
      jobAt before.store id = some row → row.status.settled = true →
      ∃ last, jobAt after.store id = some last ∧ last.status = row.status ∧
        last.payload = row.payload ∧ last.result = row.result) ∧
    ∀ session id attempt after, CommitStep guard session (.deliverJob id attempt) before after →
      OwnClaim platform guard session id attempt before ∧
        attemptAt before.store id attempt = none ∧ (attemptAt after.store id attempt).isSome

/-- Jobs settle once in every run in which no delivery finds its job settled and
no claim finds its attempts used up. -/
theorem jobs_settle_once (platform : Platform) : JobsSettleOnce platform settlesInTime := by
  intro before reachable
  refine ⟨attempts_within reachable, ?_, ?_⟩
  · intro after run id row found settled
    exact ⟨row, settled_stays reachable run found settled, rfl, rfl, rfl⟩
  · intro session id attempt after commits
    obtain ⟨known, transacts⟩ := commits.transacts reachable
    obtain ⟨row, job, inserted, delivers⟩ := transacts.effect.delivers id attempt rfl
    exact ⟨delivery_ownClaim reachable commits, delivers.fresh,
      Option.isSome_of_eq_some delivers.recorded⟩

/-- A notification that participant data is ready. -/
def notification : DataNotification :=
  ⟨9, Sample.tenantId, PARTICIPANT_DATA_READY, Sample.nothing⟩

/-- A moment at which the data request calls for the notification. -/
def ready (now : Time) : Outside :=
  { Sample.moment now 1 with
    dataRequest := some ⟨js "ready", some (js "approved")⟩, thrown := some (js "late") }

/-- A job is queued and claimed, released as stale, and claimed again and settled. -/
def settling : List EngineLabel :=
  Sample.session 1 (.queueOneParticipantDataNotification notification)
      [Sample.moment 0 0, Sample.moment 0 1] ++
    [.openSession 2 .claimAndDeliver, .statement 2 (ready 0), .commit 2] ++
    Sample.session 3 .recoverStaleJobs [Sample.moment 600001 0] ++
    [.openSession 4 .claimAndDeliver, .statement 4 (ready 600001), .commit 4] ++
    List.replicate 5 (.statement 4 (Sample.moment 600002 1)) ++ [.commit 4]

/-- The first delivery fails late. -/
def lateDelivery : List EngineLabel :=
  List.replicate 6 (.statement 2 (ready 600003)) ++ [.commit 2]

/-- A delivery that outlives its claim puts a settled job back. -/
theorem settled_job_returns :
    ¬ JobsSettleOnce Sample.platform (Guard.none Row Outside Point) := by
  intro settles
  have run : ((execute (start Sample.platform) (Guard.none Row Outside Point) Sample.idle
      settling).bind fun before =>
        (execute (start Sample.platform) (Guard.none Row Outside Point) before lateDelivery).map
          fun after => ((jobAt before.store 1).map JobRow.status,
            (jobAt after.store 1).map JobRow.status)) =
      some (some .completed, some .participantPending) := by
    decide +kernel
  obtain ⟨before, reached, run⟩ := Option.bind_eq_some_iff.mp run
  obtain ⟨after, continued, statuses⟩ := Option.map_eq_some_iff.mp run
  obtain ⟨completed, waiting⟩ := Prod.mk.inj statuses
  obtain ⟨row, found, status⟩ := Option.map_eq_some_iff.mp completed
  obtain ⟨_, lasting, _⟩ := settles before (Sample.execute_reachable reached)
  obtain ⟨last, there, same, _⟩ := lasting after
    (execute_runs (start Sample.platform) lateDelivery before after continued) 1 row found
    (by rw [status]; rfl)
  rw [there] at waiting
  have late : last.status = .participantPending := Option.some.inj waiting
  rw [same, status] at late
  cases late

end Vasi.JobRuns
