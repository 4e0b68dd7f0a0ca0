import Vasi.CaseSteps

/-!
# How the rows of the engine move

The effect of a commit keeps the invariant of the contract and is a move open to
sessions that hold other rows. For a job this is a fact about each of its moves:
the identity of the job stays and its attempts never go down. For a case it is
the facts about its steps.
-/
namespace Vasi.EngineEffects

open JsValue ReadCommitted EngineRows EvidenceEvents EngineCases EvidenceStore Outbox Worker


variable {platform : Platform} {guard : EngineGuard} {name : TransactionName}

/-! ## Jobs -/

/-- A job that moves is still there, is the same job, and has as many attempts or more. -/
theorem JobMove.same {id : Uuid} {row : JobRow} {after : Option JobRow}
    (move : JobMove name id (some row) after) :
    ∃ moved, after = some moved ∧ SameJob row moved ∧ row.attempts ≤ moved.attempts := by
  cases move with
  | suppressed _ reason suppressedAt waiting =>
      exact ⟨_, rfl, by constructor <;> rfl, le_refl _⟩
  | claimed _ now transaction waiting =>
      exact ⟨_, rfl, by constructor <;> rfl, Nat.le_succ _⟩
  | delivered _ job delivery completedAt transaction same attempts =>
      exact ⟨_, rfl, by constructor <;> rfl, le_refl _⟩
  | released _ now transaction running =>
      exact ⟨_, rfl, by constructor <;> rfl, le_refl _⟩

/-- The same after any number of moves. -/
theorem jobMoves_same {id : Uuid} {row : JobRow} {after : Option JobRow}
    (moves : Relation.ReflTransGen (JobMove name id) (some row) after) :
    ∃ moved, after = some moved ∧ SameJob row moved ∧ row.attempts ≤ moved.attempts := by
  induction moves with
  | refl => exact ⟨row, rfl, SameJob.refl row, le_refl _⟩
  | tail _ move inductionHypothesis =>
      obtain ⟨middle, rfl, same, attempts⟩ := inductionHypothesis
      obtain ⟨moved, rfl, movedSame, movedAttempts⟩ := JobMove.same move
      exact ⟨moved, rfl, same.trans movedSame, attempts.trans movedAttempts⟩

/-! ## Cases -/

/-- An issued case belongs to a tenant whose admission the transaction has locked. -/
theorem CaseMove.issued_tenant {known : List (Sigma Row)} {after : Option Case}
    (move : CaseMove platform guard name known none after) :
    ∃ record row, after = some record ∧
      (⟨.admission record.request.tenantId, row⟩ : Sigma Row) ∈ known ∧
      row.admission.admitted = true := by
  cases move with
  | issued command now requestId assignmentId eventId eventType after row transaction admission
      admitted step =>
      obtain ⟨event, chain, _, rfl⟩ := appendCase_ok step
      exact ⟨_, row, rfl, admission, admitted⟩
  | issuedTerms command now requestId assignmentId eventId after row transaction admission admitted
      step =>
      obtain ⟨event, chain, _, rfl⟩ := appendCase_ok step
      exact ⟨_, row, rfl, admission, admitted⟩

/-- A case that is there stays there. -/
theorem Effect.case_kept {known : List (Sigma Row)} {store next : EngineStore}
    (effect : Effect platform guard name known store next) {requestId : Uuid} {record : Case}
    (found : caseAt store requestId = some record) :
    ∃ after, caseAt next requestId = some after ∧
      (after = record ∨ CaseStep platform guard name record after) := by
  rcases effect.cases requestId with same | move
  · exact ⟨record, same.trans found, .inl rfl⟩
  · rw [found] at move
    generalize result : caseAt next requestId = changed at move
    cases move with
    | stepped _ after step => exact ⟨after, rfl, .inr step⟩

/-- A case that was not there has been issued. -/
theorem Effect.case_new {known : List (Sigma Row)} {store next : EngineStore}
    (effect : Effect platform guard name known store next) {requestId : Uuid} {record : Case}
    (absent : caseAt store requestId = none) (found : caseAt next requestId = some record) :
    CaseMove platform guard name known none (some record) := by
  rcases effect.cases requestId with same | move
  · rw [absent, found] at same
    cases same
  · rwa [absent, found] at move

/-! ## The contract keeps its word -/

/-- Every job has its request after a transaction that queues only for requests that are there. -/
theorem Effect.jobsHaveRequests {known : List (Sigma Row)} {store next : EngineStore}
    (effect : Effect platform guard name known store next) (kept : JobsHaveRequests store) :
    JobsHaveRequests next := by
  intro id row requestId found request
  rcases effect.queuedFor id row requestId found request with ⟨earlier, there, same⟩ | there
  · obtain ⟨record, recordFound⟩ :=
      Option.isSome_iff_exists.mp (kept id earlier requestId there same)
    obtain ⟨after, afterFound, _⟩ := effect.case_kept recordFound
    exact Option.isSome_of_eq_some afterFound
  · exact there

/-- A transaction is a move open to the sessions that hold what it has not locked. -/
theorem Effect.moves {known : List (Sigma Row)} {store next : EngineStore}
    (effect : Effect platform guard name known store next) {held : Key → Prop}
    (apart : ∀ row ∈ known, ¬ held row.1) : Moves held store next where
  cases := by
    intro requestId record found
    obtain ⟨after, afterFound, rfl | step⟩ := effect.case_kept found
    · exact ⟨after, afterFound, rfl, id⟩
    · refine ⟨after, afterFound, ?_, step.ended⟩
      rw [step.same.request]
  issued := by
    intro tenantId isHeld requestId record found tenant
    cases absent : caseAt store requestId with
    | some earlier => rfl
    | none =>
        obtain ⟨issued, row, same, admission, _⟩ :=
          CaseMove.issued_tenant (effect.case_new absent found)
        obtain rfl : record = issued := Option.some.inj same
        rw [tenant] at admission
        exact absurd isHeld (apart _ admission)
  jobs := by
    intro id row found
    have moves := effect.jobs.moves id
    rw [found] at moves
    exact jobMoves_same moves
  queued := by
    intro requestId isHeld there id row found request
    rcases effect.jobs.queued id row requestId found request with earlier | locked | absent
    · exact earlier
    · obtain ⟨known, member, same⟩ := List.mem_map.mp locked
      exact absurd isHeld (same ▸ apart known member)
    · rw [absent] at there
      cases there
  gatewayAttempts := by
    intro id attempt row found
    rcases effect.gatewayAttempts id attempt with same | ⟨fresh, _⟩
    · exact same.trans found
    · rw [found] at fresh
      cases fresh

/-- Commits keep the invariant of the contract and are moves. -/
theorem engineContract_keeps (point : Point) (known : List (Sigma Row))
    (before after : EngineStore)
    (commits : (engineContract platform guard).Commits point known before after) :
    JobsHaveRequests after ∧
      ∀ held, (∀ row ∈ known, ¬ held row.1) → Moves held before after := by
  have effect : commitEffect platform guard point known before after := commits.effect
  cases point with
  | commit name =>
      have effect : Effect platform guard name known before after := effect
      exact ⟨effect.jobsHaveRequests commits.kept, fun _ apart => effect.moves apart⟩
  | _ => exact effect.elim

end Vasi.EngineEffects
