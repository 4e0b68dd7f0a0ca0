import Vasi.EngineMoves

/-!
# Rules for the parts of the engine's transactions

One rule for each part that the programs share: reading a clock, locking a case,
refusing, queueing a notification, updating jobs, inserting a row. Each says what
the session knows after the part and what its commit would do to the jobs by
then; what it would do to the other rows is read off the recorded changes.
-/
namespace Vasi.EngineEffects

open JsValue IsoTime ReadCommitted EngineRows EvidenceEvents EngineCases Notifications Outbox
  EvidenceStore Worker

variable {platform : Platform} {guard : EngineGuard} {α : Type}
  {changes : EngineChanges} {knowledge : Knowledge Row}

/-! ## Reading and refusing -/

section

variable {continuation : α → EngineChanges → EngineScript}

/-- The points whose statements promise nothing. -/
def Plain (point : Point) : Prop :=
  ∀ input store wanted next, statementPromise point input store wanted next

theorem plain_statement : Plain .statement := fun _ _ _ _ => trivial

/-- A statement at a plain point. -/
theorem meets_plainQuery {point : Point}
    {body : Outside → EngineStore → Option (List (Key × LockMode) × α)} (plain : Plain point)
    (rest : ∀ input store locks value, knowledge.Allows (engineContract platform guard) store →
      guard.statement point input store → body input (applyChanges store changes) =
        some (locks, value) →
      (continuation value changes).Meets (engineContract platform guard)
        (knowledge.after store locks)) :
    (query point body continuation changes).Meets (engineContract platform guard) knowledge :=
  meets_query fun input store locks value allowed guarded answered =>
    ⟨plain input store locks _, rest input store locks value allowed guarded answered⟩

/-- Rows that are read without a lock. -/
theorem meets_readRows {point : Point} {body : Outside → EngineStore → α} (plain : Plain point)
    (rest : ∀ input store, knowledge.Allows (engineContract platform guard) store →
      guard.statement point input store →
      (continuation (body input (applyChanges store changes)) changes).Meets
        (engineContract platform guard) (knowledge.after store [])) :
    (readRows point body continuation changes).Meets (engineContract platform guard)
      knowledge := by
  unfold readRows
  refine meets_plainQuery plain ?_
  intro input store locks value allowed guarded answered
  obtain ⟨rfl, rfl⟩ := Prod.mk.inj (Option.some.inj answered)
  exact rest input store allowed guarded

/-- A value from outside. -/
theorem meets_fromOutside {point : Point} {body : Outside → α} (plain : Plain point)
    (rest : ∀ input store later, knowledge.Later later (engineContract platform guard) →
      guard.statement point input store →
      (continuation (body input) changes).Meets (engineContract platform guard) later) :
    (fromOutside point body continuation changes).Meets (engineContract platform guard)
      knowledge := by
  unfold fromOutside
  refine meets_readRows plain ?_
  intro input store allowed guarded
  exact rest input store _ (allowed.later []) guarded

theorem meets_orRefuse {result : Except JsString α}
    (rest : ∀ value, result = .ok value →
      (continuation value changes).Meets (engineContract platform guard) knowledge) :
    (orRefuse result continuation changes).Meets (engineContract platform guard) knowledge := by
  cases result with
  | error code => exact trivial
  | ok value => exact rest value rfl

theorem meets_require {condition : Bool} {code : JsString}
    {continuation : Unit → EngineChanges → EngineScript}
    (rest : condition = true →
      (continuation () changes).Meets (engineContract platform guard) knowledge) :
    (require condition code continuation changes).Meets (engineContract platform guard)
      knowledge := by
  cases condition with
  | false => exact trivial
  | true => exact rest rfl

end

theorem meets_clock {continuation : Time → EngineChanges → EngineScript}
    (rest : ∀ now later, knowledge.Later later (engineContract platform guard) →
      (continuation now changes).Meets (engineContract platform guard) later) :
    (clock continuation changes).Meets (engineContract platform guard) knowledge :=
  meets_fromOutside plain_statement fun input _ later moreKnown _ =>
    rest input.clock later moreKnown

theorem meets_randomUUID {continuation : Uuid → EngineChanges → EngineScript}
    (rest : ∀ uuid later, knowledge.Later later (engineContract platform guard) →
      (continuation uuid changes).Meets (engineContract platform guard) later) :
    (randomUUID continuation changes).Meets (engineContract platform guard) knowledge :=
  meets_fromOutside plain_statement fun input _ later moreKnown _ =>
    rest input.uuid later moreKnown

/-- A row that a transaction has not changed is seen as it is committed. -/
theorem lookup_untouched {store : EngineStore} {key : Key} (untouched : changes.lookup key = none) :
    (applyChanges store changes).lookup key = store.lookup key := by
  rw [lookup_applyChanges, untouched]
  rfl

/-- A locked row is known, and held if it is locked for update. -/
theorem meets_lockRow {key : Key} {mode : LockMode}
    {continuation : Row key → EngineChanges → EngineScript}
    (untouched : changes.lookup key = none)
    (rest : ∀ row later, knowledge.Later later (engineContract platform guard) →
      (⟨key, row⟩ : Sigma Row) ∈ later.known → (mode = .update → key ∈ later.mine) →
      (continuation row changes).Meets (engineContract platform guard) later) :
    (lockRow key mode continuation changes).Meets (engineContract platform guard) knowledge := by
  refine meets_plainQuery plain_statement fun input store locks row allowed _ answered => ?_
  obtain ⟨found, there, result⟩ := Option.map_eq_some_iff.mp answered
  obtain ⟨rfl, rfl⟩ := Prod.mk.inj result
  rw [lookup_untouched untouched] at there
  refine rest found _ (allowed.later _) (Knowledge.mem_after (List.mem_singleton.mpr rfl) there)
    fun forUpdate => ?_
  subst forUpdate
  exact List.mem_append_left _
    (mem_keysAt.mpr ⟨List.mem_singleton.mpr rfl, Option.isSome_of_eq_some there⟩)

/-- The session has locked the case of a request for update. -/
structure HasLocked (knowledge : Knowledge Row) (requestId : Uuid) (record : Case) : Prop where
  known : (⟨.request requestId, record⟩ : Sigma Row) ∈ knowledge.known
  mine : Key.request requestId ∈ knowledge.mine
  requestId : record.requestId = requestId

theorem HasLocked.later {later : Knowledge Row} {requestId : Uuid} {record : Case}
    (locked : HasLocked knowledge requestId record)
    (moreKnown : knowledge.Later later (engineContract platform guard)) :
    HasLocked later requestId record :=
  ⟨moreKnown.known locked.known, moreKnown.mine locked.mine, locked.requestId⟩

/-- A locked case is the committed one. -/
theorem HasLocked.found {requestId : Uuid} {record : Case} {store : EngineStore}
    (locked : HasLocked knowledge requestId record)
    (allowed : knowledge.Allows (engineContract platform guard) store) :
    caseAt store requestId = some record :=
  caseAt_eq_some.mpr ⟨allowed.current _ locked.known, locked.requestId⟩

/-- A case is seen as it is committed until the transaction changes it. -/
theorem caseAt_untouched {store : EngineStore} {requestId : Uuid}
    (untouched : changes.lookup (.request requestId) = none) :
    caseAt (applyChanges store changes) requestId = caseAt store requestId := by
  rw [caseAt, lookup_untouched untouched, caseAt]

/-- A statement that finds a case and locks it. -/
theorem hasLocked_after {store : EngineStore} {requestId : Uuid} {record : Case}
    {locks : List (Key × LockMode)} (locked : (Key.request requestId, LockMode.update) ∈ locks)
    (found : caseAt store requestId = some record) :
    HasLocked (knowledge.after store locks) requestId record := by
  obtain ⟨there, same⟩ := caseAt_eq_some.mp found
  refine ⟨Knowledge.mem_after locked there, List.mem_append_left _ ?_, same⟩
  exact mem_keysAt.mpr ⟨locked, Option.isSome_of_eq_some there⟩

theorem meets_lockCase {requestId : Uuid} {continuation : Case → EngineChanges → EngineScript}
    (untouched : changes.lookup (.request requestId) = none)
    (rest : ∀ record later, knowledge.Later later (engineContract platform guard) →
      HasLocked later requestId record →
      (continuation record changes).Meets (engineContract platform guard) later) :
    (lockCase requestId continuation changes).Meets (engineContract platform guard)
      knowledge := by
  refine meets_plainQuery plain_statement fun input store locks record allowed _ answered => ?_
  obtain ⟨found, there, result⟩ := Option.map_eq_some_iff.mp answered
  obtain ⟨rfl, rfl⟩ := Prod.mk.inj result
  rw [caseAt_untouched untouched] at there
  refine rest found _ (allowed.later _) (hasLocked_after ?_ there)
  rw [caseLocks, (caseAt_eq_some.mp there).2]
  exact List.mem_singleton.mpr rfl

/-- A row that is not seen had no change, unless it was deleted. -/
theorem absent_untouched {store : EngineStore} {key : Key}
    (undeleted : changes.lookup key ≠ some .delete)
    (absent : (applyChanges store changes).lookup key = none) : changes.lookup key = none := by
  rw [lookup_applyChanges] at absent
  cases change : changes.lookup key with
  | none => rfl
  | some found =>
      rw [change] at absent
      cases found with
      | delete => exact absurd change undeleted
      | insert image | update image => cases absent

/-- A row that is inserted had no change before. -/
theorem meets_insertNew {key : Key} {row : Row key}
    {continuation : Unit → EngineChanges → EngineScript}
    (undeleted : changes.lookup key ≠ some .delete)
    (rest : ∀ later, knowledge.Later later (engineContract platform guard) →
      changes.lookup key = none →
      (continuation () (changes.insertRow key row)).Meets (engineContract platform guard) later) :
    (insertNew key row continuation changes).Meets (engineContract platform guard)
      knowledge := by
  change Script.Meets (engineContract platform guard)
    (query .statement (fun _ view => if (view.lookup key).isNone then some ([], ()) else none)
      (fun _ changes => continuation () (changes.insertRow key row)) changes) knowledge
  refine meets_plainQuery plain_statement ?_
  intro input store locks value allowed _ answered
  obtain ⟨absent, result⟩ := Option.ite_none_right_eq_some.mp answered
  obtain ⟨rfl, _⟩ := Prod.mk.inj (Option.some.inj result)
  exact rest _ (allowed.later [])
    (absent_untouched undeleted (Option.isNone_iff_eq_none.mp absent))

/-! ## Plans -/

/-- The requests that a transaction may queue for: those it has locked and those
it inserts. -/
def Queueable (knowledge : Knowledge Row) (changes : EngineChanges) (requestId : Uuid) : Prop :=
  (∃ record, HasLocked knowledge requestId record) ∨
    ∃ record, changes.lookup (.request requestId) = some (.insert record)

/-- How the recorded changes change the case of a request. -/
inductive CaseChange (platform : Platform) (guard : EngineGuard) (name : TransactionName)
    (knowledge : Knowledge Row) (requestId : Uuid) : Option (Change Case) → Prop where
  | untouched : CaseChange platform guard name knowledge requestId none
  | stepped (record after : Case) (locked : HasLocked knowledge requestId record)
      (step : CaseStep platform guard name record after) :
      CaseChange platform guard name knowledge requestId (some (.update after))
  | inserted (after : Case) (named : after.requestId = requestId)
      (move : CaseMove platform guard name knowledge.known none (some after)) :
      CaseChange platform guard name knowledge requestId (some (.insert after))

/-- What the recorded changes of a transaction come to: no row is deleted, cases
take the steps that are open to it, and so do jobs when it commits. -/
structure Plan (platform : Platform) (guard : EngineGuard) (name : TransactionName)
    (knowledge : Knowledge Row) (changes : EngineChanges) : Prop where
  undeleted : ∀ key, changes.lookup key ≠ some .delete
  cases : ∀ requestId,
    CaseChange platform guard name knowledge requestId (changes.lookup (Key.request requestId))
  jobs : (engineContract platform guard).Pending knowledge changes
    (JobEffect name (Queueable knowledge changes))

variable {name : TransactionName}

theorem Queueable.later {later : Knowledge Row} {requestId : Uuid}
    (queueable : Queueable knowledge changes requestId)
    (moreKnown : knowledge.Later later (engineContract platform guard)) :
    Queueable later changes requestId := by
  rcases queueable with ⟨record, locked⟩ | inserted
  · exact .inl ⟨record, locked.later moreKnown⟩
  · exact .inr inserted

theorem CaseMove.later {first second : List (Sigma Row)} {before after : Option Case}
    (move : CaseMove platform guard name first before after) (moreKnown : first ⊆ second) :
    CaseMove platform guard name second before after := by
  cases move with
  | stepped record after step => exact .stepped record after step
  | issued command now requestId assignmentId eventId eventType after row transaction admission
      admitted step =>
      exact .issued command now requestId assignmentId eventId eventType after row transaction
        (moreKnown admission) admitted step
  | issuedTerms command now requestId assignmentId eventId after row transaction admission admitted
      step =>
      exact .issuedTerms command now requestId assignmentId eventId after row transaction
        (moreKnown admission) admitted step

theorem CaseChange.later {later : Knowledge Row} {requestId : Uuid} {change : Option (Change Case)}
    (planned : CaseChange platform guard name knowledge requestId change)
    (moreKnown : knowledge.Later later (engineContract platform guard)) :
    CaseChange platform guard name later requestId change := by
  cases planned with
  | untouched => exact .untouched
  | stepped record after locked step => exact .stepped record after (locked.later moreKnown) step
  | inserted after named move => exact .inserted after named (move.later moreKnown.known)

theorem JobEffect.allow {fewer more : Uuid → Prop} {store next : EngineStore}
    (effect : JobEffect name fewer store next) (allowed : ∀ requestId, fewer requestId →
      more requestId) : JobEffect name more store next where
  moves := effect.moves
  queued := fun id row requestId found request =>
    (effect.queued id row requestId found request).imp_right (allowed requestId)
  limit := effect.limit

theorem JobEffect.refl {allowed : Uuid → Prop} (store : EngineStore) :
    JobEffect name allowed store store where
  moves := fun _ => .refl
  queued := fun _ row _ found request => .inl ⟨row, found, request⟩
  limit := fun _ => le_max_right _ _

/-- A plan stands as the session comes to know more. -/
theorem Plan.later {later : Knowledge Row} (plan : Plan platform guard name knowledge changes)
    (moreKnown : knowledge.Later later (engineContract platform guard)) :
    Plan platform guard name later changes where
  undeleted := plan.undeleted
  cases := fun requestId => (plan.cases requestId).later moreKnown
  jobs := fun store allowed admissible =>
    (plan.jobs store (moreKnown.allows allowed) admissible).allow
      fun _ queueable => queueable.later moreKnown

variable (name) in
theorem Plan.empty : Plan platform guard name knowledge ∅ where
  undeleted := by
    intro key deleted
    rw [AList.lookup_empty] at deleted
    cases deleted
  cases := by
    intro requestId
    rw [AList.lookup_empty]
    exact .untouched
  jobs := Contract.Pending.empty JobEffect.refl

/-- The changes of other rows are the same. -/
def SameElsewhere (before after : EngineChanges) : Prop :=
  ∀ key, (∀ id, key ≠ .job id) → after.lookup key = before.lookup key

end Vasi.EngineEffects
