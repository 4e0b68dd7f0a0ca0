import Vasi.EngineRules

/-!
# Rules for the outbox

What the updates of jobs and the insertion of a job add to the plan of a
transaction. A job that is updated was locked where it was seen, so it is still
as it was when the transaction commits. A request that is held for update, or
inserted by the transaction itself, gains no job from another session, so the
count that queueing has checked still bounds its jobs at the commit.
-/
namespace Vasi.EngineEffects

open JsValue IsoTime ReadCommitted EngineRows EvidenceEvents EngineCases Notifications Outbox

variable {platform : Platform} {guard : EngineGuard} {name : TransactionName}
  {changes : EngineChanges} {knowledge : Knowledge Row} {store middle next : EngineStore}

/-! ## Effects on jobs -/

/-- A job is counted once for its request. -/
theorem requestJobs_distinct (store : EngineStore) (requestId : Uuid) :
    ((requestJobs store requestId).map Prod.fst).Nodup :=
  (jobRows_distinct store).sublist (List.filter_sublist.map Prod.fst)

theorem mem_requestJobs {store : EngineStore} {requestId id : Uuid} :
    id ∈ (requestJobs store requestId).map Prod.fst ↔
      ∃ row, jobAt store id = some row ∧ row.requestId = some requestId := by
  constructor
  · intro member
    obtain ⟨⟨_, row⟩, found, rfl⟩ := List.mem_map.mp member
    obtain ⟨there, request⟩ := List.mem_filter.mp found
    exact ⟨row, mem_jobRows.mp there, of_decide_eq_true request⟩
  · rintro ⟨row, there, request⟩
    exact List.mem_map.mpr ⟨(id, row), List.mem_filter.mpr
      ⟨mem_jobRows.mpr there, decide_eq_true request⟩, rfl⟩

/-- A request has no more jobs than where each of them is its job as well. -/
theorem requestJobs_length_le {first second : EngineStore} {requestId : Uuid}
    (kept : ∀ id row, jobAt first id = some row → row.requestId = some requestId →
      ∃ earlier, jobAt second id = some earlier ∧ earlier.requestId = some requestId) :
    (requestJobs first requestId).length ≤ (requestJobs second requestId).length := by
  have contained : (requestJobs first requestId).map Prod.fst ⊆
      (requestJobs second requestId).map Prod.fst := by
    intro id member
    obtain ⟨row, there, request⟩ := mem_requestJobs.mp member
    exact mem_requestJobs.mpr (kept id row there request)
  have bounded := ((requestJobs_distinct first requestId).subperm contained).length_le
  rwa [List.length_map, List.length_map] at bounded

/-- An inserted job adds one to the jobs of a request at most. -/
theorem requestJobs_length_insert {id requestId : Uuid}
    (others : ∀ other, other ≠ id → jobAt next other = jobAt middle other) :
    (requestJobs next requestId).length ≤ (requestJobs middle requestId).length + 1 := by
  have distinct : ((requestJobs next requestId).map Prod.fst).Nodup :=
    requestJobs_distinct next requestId
  have contained : (requestJobs next requestId).map Prod.fst ⊆
      id :: (requestJobs middle requestId).map Prod.fst := by
    intro found member
    by_cases same : found = id
    · exact List.mem_cons.mpr (.inl same)
    · obtain ⟨other, there, request⟩ := mem_requestJobs.mp member
      rw [others found same] at there
      exact List.mem_cons_of_mem _ (mem_requestJobs.mpr ⟨other, there, request⟩)
  have bounded := (distinct.subperm contained).length_le
  rwa [List.length_cons, List.length_map, List.length_map] at bounded

/-- Each job stays or moves once more. -/
theorem JobEffect.step {allowed : Uuid → Prop} (effect : JobEffect name allowed store middle)
    (moved : ∀ id, jobAt next id = jobAt middle id ∨ ∃ row after, jobAt middle id = some row ∧
      jobAt next id = some after ∧ JobMove name id (some row) (some after)) :
    JobEffect name allowed store next := by
  have before : ∀ id row requestId, jobAt next id = some row → row.requestId = some requestId →
      ∃ earlier, jobAt middle id = some earlier ∧ earlier.requestId = some requestId := by
    intro id row requestId found request
    rcases moved id with same | ⟨earlier, after, there, result, move⟩
    · exact ⟨row, same.symm.trans found, request⟩
    · obtain rfl := Option.some.inj (result.symm.trans found)
      obtain ⟨moved, same, sameJob, _⟩ := JobMove.same move
      obtain rfl := Option.some.inj same
      exact ⟨earlier, there, sameJob.requestId.trans request⟩
  constructor
  · intro id
    rcases moved id with same | ⟨row, after, there, result, move⟩
    · rw [same]
      exact effect.moves id
    · rw [result]
      exact (effect.moves id).tail (there ▸ move)
  · intro id row requestId found request
    obtain ⟨earlier, there, same⟩ := before id row requestId found request
    exact effect.queued id earlier requestId there same
  · intro requestId
    have fewer := requestJobs_length_le fun id row => before id row requestId
    exact fewer.trans (effect.limit requestId)

/-- One more job is queued, for a request whose jobs stay within the limit. -/
theorem JobEffect.insert {allowed : Uuid → Prop} {id : Uuid} {row : JobRow}
    (effect : JobEffect name allowed store middle) (absent : jobAt middle id = none)
    (inserted : jobAt next id = some row)
    (others : ∀ other, other ≠ id → jobAt next other = jobAt middle other) (queued : Queued row)
    (request : ∀ requestId, row.requestId = some requestId → allowed requestId)
    (limit : ∀ requestId, row.requestId = some requestId →
      (requestJobs next requestId).length ≤ NOTIFICATION_JOB_LIMIT) :
    JobEffect name allowed store next := by
  constructor
  · intro other
    by_cases same : other = id
    · subst same
      have moves := effect.moves other
      rw [absent] at moves
      rw [inserted]
      exact moves.tail (.queued row queued)
    · rw [others other same]
      exact effect.moves other
  · intro other found requestId there named
    by_cases same : other = id
    · subst same
      obtain rfl := Option.some.inj (inserted.symm.trans there)
      exact .inr (request requestId named)
    · rw [others other same] at there
      exact effect.queued other found requestId there named
  · intro requestId
    by_cases named : row.requestId = some requestId
    · exact (limit requestId named).trans (le_max_left _ _)
    · refine (requestJobs_length_le ?_).trans (effect.limit requestId)
      intro other found there request
      by_cases same : other = id
      · subst same
        obtain rfl := Option.some.inj (inserted.symm.trans there)
        exact absurd request named
      · exact ⟨found, (others other same).symm.trans there, request⟩

/-! ## Updates of jobs -/

/-- The changes that an update statement records. -/
def updateRows (changes : EngineChanges) (rows : List (Uuid × JobRow)) : EngineChanges :=
  rows.foldl (fun changes job => changes.updateRow (.job job.1) job.2) changes

/-- The rows that are not updated keep their change. -/
theorem lookup_updateRows_other (rows : List (Uuid × JobRow)) (changes : EngineChanges) (key : Key)
    (other : ∀ job ∈ rows, key ≠ .job job.1) :
    (updateRows changes rows).lookup key = changes.lookup key := by
  induction rows generalizing changes with
  | nil => rfl
  | cons job rest inductionHypothesis =>
      have later := inductionHypothesis (changes.updateRow (.job job.1) job.2)
        fun found member => other found (List.mem_cons_of_mem _ member)
      have first := other job List.mem_cons_self
      exact later.trans (Changes.lookup_updateRow_other changes _ key job.2 first)

/-- Each updated row has its new image, inserted if the transaction had inserted it. -/
theorem lookup_updateRows (rows : List (Uuid × JobRow)) (changes : EngineChanges)
    (distinct : (rows.map Prod.fst).Nodup) (job : Uuid × JobRow) (member : job ∈ rows) :
    (updateRows changes rows).lookup (.job job.1) =
      some (Change.renew (changes.lookup (Key.job job.1)) job.2) := by
  induction rows generalizing changes with
  | nil => cases member
  | cons first rest inductionHypothesis =>
      obtain ⟨fresh, distinctRest⟩ := List.nodup_cons.mp distinct
      rcases List.mem_cons.mp member with rfl | later
      · have kept := lookup_updateRows_other rest (changes.updateRow (.job job.1) job.2)
          (.job job.1) fun found foundMember same =>
            fresh (List.mem_map.mpr ⟨found, foundMember, (Key.job.inj same).symm⟩)
        exact kept.trans (Changes.lookup_updateRow_same changes (Key.job job.1) job.2)
      · have apart : job.1 ≠ first.1 := by
          intro same
          exact fresh (same ▸ List.mem_map.mpr ⟨job, later, rfl⟩)
        have result := inductionHypothesis (changes.updateRow (.job first.1) first.2) distinctRest
          later
        rw [Changes.lookup_updateRow_other changes _ (Key.job job.1) first.2
          fun same => apart (Key.job.inj same)] at result
        exact result

theorem updateRows_undeleted (rows : List (Uuid × JobRow)) {changes : EngineChanges}
    (undeleted : ∀ key, changes.lookup key ≠ some .delete) (key : Key) :
    (updateRows changes rows).lookup key ≠ some .delete := by
  induction rows generalizing changes with
  | nil => exact undeleted key
  | cons job rest inductionHypothesis =>
      exact inductionHypothesis (Changes.updateRow_undeleted undeleted)

/-- Changes without the updates are admissible where all of them are. -/
theorem updateRows_admissible (rows : List (Uuid × JobRow)) (changes : EngineChanges)
    (undeleted : ∀ key, changes.lookup key ≠ some .delete)
    (admissible : Admissible store (updateRows changes rows)) : Admissible store changes := by
  induction rows generalizing changes with
  | nil => exact admissible
  | cons job rest inductionHypothesis =>
      have later := inductionHypothesis (changes.updateRow (.job job.1) job.2)
        (Changes.updateRow_undeleted undeleted) admissible
      exact later.of_updateRow (undeleted _)

theorem Queueable.elsewhere {later : EngineChanges} {requestId : Uuid}
    (queueable : Queueable knowledge changes requestId) (same : SameElsewhere changes later) :
    Queueable knowledge later requestId := by
  rcases queueable with locked | ⟨record, inserted⟩
  · exact .inl locked
  · refine .inr ⟨record, ?_⟩
    rw [same (.request requestId) (by intro id; simp)]
    exact inserted

/-- The new rows that an update statement makes of the jobs it selects. -/
def selectedRows (select : JobRow → Option JobRow) (view : EngineStore) : List (Uuid × JobRow) :=
  (jobRows view).filterMap fun job => (select job.2).map (job.1, ·)

theorem mem_selectedRows {select : JobRow → Option JobRow} {view : EngineStore} {id : Uuid}
    {after : JobRow} : (id, after) ∈ selectedRows select view ↔
      ∃ row, jobAt view id = some row ∧ select row = some after := by
  rw [selectedRows, List.mem_filterMap]
  constructor
  · rintro ⟨⟨found, row⟩, there, selected⟩
    obtain ⟨changed, result, same⟩ := Option.map_eq_some_iff.mp selected
    obtain ⟨rfl, rfl⟩ := Prod.mk.inj same
    exact ⟨row, mem_jobRows.mp there, result⟩
  · rintro ⟨row, there, selected⟩
    exact ⟨(id, row), mem_jobRows.mpr there, by simp [selected]⟩

theorem selectedRows_distinct (select : JobRow → Option JobRow) (view : EngineStore) :
    ((selectedRows select view).map Prod.fst).Nodup := by
  rw [List.Nodup, List.pairwise_map]
  refine List.Pairwise.filterMap _ ?_ (List.pairwise_map.mp (jobRows_distinct view))
  intro first second apart job found other otherFound
  obtain ⟨_, _, rfl⟩ := Option.map_eq_some_iff.mp found
  obtain ⟨_, _, rfl⟩ := Option.map_eq_some_iff.mp otherFound
  exact apart

/-- What an update statement leaves of the changes: the new image of each job
that the transaction had not changed is made from the row it has locked. -/
def UpdatedJobs (update : Outside → EngineStore → JobRow → Option JobRow)
    (knowledge : Knowledge Row) (changes later : EngineChanges) : Prop :=
  ∀ id, changes.lookup (Key.job id) = none → later.lookup (Key.job id) = none ∨
    ∃ input view row after, later.lookup (Key.job id) = some (.update after) ∧
      update input view row = some after ∧ (⟨.job id, row⟩ : Sigma Row) ∈ knowledge.known

/-- The updates of selected jobs are part of a plan once the jobs are locked. -/
theorem Plan.updateRows {locks : List (Key × LockMode)} {select : JobRow → Option JobRow}
    (plan : Plan platform guard name (knowledge.after store locks) changes)
    (locked : ∀ job ∈ selectedRows select (applyChanges store changes),
      (Key.job job.1, LockMode.update) ∈ locks)
    (move : ∀ id row after, select row = some after → JobMove name id (some row) (some after)) :
    Plan platform guard name (knowledge.after store locks)
      (updateRows changes (selectedRows select (applyChanges store changes))) := by
  have distinct := selectedRows_distinct select (applyChanges store changes)
  have same : SameElsewhere changes
      (EngineEffects.updateRows changes (selectedRows select (applyChanges store changes))) := by
    intro key other
    exact lookup_updateRows_other _ changes key fun job _ => other job.1
  constructor
  · exact updateRows_undeleted _ plan.undeleted
  · intro requestId
    rw [same (.request requestId) (by intro id; simp)]
    exact plan.cases requestId
  · intro later allowed admissible
    have earlier := plan.jobs later allowed (updateRows_admissible _ _ plan.undeleted admissible)
    refine (earlier.allow fun requestId queueable => queueable.elsewhere same).step ?_
    intro id
    by_cases selected : ∃ after, (id, after) ∈ selectedRows select (applyChanges store changes)
    · obtain ⟨after, member⟩ := selected
      obtain ⟨row, seen, result⟩ := mem_selectedRows.mp member
      refine .inr ⟨row, after, allowed.sees (locked _ member) seen, ?_, move id row after result⟩
      have change := lookup_updateRows _ changes distinct _ member
      rw [jobAt, lookup_applyChanges, change]
      exact Change.image_renew _ after
    · left
      have change := lookup_updateRows_other _ changes (.job id) fun job member other =>
        selected ⟨job.2, by rw [Key.job.inj other]; exact member⟩
      rw [jobAt, lookup_applyChanges, change, jobAt, lookup_applyChanges]

/-- An update statement over jobs. -/
theorem meets_updateJobs {update : Outside → EngineStore → JobRow → Option JobRow}
    {continuation : Unit → EngineChanges → EngineScript}
    (plan : Plan platform guard name knowledge changes)
    (move : ∀ input view id row after, update input view row = some after →
      JobMove name id (some row) (some after))
    (rest : ∀ later updated, knowledge.Later later (engineContract platform guard) →
      Plan platform guard name later updated → SameElsewhere changes updated →
      UpdatedJobs update later changes updated →
      (continuation () updated).Meets (engineContract platform guard) later) :
    (updateJobs update continuation changes).Meets (engineContract platform guard) knowledge := by
  change Script.Meets (engineContract platform guard)
    (query .statement (fun input view =>
      some ((selectedRows (update input view) view).map fun job =>
        (Key.job job.1, LockMode.update), selectedRows (update input view) view))
      (fun rows changes => continuation () (updateRows changes rows)) changes) knowledge
  refine meets_plainQuery plain_statement ?_
  intro input store locks rows allowed _ answered
  obtain ⟨asked, rfl⟩ := Prod.mk.inj (Option.some.inj answered)
  have locked : ∀ job ∈ selectedRows (update input (applyChanges store changes))
      (applyChanges store changes), (Key.job job.1, LockMode.update) ∈ locks := by
    intro job member
    rw [← asked]
    exact List.mem_map.mpr ⟨job, member, rfl⟩
  have planned := (plan.later (allowed.later locks)).updateRows locked
    fun id row after => move input (applyChanges store changes) id row after
  refine rest _ _ (allowed.later locks) planned ?_ ?_
  · intro key other
    exact lookup_updateRows_other _ changes key fun job _ => other job.1
  · intro id untouched
    by_cases selected : ∃ after, (id, after) ∈
        selectedRows (update input (applyChanges store changes)) (applyChanges store changes)
    · obtain ⟨after, member⟩ := selected
      obtain ⟨row, seen, result⟩ := mem_selectedRows.mp member
      have change := lookup_updateRows _ changes (selectedRows_distinct _ _) _ member
      rw [untouched] at change
      rw [jobAt, lookup_untouched untouched] at seen
      exact .inr ⟨input, _, row, after, change, result,
        Knowledge.mem_after (locked _ member) seen⟩
    · left
      have change := lookup_updateRows_other _ changes (.job id) fun job member other =>
        selected ⟨job.2, by rw [Key.job.inj other]; exact member⟩
      exact change.trans untouched

/-! ## Queueing -/

/-- The insertion of a job is part of a plan if its request is the transaction's
own and has a place left for it. -/
theorem Plan.insertJob {id : Uuid} {row : JobRow}
    (plan : Plan platform guard name knowledge changes) (fresh : changes.lookup (.job id) = none)
    (queued : Queued row)
    (queueable : ∀ requestId, row.requestId = some requestId →
      Queueable knowledge changes requestId)
    (limit : ∀ requestId, row.requestId = some requestId →
      (engineContract platform guard).Pending knowledge changes fun _ next =>
        (requestJobs next requestId).length < NOTIFICATION_JOB_LIMIT) :
    Plan platform guard name knowledge (changes.insertRow (.job id) row) := by
  have inserted : (changes.insertRow (.job id) row).lookup (Key.job id) = some (.insert row) :=
    AList.lookup_insert changes
  have other : ∀ key, key ≠ .job id →
      (changes.insertRow (.job id) row).lookup key = changes.lookup key :=
    fun key apart => AList.lookup_insert_ne apart
  have same : SameElsewhere changes (changes.insertRow (.job id) row) :=
    fun key notJob => other key (notJob id)
  constructor
  · exact Changes.insertRow_undeleted plan.undeleted
  · intro requestId
    rw [same (.request requestId) (by intro id; simp)]
    exact plan.cases requestId
  · intro store allowed admissible
    have admissibleBefore := admissible.of_insertRow fresh
    have absent : jobAt (applyChanges store changes) id = none := by
      rw [jobAt, lookup_applyChanges, fresh]
      exact admissible.inserted _ row inserted
    have there : jobAt (applyChanges store (changes.insertRow (.job id) row)) id = some row := by
      rw [jobAt, lookup_applyChanges, inserted]
      rfl
    have others : ∀ found, found ≠ id →
        jobAt (applyChanges store (changes.insertRow (.job id) row)) found =
          jobAt (applyChanges store changes) found := by
      intro found apart
      rw [jobAt, lookup_applyChanges, other (.job found) fun equal => apart (Key.job.inj equal),
        jobAt, lookup_applyChanges]
    have earlier := plan.jobs store allowed admissibleBefore
    refine (earlier.allow fun requestId queueable => queueable.elsewhere same).insert absent there
      others queued ?_ ?_
    · intro requestId request
      exact (queueable requestId request).elsewhere same
    · intro requestId request
      have before := limit requestId request store allowed admissibleBefore
      refine le_trans ?_ before
      exact requestJobs_length_insert others

/-- Insert a job unless one with its idempotency key exists. -/
theorem meets_insertJob {key : JsString} {row : Time → JobRow}
    {continuation : Unit → EngineChanges → EngineScript}
    (plan : Plan platform guard name knowledge changes) (queued : ∀ createdAt, Queued (row createdAt))
    (queueable : ∀ createdAt requestId, (row createdAt).requestId = some requestId →
      Queueable knowledge changes requestId)
    (limit : ∀ createdAt requestId, (row createdAt).requestId = some requestId →
      (engineContract platform guard).Pending knowledge changes fun _ next =>
        (requestJobs next requestId).length < NOTIFICATION_JOB_LIMIT)
    (rest : ∀ later inserted, knowledge.Later later (engineContract platform guard) →
      Plan platform guard name later inserted → SameElsewhere changes inserted →
      (continuation () inserted).Meets (engineContract platform guard) later) :
    (insertJob key row continuation changes).Meets (engineContract platform guard) knowledge := by
  rw [insertJob, Transaction.bind_apply]
  refine meets_plainQuery plain_statement ?_
  intro input store locks inserted allowed _ answered
  split at answered
  · obtain ⟨rfl, rfl⟩ := Prod.mk.inj (Option.some.inj answered)
    exact rest _ changes (allowed.later []) (plan.later (allowed.later [])) fun _ _ => rfl
  · split at answered
    · cases answered
    · rename_i absent
      obtain ⟨rfl, rfl⟩ := Prod.mk.inj (Option.some.inj answered)
      have fresh : changes.lookup (Key.job input.uuid) = none := by
        rw [Option.not_isSome_iff_eq_none] at absent
        exact absent_untouched (plan.undeleted _) absent
      have moreKnown := allowed.later []
      have planned := (plan.later moreKnown).insertJob fresh (queued input.databaseClock)
        (fun requestId request => (queueable _ requestId request).later moreKnown)
        (fun requestId request => (limit _ requestId request).later moreKnown)
      refine rest _ _ moreKnown planned ?_
      intro other notJob
      exact AList.lookup_insert_ne (notJob _)

/-- A transaction's own request gains no job from another session. -/
theorem Queueable.requestJobs_later {locks : List (Key × LockMode)} {later : EngineStore}
    {requestId : Uuid} (queueable : Queueable knowledge changes requestId)
    (allowed : knowledge.Allows (engineContract platform guard) store)
    (allowedLater : (knowledge.after store locks).Allows (engineContract platform guard) later)
    (admissible : Admissible later changes) :
    (requestJobs (applyChanges later changes) requestId).length ≤
      (requestJobs (applyChanges store changes) requestId).length := by
  apply requestJobs_length_le
  intro id row found request
  rw [jobAt, lookup_applyChanges] at found ⊢
  cases change : changes.lookup (Key.job id) with
  | some changed =>
      rw [change] at found
      exact ⟨row, found, request⟩
  | none =>
      rw [change] at found
      rcases queueable with ⟨record, locked⟩ | ⟨record, inserted⟩
      · have moves : Moves (· ∈ (knowledge.after store locks).mine) store later :=
          allowedLater.moved
        exact moves.queued requestId (List.mem_append_right _ locked.mine)
          (Option.isSome_of_eq_some (locked.found allowed)) id row found request
      · have absent := admissible.inserted _ record inserted
        have there := allowedLater.kept id row requestId found request
        rw [caseAt, absent] at there
        cases there

/-- A notification is queued for a request of the transaction's own. -/
theorem meets_queueNotification {env : Environment} {notification : NewNotification}
    {continuation : Unit → EngineChanges → EngineScript}
    (plan : Plan platform guard name knowledge changes)
    (queueable : Queueable knowledge changes notification.requestId)
    (known : notification.notificationType ∈ NOTIFICATION_TYPES)
    (rest : ∀ later inserted, knowledge.Later later (engineContract platform guard) →
      Plan platform guard name later inserted → SameElsewhere changes inserted →
      (continuation () inserted).Meets (engineContract platform guard) later) :
    (queueNotification env notification continuation changes).Meets (engineContract platform guard)
      knowledge := by
  simp only [queueNotification, Transaction.bind_apply]
  refine meets_readRows plain_statement ?_
  intro input store allowed _
  have moreKnown := allowed.later []
  refine meets_require fun withinLimit => ?_
  have below : (requestJobs (applyChanges store changes) notification.requestId).length <
      NOTIFICATION_JOB_LIMIT := by
    have bounded := of_decide_eq_true withinLimit
    unfold NewNotification.maximumBeforeInsert at bounded
    split at bounded
    · exact bounded
    · exact bounded.trans_le (Nat.sub_le _ _)
  refine meets_orRefuse fun payloadHash _ => ?_
  refine meets_insertJob (plan.later moreKnown) ?_ ?_ ?_ ?_
  · intro createdAt
    exact ⟨rfl, rfl, rfl, rfl, fun _ => ⟨rfl, _, known, rfl⟩⟩
  · intro createdAt requestId request
    obtain rfl := Option.some.inj request
    exact queueable.later moreKnown
  · intro createdAt requestId request later allowedLater admissible
    obtain rfl := Option.some.inj request
    exact (queueable.requestJobs_later allowed allowedLater admissible).trans_lt below
  · intro later inserted stillLater
    exact rest later inserted (moreKnown.trans stillLater)

end Vasi.EngineEffects
