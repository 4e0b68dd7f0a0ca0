import Vasi.ForeignKeys
import Vasi.JsValue

/-!
# The retention purge

purge_record_for_retention deletes the rows of one assignment and, when no other
assignment of its request and no reissue of the request is left, those of the
request. The tables, their foreign keys and the triggers that refuse deletions
are those of all migrations together; columns that refer to no row of a request
are left out, and so are the tables that a purge keeps by design.

A purge finds an assignment due or refuses: the state of the record, its holds,
the data requests on it and its tombstone are outside.
-/
namespace Vasi.RetentionPurge

open JsValue ForeignKeys

/-! ## Tables -/

inductive Table where
  | requestInstance
  | participantAssignment
  | interactionSession
  | activityInstance
  | participantResponse
  | activityResponse
  | activityResponseRevision
  | participantContextSnapshot
  | activityInteractionEventBatch
  | activityInteractionEvent
  | activityInteractionSummaryRevision
  | externalMediaMetadataSnapshot
  | mediaEventBatch
  | mediaEvent
  | mediaActivitySummaryRevision
  | evidenceEvent
  | evidenceChainHead
  | evidenceManifest
  | evidenceSeal
  | evidenceExportArtifact
  | evidenceExportChunk
  | evidenceAccessEvent
  | documentArtifactAccessEvent
  | recordLifecycleState
  | requestLifecycleEvent
  | outboxJob
  | notificationDeliveryAttempt
  | integrationGatewayAttempt
deriving DecidableEq

inductive Column where
  | reissuedFromRequestId
  | requestId
  | assignmentId
  | interactionId
  | activityInstanceId
  | responseRevisionId
  | batchId
  | manifestId
  | exportArtifactId
  | jobId
deriving DecidableEq

abbrev Record := Row Table Column JsString

abbrev Records := Database Table Column JsString

/-- The table that a column refers to. -/
def references (batches : Table) : Column → Table
  | .reissuedFromRequestId | .requestId => .requestInstance
  | .assignmentId => .participantAssignment
  | .interactionId => .interactionSession
  | .activityInstanceId => .activityInstance
  | .responseRevisionId => .activityResponseRevision
  | .batchId => batches
  | .manifestId => .evidenceManifest
  | .exportArtifactId => .evidenceExportArtifact
  | .jobId => .outboxJob

/-- Foreign keys of some columns that restrict deletions. -/
def restricting (columns : List Column) : List (ForeignKey Table Column) :=
  columns.map fun column => ⟨column, references .mediaEventBatch column, false⟩

/-- Foreign keys of some columns that cascade. -/
def cascading (columns : List Column) : List (ForeignKey Table Column) :=
  columns.map fun column => ⟨column, references .activityInteractionEventBatch column, true⟩

def foreignKeys : Table → List (ForeignKey Table Column)
  | .requestInstance => restricting [.reissuedFromRequestId]
  | .participantAssignment | .requestLifecycleEvent | .outboxJob => restricting [.requestId]
  | .interactionSession | .evidenceChainHead => restricting [.assignmentId]
  | .activityInstance | .evidenceEvent | .evidenceManifest | .evidenceExportArtifact
  | .externalMediaMetadataSnapshot | .recordLifecycleState =>
      restricting [.requestId, .assignmentId]
  | .participantResponse => restricting [.assignmentId, .interactionId]
  | .activityResponse =>
      restricting [.requestId, .assignmentId, .activityInstanceId, .interactionId,
        .responseRevisionId]
  | .activityResponseRevision | .mediaEventBatch =>
      restricting [.requestId, .assignmentId, .activityInstanceId, .interactionId]
  | .mediaEvent => restricting [.batchId, .assignmentId, .activityInstanceId, .interactionId]
  | .mediaActivitySummaryRevision | .documentArtifactAccessEvent =>
      restricting [.requestId, .assignmentId, .activityInstanceId]
  | .evidenceSeal => restricting [.manifestId]
  | .evidenceExportChunk => restricting [.exportArtifactId]
  | .evidenceAccessEvent => restricting [.requestId, .assignmentId, .exportArtifactId]
  | .notificationDeliveryAttempt | .integrationGatewayAttempt => restricting [.jobId]
  | .participantContextSnapshot | .activityInteractionEventBatch =>
      cascading [.requestId, .assignmentId, .activityInstanceId, .interactionId]
  | .activityInteractionEvent =>
      cascading [.batchId, .assignmentId, .activityInstanceId, .interactionId]
  | .activityInteractionSummaryRevision =>
      cascading [.requestId, .assignmentId, .activityInstanceId]

/-! ## Triggers -/

/-- The row that a column refers to is of an assignment. -/
def parentOf (records : Records) (table : Table) (column owner : Column) (value : JsString)
    (row : Record) : Bool :=
  records.any fun parent => parent.table = table && row.column column = some parent.id &&
    parent.column owner = some value

/-- The triggers let a purge of an assignment, and then of its request, delete a row. -/
def deletable (assignmentId : JsString) (purgeRequest : Option JsString) (records : Records)
    (row : Record) : Bool :=
  let ofAssignment := row.column .assignmentId = some assignmentId
  let ofRequest := purgeRequest.isSome && row.column .requestId = purgeRequest
  match row.table with
  | .evidenceAccessEvent | .documentArtifactAccessEvent | .externalMediaMetadataSnapshot =>
      ofAssignment || ofRequest
  | .evidenceExportArtifact | .mediaActivitySummaryRevision | .mediaEvent | .mediaEventBatch
  | .activityResponse | .activityResponseRevision | .participantResponse | .evidenceEvent
  | .evidenceManifest | .participantContextSnapshot | .activityInteractionEventBatch
  | .activityInteractionEvent | .activityInteractionSummaryRevision => ofAssignment
  | .evidenceSeal =>
      parentOf records .evidenceManifest .manifestId .assignmentId assignmentId row
  | .evidenceExportChunk =>
      parentOf records .evidenceExportArtifact .exportArtifactId .assignmentId assignmentId row
  | .requestLifecycleEvent => ofRequest
  | .notificationDeliveryAttempt | .integrationGatewayAttempt =>
      purgeRequest.any fun requestId =>
        parentOf records .outboxJob .jobId .requestId requestId row
  | .requestInstance | .participantAssignment | .interactionSession | .activityInstance
  | .evidenceChainHead | .recordLifecycleState | .outboxJob => true

/-! ## The purge -/

/-- delete from a table where a column has a value. -/
def deleteWhere (column : Column) (value : JsString) (table : Table) :
    Deletion Table Column JsString :=
  ⟨table, fun _ row => row.column column = some value⟩

/-- delete from a table where the id has a value. -/
def deleteId (value : JsString) (table : Table) : Deletion Table Column JsString :=
  ⟨table, fun _ row => row.id = value⟩

/-- delete from a table using another one that a column refers to. -/
def deleteUsing (parent : Table) (column owner : Column) (value : JsString) (table : Table) :
    Deletion Table Column JsString :=
  ⟨table, fun records row => parentOf records parent column owner value row⟩

/-- The statements on the rows of an assignment. -/
def assignmentDeletions (assignmentId : JsString) : List (Deletion Table Column JsString) :=
  [deleteWhere .assignmentId assignmentId .evidenceAccessEvent,
    deleteUsing .evidenceExportArtifact .exportArtifactId .assignmentId assignmentId
      .evidenceExportChunk,
    deleteWhere .assignmentId assignmentId .evidenceExportArtifact,
    deleteWhere .assignmentId assignmentId .documentArtifactAccessEvent,
    deleteUsing .evidenceManifest .manifestId .assignmentId assignmentId .evidenceSeal] ++
  [Table.evidenceManifest, .externalMediaMetadataSnapshot, .mediaActivitySummaryRevision,
    .mediaEvent, .mediaEventBatch, .activityResponse, .activityResponseRevision,
    .participantResponse, .interactionSession, .activityInstance, .evidenceEvent,
    .evidenceChainHead, .recordLifecycleState].map (deleteWhere .assignmentId assignmentId) ++
  [deleteId assignmentId .participantAssignment]

/-- The statements on the rows of a request; the trigger on the jobs deletes their
gateway attempts before them. -/
def requestDeletions (requestId : JsString) : List (Deletion Table Column JsString) :=
  [deleteWhere .requestId requestId .evidenceAccessEvent,
    deleteWhere .requestId requestId .documentArtifactAccessEvent,
    deleteWhere .requestId requestId .externalMediaMetadataSnapshot,
    deleteUsing .outboxJob .jobId .requestId requestId .notificationDeliveryAttempt,
    deleteUsing .outboxJob .jobId .requestId requestId .integrationGatewayAttempt,
    deleteWhere .requestId requestId .outboxJob,
    deleteWhere .requestId requestId .requestLifecycleEvent,
    deleteId requestId .requestInstance]

/-- A call of the purge, and whether it finds the record due and nothing in its way. -/
structure PurgeCall where
  assignmentId : JsString
  due : Bool

/-- An assignment of a request. -/
def isAssignmentOf (requestId : JsString) (row : Record) : Bool :=
  row.table = .participantAssignment && row.column .requestId = some requestId

/-- A reissue of a request. -/
def isReissueOf (requestId : JsString) (row : Record) : Bool :=
  row.table = .requestInstance && row.column .reissuedFromRequestId = some requestId

/-- The request of the record that is purged. -/
def lifecycleRequest (records : Records) (assignmentId : JsString) : Option JsString :=
  (records.find? fun row => row.table = .recordLifecycleState &&
    row.column .assignmentId = some assignmentId).bind fun row => row.column .requestId

def purgeRecordForRetention (call : PurgeCall) (records : Records) : Option Records :=
  if ¬ call.due then none
  else do
    let requestId ← lifecycleRequest records call.assignmentId
    let purged ← deleteAll foreignKeys (deletable call.assignmentId none)
      (assignmentDeletions call.assignmentId) records
    if purged.any (isAssignmentOf requestId) || purged.any (isReissueOf requestId) then
      return purged
    else
      deleteAll foreignKeys (deletable call.assignmentId (some requestId))
        (requestDeletions requestId) purged

/-- The rows, and the assignments purged so far. -/
structure State where
  records : Records
  purged : List JsString

/-- A purge that fails changes nothing. -/
def purgeStep (state : State) (call : PurgeCall) : State :=
  match purgeRecordForRetention call state.records with
  | some records => ⟨records, call.assignmentId :: state.purged⟩
  | none => state

/-! ## Whose rows -/

/-- The rows of an assignment: itself, those that name it, and those that refer to these. -/
inductive Owned (records : Records) (assignmentId : JsString) : Record → Prop
  | assignment {row : Record} (table : row.table = .participantAssignment)
      (same : row.id = assignmentId) : Owned records assignmentId row
  | named {row : Record} (names : row.column .assignmentId = some assignmentId) :
      Owned records assignmentId row
  | referring {row target : Record} (there : target ∈ records)
      (refers : refersTo foreignKeys row target = true)
      (owned : Owned records assignmentId target) : Owned records assignmentId row

/-- The rows of a request: itself, those that name it, and those that refer to these,
save for its reissues. -/
inductive Belongs (records : Records) (requestId : JsString) : Record → Prop
  | request {row : Record} (table : row.table = .requestInstance) (same : row.id = requestId) :
      Belongs records requestId row
  | named {row : Record} (names : row.column .requestId = some requestId) :
      Belongs records requestId row
  | referring {row target : Record} {key : ForeignKey Table Column} (there : target ∈ records)
      (member : key ∈ foreignKeys row.table) (reissue : key.column ≠ .reissuedFromRequestId)
      (table : key.target = target.table) (value : row.column key.column = some target.id)
      (belongs : Belongs records requestId target) : Belongs records requestId row

/-- Rows as the schema and the engine leave them: keys are unique, references are by
foreign keys to rows that are there, and the rows of an assignment are those of no
other assignment and of no request but its own. -/
structure WellFormed (records : Records) : Prop where
  unique : ∀ row ∈ records, ∀ other ∈ records, row.table = other.table → row.id = other.id →
    row = other
  declared : ∀ row ∈ records, ∀ column id, row.column column = some id →
    ∃ key ∈ foreignKeys row.table, key.column = column
  integral : Integral foreignKeys records
  separate : ∀ row ∈ records, ∀ first second, Owned records first row →
    Owned records second row → first = second
  confined : ∀ row ∈ records, ∀ assignmentId requestId, Owned records assignmentId row →
    Belongs records requestId row → ∀ assignment ∈ records,
      assignment.table = .participantAssignment → assignment.id = assignmentId →
      assignment.column .requestId = some requestId

theorem foreignKeys_requestId (table : Table) : ∀ key ∈ foreignKeys table,
    key.column = .requestId → key.target = .requestInstance := by
  cases table <;> decide

theorem foreignKeys_assignmentId (table : Table) : ∀ key ∈ foreignKeys table,
    key.column = .assignmentId → key.target = .participantAssignment := by
  cases table <;> decide

/-- A request's reissues stay when it goes: no foreign key between requests cascades. -/
theorem foreignKeys_cascade (table : Table) : ∀ key ∈ foreignKeys table,
    key.cascade = true → key.column ≠ .reissuedFromRequestId := by
  cases table <;> decide

section

variable {initial records after : Records} {assignmentId requestId : JsString}

theorem refersTo_of_cascadesTo {row target : Record}
    (cascades : cascadesTo foreignKeys row target = true) :
    refersTo foreignKeys row target = true := by
  obtain ⟨key, member, holds⟩ := List.any_eq_true.mp cascades
  simp only [Bool.and_eq_true] at holds
  exact List.any_eq_true.mpr ⟨key, member, by simp [holds.1.2, holds.2]⟩

/-- The rows of an assignment are closed under cascades. -/
theorem Owned.cascades (row target : Record) (there : target ∈ initial)
    (cascades : cascadesTo foreignKeys row target = true)
    (owned : Owned initial assignmentId target) : Owned initial assignmentId row :=
  .referring there (refersTo_of_cascadesTo cascades) owned

/-- The rows of a request are closed under cascades. -/
theorem Belongs.cascades (row target : Record) (there : target ∈ initial)
    (cascades : cascadesTo foreignKeys row target = true)
    (belongs : Belongs initial requestId target) : Belongs initial requestId row := by
  obtain ⟨key, member, holds⟩ := List.any_eq_true.mp cascades
  simp only [Bool.and_eq_true, decide_eq_true_eq] at holds
  exact .referring there member (foreignKeys_cascade row.table key member holds.1.1) holds.1.2
    holds.2 belongs

/-- A row of an assignment shows that the assignment is there. -/
theorem Owned.assignment_there (wellFormed : WellFormed initial) {row : Record}
    (inside : row ∈ initial) (owned : Owned initial assignmentId row) :
    ∃ assignment ∈ initial, assignment.table = .participantAssignment ∧
      assignment.id = assignmentId := by
  induction owned with
  | assignment table same => exact ⟨_, inside, table, same⟩
  | @named row names =>
      obtain ⟨key, member, column⟩ := wellFormed.declared row inside _ _ names
      rw [← column] at names
      obtain ⟨target, there, table, same⟩ := wellFormed.integral row inside key member _ names
      exact ⟨target, there, table.trans (foreignKeys_assignmentId row.table key member column),
        same⟩
  | referring there _ _ inductionHypothesis => exact inductionHypothesis there

/-- When the row of a request is gone, none of its rows is left; the induction is on
how a row belongs to the request. -/
theorem Belongs.absent (wellFormed : WellFormed initial) (part : records ⊆ initial)
    (integral : Integral foreignKeys records)
    (gone : ∀ row ∈ records, row.table = .requestInstance → row.id ≠ requestId) {row : Record}
    (belongs : Belongs initial requestId row) : row ∉ records := by
  induction belongs with
  | request table same => exact fun stays => gone _ stays table same
  | @named row names =>
      intro stays
      obtain ⟨key, member, column⟩ := wellFormed.declared row (part stays) _ _ names
      rw [← column] at names
      obtain ⟨target, there, table, same⟩ := integral row stays key member _ names
      exact gone target there
        (table.trans (foreignKeys_requestId row.table key member column)) same
  | @referring row target key there member _ table value _ inductionHypothesis =>
      intro stays
      obtain ⟨found, foundThere, foundTable, same⟩ := integral row stays key member _ value
      have equal : found = target := wellFormed.unique found (part foundThere) target there
        (foundTable.trans table) same
      exact inductionHypothesis (equal ▸ foundThere)

/-! ## One purge -/

theorem parentOf_spec {table : Table} {column owner : Column} {value : JsString} {row : Record}
    (found : parentOf records table column owner value row = true) :
    ∃ parent ∈ records, parent.table = table ∧ row.column column = some parent.id ∧
      parent.column owner = some value := by
  obtain ⟨parent, there, holds⟩ := List.any_eq_true.mp found
  simp only [Bool.and_eq_true, decide_eq_true_eq] at holds
  exact ⟨parent, there, holds.1.1, holds.1.2, holds.2⟩

theorem selects_deleteWhere {column : Column} {value : JsString} {table : Table} {row : Record} :
    (deleteWhere column value table).selects records row = true ↔
      row.table = table ∧ row.column column = some value := by
  rw [Deletion.selects, Bool.and_eq_true, decide_eq_true_eq]
  exact and_congr Iff.rfl decide_eq_true_iff

theorem selects_deleteId {value : JsString} {table : Table} {row : Record} :
    (deleteId value table).selects records row = true ↔ row.table = table ∧ row.id = value := by
  rw [Deletion.selects, Bool.and_eq_true, decide_eq_true_eq]
  exact and_congr Iff.rfl decide_eq_true_iff

theorem selects_deleteUsing {parent table : Table} {column owner : Column} {value : JsString}
    {row : Record} :
    (deleteUsing parent column owner value table).selects records row = true ↔
      row.table = table ∧ parentOf records parent column owner value row = true := by
  rw [Deletion.selects, Bool.and_eq_true, decide_eq_true_eq]
  exact Iff.rfl

/-- The statements on an assignment select rows of the assignment. -/
theorem assignmentDeletions_owned {deletion : Deletion Table Column JsString}
    (member : deletion ∈ assignmentDeletions assignmentId) (part : records ⊆ initial)
    {row : Record} (selected : deletion.selects records row = true) :
    Owned initial assignmentId row := by
  have named : ∀ table, (deleteWhere .assignmentId assignmentId table).selects records row = true →
      Owned initial assignmentId row :=
    fun _ chosen => .named (selects_deleteWhere.mp chosen).2
  have joined : ∀ parent column table,
      (⟨column, parent, false⟩ : ForeignKey Table Column) ∈ foreignKeys table →
      (deleteUsing parent column .assignmentId assignmentId table).selects records row = true →
      Owned initial assignmentId row := by
    intro parent column table key chosen
    obtain ⟨rfl, found⟩ := selects_deleteUsing.mp chosen
    obtain ⟨target, there, same, value, names⟩ := parentOf_spec found
    refine .referring (part there) (List.any_eq_true.mpr ⟨_, key, ?_⟩) (.named names)
    simp [same, value]
  rcases List.mem_append.mp member with first | last
  · rcases List.mem_append.mp first with few | many
    · simp only [List.mem_cons, List.not_mem_nil, or_false] at few
      rcases few with rfl | rfl | rfl | rfl | rfl
      · exact named _ selected
      · exact joined _ _ _ List.mem_cons_self selected
      · exact named _ selected
      · exact named _ selected
      · exact joined _ _ _ List.mem_cons_self selected
    · obtain ⟨table, _, rfl⟩ := List.mem_map.mp many
      exact named table selected
  · obtain rfl := List.mem_singleton.mp last
    obtain ⟨table, same⟩ := selects_deleteId.mp selected
    exact .assignment table same

/-- The statements on a request select rows of the request. -/
theorem requestDeletions_belongs {deletion : Deletion Table Column JsString}
    (member : deletion ∈ requestDeletions requestId) (part : records ⊆ initial)
    {row : Record} (selected : deletion.selects records row = true) :
    Belongs initial requestId row := by
  have named : ∀ table, (deleteWhere .requestId requestId table).selects records row = true →
      Belongs initial requestId row :=
    fun _ chosen => .named (selects_deleteWhere.mp chosen).2
  have joined : ∀ table, (⟨.jobId, .outboxJob, false⟩ : ForeignKey Table Column) ∈
        foreignKeys table →
      (deleteUsing .outboxJob .jobId .requestId requestId table).selects records row = true →
      Belongs initial requestId row := by
    intro table key chosen
    obtain ⟨rfl, found⟩ := selects_deleteUsing.mp chosen
    obtain ⟨target, there, same, value, names⟩ := parentOf_spec found
    exact .referring (part there) key (by decide) same.symm value (.named names)
  simp only [requestDeletions, List.mem_cons, List.not_mem_nil, or_false] at member
  rcases member with rfl | rfl | rfl | rfl | rfl | rfl | rfl | rfl
  · exact named _ selected
  · exact named _ selected
  · exact named _ selected
  · exact joined _ List.mem_cons_self selected
  · exact joined _ List.mem_cons_self selected
  · exact named _ selected
  · exact named _ selected
  · obtain ⟨table, same⟩ := selects_deleteId.mp selected
    exact .request table same

/-- What a purge that succeeds has done: it has taken away rows of the assignment, and
then either stopped at another assignment or a reissue of the request, or taken away
rows of the request, the request itself among them. -/
structure Purges (initial : Records) (assignmentId requestId : JsString)
    (before middle after : Records) : Prop where
  lifecycle : lifecycleRequest before assignmentId = some requestId
  part : middle ⊆ before
  owned : ∀ row ∈ before, row ∉ middle → Owned initial assignmentId row
  ended : (after = middle ∧
      ((∃ row ∈ middle, isAssignmentOf requestId row = true) ∨
        ∃ row ∈ middle, isReissueOf requestId row = true)) ∨
    after ⊆ middle ∧ (∀ row ∈ middle, row ∉ after → Belongs initial requestId row) ∧
      (∀ row ∈ middle, isAssignmentOf requestId row = false) ∧
      ∀ row ∈ after, row.table = .requestInstance → row.id ≠ requestId

theorem purge_spec {call : PurgeCall} {before : Records} (part : before ⊆ initial)
    (integral : Integral foreignKeys before)
    (done : purgeRecordForRetention call before = some after) :
    Integral foreignKeys after ∧
      ∃ requestId middle, Purges initial call.assignmentId requestId before middle after := by
  unfold purgeRecordForRetention at done
  split_ifs at done
  obtain ⟨requestId, lifecycle, later⟩ := Option.bind_eq_some_iff.mp done
  obtain ⟨middle, first, rest⟩ := Option.bind_eq_some_iff.mp later
  have inside := deleteAll_subset first
  have kept := deleteAll_integral first integral
  have owned : ∀ row ∈ before, row ∉ middle → Owned initial call.assignmentId row := by
    intro row there gone
    refine deleteAll_kind part first Owned.cascades ?_ there gone
    intro deletion member current within row _ selected
    exact assignmentDeletions_owned member within selected
  split_ifs at rest with stops
  · obtain rfl := Option.some.inj rest
    refine ⟨kept, requestId, middle, lifecycle, inside, owned, .inl ⟨rfl, ?_⟩⟩
    simpa only [Bool.or_eq_true, List.any_eq_true] using stops
  · rw [Bool.or_eq_true, not_or, Bool.not_eq_true, List.any_eq_false] at stops
    refine ⟨deleteAll_integral rest kept, requestId, middle, lifecycle, inside, owned, .inr
      ⟨deleteAll_subset rest, ?_, fun row there => by simpa using stops.1 row there, ?_⟩⟩
    · intro row there gone
      refine deleteAll_kind (List.Subset.trans inside part) rest Belongs.cascades ?_ there gone
      intro deletion member current within row _ selected
      exact requestDeletions_belongs member within selected
    · intro row stays table same
      have listed : deleteId requestId .requestInstance ∈ requestDeletions requestId := by
        simp [requestDeletions]
      exact deleteAll_selected rest listed (fun _ => selects_deleteId.mpr ⟨table, same⟩) stays

end

/-! ## Every run -/

/-- The condition on each purge that succeeds, on the rows before it, along a run. -/
def Guarded (guard : Records → PurgeCall → Bool) : State → List PurgeCall → Prop
  | _, [] => True
  | state, call :: rest =>
      (∀ after, purgeRecordForRetention call state.records = some after →
        guard state.records call = true) ∧ Guarded guard (purgeStep state call) rest

/-- Purges are complete and confined: when the assignments of a request have been
purged, none of its rows is left, and all rows of assignments that have not been
purged are. -/
def CompleteAndConfined (guard : Records → PurgeCall → Bool) (initial : Records) : Prop :=
  WellFormed initial → ∀ calls, Guarded guard ⟨initial, []⟩ calls →
    (∀ requestId, initial.any (isAssignmentOf requestId) = true →
      (∀ row ∈ (calls.foldl purgeStep ⟨initial, []⟩).records,
        isAssignmentOf requestId row = false) →
      ∀ row ∈ (calls.foldl purgeStep ⟨initial, []⟩).records,
        ¬ Belongs initial requestId row) ∧
    ∀ row ∈ initial, ∀ assignmentId, Owned initial assignmentId row →
      assignmentId ∉ (calls.foldl purgeStep ⟨initial, []⟩).purged →
      row ∈ (calls.foldl purgeStep ⟨initial, []⟩).records

/-- The assignment is not the last one of its request, or the request has no reissue
that is left. -/
def reissuesGone (records : Records) (call : PurgeCall) : Bool :=
  (lifecycleRequest records call.assignmentId).all fun requestId =>
    (records.any fun row => isAssignmentOf requestId row && row.id ≠ call.assignmentId) ||
      !records.any (isReissueOf requestId)

section

variable {initial before middle after : Records} {assignmentId requestId : JsString}

theorem isAssignmentOf_iff {row : Record} : isAssignmentOf requestId row = true ↔
    row.table = .participantAssignment ∧ row.column .requestId = some requestId := by
  rw [isAssignmentOf, Bool.and_eq_true, decide_eq_true_eq, decide_eq_true_eq]

/-- A purge leaves the assignments that are not its own. -/
theorem Purges.assignment_kept (purges : Purges initial assignmentId requestId before middle after)
    (wellFormed : WellFormed initial) (part : before ⊆ initial) {row : Record}
    (there : row ∈ before) (table : row.table = .participantAssignment)
    (other : row.id ≠ assignmentId) : row ∈ middle := by
  by_contra gone
  exact other (wellFormed.separate row (part there) _ _ (.assignment table rfl)
    (purges.owned row there gone))

/-- A purge takes no row of another assignment, as long as all of these are there. -/
theorem Purges.confined (purges : Purges initial assignmentId requestId before middle after)
    (wellFormed : WellFormed initial) {other : JsString} (apart : other ≠ assignmentId)
    (kept : ∀ row ∈ initial, Owned initial other row → row ∈ before) {row : Record}
    (inside : row ∈ initial) (owned : Owned initial other row) : row ∈ after := by
  have stays : ∀ row ∈ initial, Owned initial other row → row ∈ middle := by
    intro row inside owned
    by_contra gone
    exact apart (wellFormed.separate row inside _ _ owned
      (purges.owned row (kept row inside owned) gone))
  rcases purges.ended with ⟨rfl, _⟩ | ⟨_, belongs, alone, _⟩
  · exact stays row inside owned
  · by_contra gone
    obtain ⟨assignment, there, table, same⟩ := owned.assignment_there wellFormed inside
    have names := wellFormed.confined row inside other requestId owned
      (belongs row (stays row inside owned) gone) assignment there table same
    have left := stays assignment there (.assignment table same)
    have found := isAssignmentOf_iff.mpr ⟨table, names⟩
    rw [alone assignment left] at found
    cases found

/-- The record of an assignment names the assignment's request. -/
theorem lifecycleRequest_names (wellFormed : WellFormed initial) (part : before ⊆ initial)
    (lifecycle : lifecycleRequest before assignmentId = some requestId) {row : Record}
    (there : row ∈ before) (table : row.table = .participantAssignment)
    (same : row.id = assignmentId) : row.column .requestId = some requestId := by
  obtain ⟨record, found, names⟩ := Option.bind_eq_some_iff.mp lifecycle
  have chosen := List.find?_some found
  rw [Bool.and_eq_true, decide_eq_true_eq, decide_eq_true_eq] at chosen
  exact wellFormed.confined record (part (List.mem_of_find?_eq_some found)) assignmentId requestId
    (.named chosen.2) (.named names) row (part there) table same

/-- A request that is there has an assignment that is there. -/
def Accounted (records : Records) (requestId : JsString) : Prop :=
  (∃ row ∈ records, row.table = .requestInstance ∧ row.id = requestId) →
    ∃ row ∈ records, isAssignmentOf requestId row = true

/-- A purge that meets the condition leaves no request without an assignment. -/
theorem Purges.accounted {call : PurgeCall}
    (purges : Purges initial call.assignmentId requestId before middle after)
    (wellFormed : WellFormed initial) (part : before ⊆ initial)
    (guarded : reissuesGone before call = true) {other : JsString}
    (accounted : Accounted before other) : Accounted after other := by
  rintro ⟨row, there, table, same⟩
  have within : after ⊆ middle := by
    rcases purges.ended with ⟨rfl, _⟩ | ⟨inside, _⟩
    · exact List.Subset.refl _
    · exact inside
  obtain ⟨assignment, found, of⟩ := accounted ⟨row, purges.part (within there), table, same⟩
  obtain ⟨kind, names⟩ := isAssignmentOf_iff.mp of
  by_cases own : other = requestId
  · subst own
    rcases purges.ended with ⟨rfl, ⟨left, leftThere, leftOf⟩ | ⟨reissue, there, reissues⟩⟩ |
      ⟨_, _, _, gone⟩
    · exact ⟨left, leftThere, leftOf⟩
    · rw [reissuesGone, purges.lifecycle, Option.all_some, Bool.or_eq_true, List.any_eq_true,
        Bool.not_eq_true', List.any_eq_false] at guarded
      rcases guarded with ⟨another, anotherThere, holds⟩ | none
      · rw [Bool.and_eq_true, decide_eq_true_eq] at holds
        exact ⟨another, purges.assignment_kept wellFormed part anotherThere
          (isAssignmentOf_iff.mp holds.1).1 holds.2, holds.1⟩
      · exact absurd reissues (none reissue (purges.part there))
    · exact absurd same (gone row there table)
  · have apart : assignment.id ≠ call.assignmentId := by
      intro equal
      rw [lifecycleRequest_names wellFormed part purges.lifecycle found kind equal] at names
      exact own (Option.some.inj names).symm
    have stays := purges.assignment_kept wellFormed part found kind apart
    rcases purges.ended with ⟨rfl, _⟩ | ⟨_, belongs, _⟩
    · exact ⟨assignment, stays, of⟩
    · refine ⟨assignment, ?_, of⟩
      by_contra gone
      have named := wellFormed.confined assignment (part found) _ _ (.assignment kind rfl)
        (belongs assignment stays gone) assignment (part found) kind rfl
      rw [named] at names
      exact own (Option.some.inj names).symm

/-- What holds after every purge of a run. -/
structure Reached (initial : Records) (state : State) : Prop where
  part : state.records ⊆ initial
  integral : Integral foreignKeys state.records
  accounted : ∀ requestId, initial.any (isAssignmentOf requestId) = true →
    Accounted state.records requestId
  confined : ∀ assignmentId, assignmentId ∉ state.purged → ∀ row ∈ initial,
    Owned initial assignmentId row → row ∈ state.records

/-- A purge that meets the condition keeps what holds. -/
theorem Reached.step {state : State} {call : PurgeCall} (wellFormed : WellFormed initial)
    (reached : Reached initial state)
    (guarded : ∀ after, purgeRecordForRetention call state.records = some after →
      reissuesGone state.records call = true) : Reached initial (purgeStep state call) := by
  unfold purgeStep
  split
  · rename_i records done
    obtain ⟨integral, requestId, middle, purges⟩ := purge_spec reached.part reached.integral done
    have within : records ⊆ middle := by
      rcases purges.ended with ⟨rfl, _⟩ | ⟨inside, _⟩
      · exact List.Subset.refl _
      · exact inside
    refine ⟨fun row there => reached.part (purges.part (within there)), integral, ?_, ?_⟩
    · intro other assigned
      exact purges.accounted wellFormed reached.part (guarded records done)
        (reached.accounted other assigned)
    · intro other unpurged row inside owned
      simp only [List.mem_cons, not_or] at unpurged
      exact purges.confined wellFormed unpurged.1 (reached.confined other unpurged.2) inside owned
  · exact reached

/-- What holds through a run; the induction is on its calls. -/
theorem Reached.run {state : State} (calls : List PurgeCall) (wellFormed : WellFormed initial)
    (reached : Reached initial state) (guarded : Guarded reissuesGone state calls) :
    Reached initial (calls.foldl purgeStep state) := by
  induction calls generalizing state with
  | nil => exact reached
  | cons call rest inductionHypothesis =>
      exact inductionHypothesis (reached.step wellFormed guarded.1) guarded.2

end

theorem purges_complete (initial : Records) : CompleteAndConfined reissuesGone initial := by
  intro wellFormed calls guarded
  have start : Reached initial ⟨initial, []⟩ :=
    { part := List.Subset.refl _
      integral := wellFormed.integral
      accounted := fun _ assigned _ => List.any_eq_true.mp assigned
      confined := fun _ _ _ inside _ => inside }
  have reached := start.run calls wellFormed guarded
  constructor
  · intro requestId assigned purged row stays belongs
    refine belongs.absent wellFormed reached.part reached.integral ?_ stays
    intro request there table same
    obtain ⟨assignment, left, of⟩ :=
      reached.accounted requestId assigned ⟨request, there, table, same⟩
    rw [purged assignment left] at of
    cases of
  · intro row inside assignmentId owned unpurged
    exact reached.confined assignmentId unpurged row inside owned

/-! ## A request that is purged before its reissue -/

/-- The columns of a row. -/
def columns (values : List (Column × JsString)) (column : Column) : Option JsString :=
  (values.find? fun value => value.1 = column).map Prod.snd

/-- A request of one assignment with the record of its lifecycle. -/
def exampleRequest (requestId assignmentId recordId : JsString)
    (reissued : List (Column × JsString)) : Records :=
  [⟨.requestInstance, requestId, columns reissued⟩,
    ⟨.participantAssignment, assignmentId, columns [(.requestId, requestId)]⟩,
    ⟨.recordLifecycleState, recordId,
      columns [(.requestId, requestId), (.assignmentId, assignmentId)]⟩]

/-- A request and its reissue. -/
def exampleChain : Records :=
  exampleRequest (js "r1") (js "a1") (js "l1") [] ++
    exampleRequest (js "r2") (js "a2") (js "l2") [(.reissuedFromRequestId, js "r1")]

/-- The purges in the order in which the records fall due. -/
def exampleCalls : List PurgeCall := [⟨js "a1", true⟩, ⟨js "a2", true⟩]

theorem exampleCalls_left :
    ((exampleCalls.foldl purgeStep ⟨exampleChain, []⟩).records.map fun row =>
      (row.table, row.id)) = [(.requestInstance, js "r1")] := by
  decide +kernel

/-- Whose the rows of the chain are, by their keys. -/
def exampleOwner (row : Record) : Option JsString :=
  if row.id ∈ [js "a1", js "l1"] then some (js "a1")
  else if row.id ∈ [js "a2", js "l2"] then some (js "a2")
  else none

def exampleRequestOf (row : Record) : Option JsString :=
  if row.id ∈ [js "r1", js "a1", js "l1"] then some (js "r1") else some (js "r2")

theorem exampleOwner_owned {assignmentId : JsString} {row : Record} (inside : row ∈ exampleChain)
    (owned : Owned exampleChain assignmentId row) : exampleOwner row = some assignmentId := by
  have assigned : ∀ row ∈ exampleChain, row.table = .participantAssignment →
      exampleOwner row = some row.id := by decide +kernel
  have names : ∀ row ∈ exampleChain, row.column .assignmentId = none ∨
      exampleOwner row = row.column .assignmentId := by decide +kernel
  have refers : ∀ row ∈ exampleChain, ∀ target ∈ exampleChain,
      refersTo foreignKeys row target = true → exampleOwner target = none ∨
        exampleOwner row = exampleOwner target := by decide +kernel
  induction owned with
  | @assignment row table same => rw [assigned row inside table, same]
  | @named row value =>
      rcases names row inside with absent | label
      · rw [absent] at value
        cases value
      · exact label.trans value
  | @referring row target there reference _ inductionHypothesis =>
      have known := inductionHypothesis there
      rcases refers row inside target there reference with absent | label
      · rw [absent] at known
        cases known
      · exact label.trans known

theorem exampleRequestOf_belongs {requestId : JsString} {row : Record}
    (inside : row ∈ exampleChain) (belongs : Belongs exampleChain requestId row) :
    exampleRequestOf row = some requestId := by
  have requests : ∀ row ∈ exampleChain, row.table = .requestInstance →
      exampleRequestOf row = some row.id := by decide +kernel
  have names : ∀ row ∈ exampleChain, row.column .requestId = none ∨
      exampleRequestOf row = row.column .requestId := by decide +kernel
  have refers : ∀ row ∈ exampleChain, ∀ target ∈ exampleChain, ∀ key ∈ foreignKeys row.table,
      key.column ≠ .reissuedFromRequestId → row.column key.column = some target.id →
        exampleRequestOf row = exampleRequestOf target := by decide +kernel
  induction belongs with
  | @request row table same => rw [requests row inside table, same]
  | @named row value =>
      rcases names row inside with absent | label
      · rw [absent] at value
        cases value
      · exact label.trans value
  | @referring row target key there member reissue _ value _ inductionHypothesis =>
      exact (refers row inside target there key member reissue value).trans
        (inductionHypothesis there)

theorem exampleChain_wellFormed : WellFormed exampleChain where
  unique := by
    have distinct : (exampleChain.map fun row => row.id).Nodup := by decide +kernel
    intro row inside other there _ same
    exact List.inj_on_of_nodup_map distinct inside there same
  declared := by
    have declared : ∀ column, ∀ row ∈ exampleChain, row.column column = none ∨
        ∃ key ∈ foreignKeys row.table, key.column = column := by
      intro column
      cases column <;> decide +kernel
    intro row inside column id value
    rcases declared column row inside with absent | found
    · rw [absent] at value
      cases value
    · exact found
  integral := by
    have integral : ∀ row ∈ exampleChain, ∀ key ∈ foreignKeys row.table,
        row.column key.column = none ∨ ∃ target ∈ exampleChain,
          target.table = key.target ∧ some target.id = row.column key.column := by
      decide +kernel
    intro row inside key member id value
    rcases integral row inside key member with absent | ⟨target, there, table, same⟩
    · rw [absent] at value
      cases value
    · exact ⟨target, there, table, Option.some.inj (same.trans value)⟩
  separate := by
    intro row inside first second one other
    exact Option.some.inj ((exampleOwner_owned inside one).symm.trans
      (exampleOwner_owned inside other))
  confined := by
    have confined : ∀ row ∈ exampleChain, ∀ assignment ∈ exampleChain,
        assignment.table = .participantAssignment → exampleOwner row = some assignment.id →
          assignment.column .requestId = exampleRequestOf row := by decide +kernel
    intro row inside assignmentId requestId owned belongs assignment there table same
    have owner : exampleOwner row = some assignment.id := by
      rw [same]
      exact exampleOwner_owned inside owned
    exact (confined row inside assignment there table owner).trans
      (exampleRequestOf_belongs inside belongs)

/-- Without the condition the row of a request can be left after the last purge. -/
theorem purged_request_left :
    ¬ ∀ initial, CompleteAndConfined (fun _ _ => true) initial := by
  intro complete
  obtain ⟨gone, _⟩ := complete exampleChain exampleChain_wellFormed exampleCalls
    ⟨fun _ _ => rfl, fun _ _ => rfl, trivial⟩
  have left := exampleCalls_left
  generalize exampleCalls.foldl purgeStep ⟨exampleChain, []⟩ = final at gone left
  obtain ⟨request, only, found⟩ := List.map_eq_singleton_iff.mp left
  obtain ⟨table, same⟩ := Prod.mk.inj found
  have unassigned : ∀ row ∈ final.records, isAssignmentOf (js "r1") row = false := by
    intro row stays
    rw [only, List.mem_singleton] at stays
    subst stays
    rw [isAssignmentOf, table]
    rfl
  refine gone (js "r1") (by decide +kernel) unassigned request ?_ (.request table same)
  rw [only]
  exact List.mem_singleton.mpr rfl

/-- Purged from the reissue back, the chain leaves nothing. -/
example : (exampleCalls.reverse.foldl purgeStep ⟨exampleChain, []⟩).records.isEmpty = true := by
  decide +kernel

end Vasi.RetentionPurge
