import Vasi.DataRequests
import Vasi.PartialMaps

/-!
# What becomes of a participant's request

Whoever changes a request, one of its scopes or its export holds the row of the
request for update, so the scopes of a locked request and its export stay as they
are until the transaction ends. The status of a request therefore follows from the
scopes that are committed with it, and its export has the records of the scopes
that were approved.
-/
namespace Vasi.DataRequests

open JsValue IsoTime ReadCommitted PartialMaps
open EngineRows (Uuid)
open Utf8 (Byte)

/-! ## What the scopes say -/

/-- The status that the scopes of a request determine before its export is prepared. -/
def determinedStatus (statuses : List ScopeStatus) : RequestStatus :=
  if .pendingReview ∈ statuses then .pendingReview
  else if .denied ∈ statuses then
    if .approved ∈ statuses then .partiallyApproved else .denied
  else .approved

/-- The status is the one that the scopes determine, or the one that the preparation
has made of an approval. -/
def Determined (status : RequestStatus) (statuses : List ScopeStatus) : Prop :=
  status = determinedStatus statuses ∨
    (status = .ready ∨ status = .preparationFailed) ∧
      (determinedStatus statuses = .approved ∨ determinedStatus statuses = .partiallyApproved)

/-- How far a request has come. -/
def RequestStatus.stage : RequestStatus → ℕ
  | pendingReview => 0
  | approved | partiallyApproved | denied => 1
  | ready | preparationFailed => 2
  | expired => 3

/-- A status is kept or followed by one of a later stage. -/
def Forward (earlier later : RequestStatus) : Prop :=
  earlier = later ∨ earlier.stage < later.stage

theorem Forward.trans {first second third : RequestStatus} (one : Forward first second)
    (two : Forward second third) : Forward first third := by
  rcases one with rfl | less
  · exact two
  · rcases two with rfl | more
    · exact .inr less
    · exact .inr (less.trans more)

theorem forward_pendingReview (status : RequestStatus) : Forward .pendingReview status := by
  cases status <;> simp [Forward, RequestStatus.stage]

theorem determinedStatus_congr {first second : List ScopeStatus}
    (same : ∀ status, status ∈ first ↔ status ∈ second) :
    determinedStatus first = determinedStatus second := by
  simp only [determinedStatus, same]

/-- The counts of scopes that are there give the status that they determine. -/
theorem reviewedStatus_eq {statuses : List ScopeStatus} (some : statuses ≠ []) :
    reviewedStatus statuses = determinedStatus statuses := by
  obtain ⟨status, rest, rfl⟩ := List.exists_cons_of_ne_nil some
  have counted : ∀ other, (status :: rest).count other ≠ 0 ↔ other ∈ status :: rest :=
    fun other => by rw [← Nat.pos_iff_ne_zero, List.count_pos_iff]
  simp only [reviewedStatus, determinedStatus, counted]
  split_ifs with pending both approved denied denied approved' <;> simp_all
  cases status <;> simp_all

theorem determinedStatus_ne_ready (statuses : List ScopeStatus) :
    determinedStatus statuses ≠ .ready := by
  unfold determinedStatus
  split_ifs <;> simp

/-- A status that follows from the scopes is that of a review exactly if one is pending. -/
theorem Determined.pendingReview_iff {status : RequestStatus} {statuses : List ScopeStatus}
    (determined : Determined status statuses) :
    status = .pendingReview ↔ .pendingReview ∈ statuses := by
  have own : determinedStatus statuses = .pendingReview ↔ .pendingReview ∈ statuses := by
    unfold determinedStatus
    split_ifs <;> simp_all
  rw [← own]
  rcases determined with rfl | ⟨prepared, approved⟩
  · rfl
  · refine iff_of_false ?_ ?_
    · rcases prepared with rfl | rfl <;> simp
    · rcases approved with equal | equal <;> simp [equal]

/-! ## The scopes of a request -/

/-- A request has the same scopes in two states. -/
def SameScopes (before after : DataRows) (id : Uuid) : Prop :=
  ∀ tenantId, scopeAt after id tenantId = scopeAt before id tenantId

theorem mem_scopesOf {store : DataRows} {id tenantId : Uuid} {scope : Scope} :
    (tenantId, scope) ∈ scopesOf store id ↔ scopeAt store id tenantId = some scope := by
  unfold scopesOf
  rw [List.mem_filterMap, scopeAt, ← Option.mem_def, AList.mem_lookup_iff]
  constructor
  · rintro ⟨⟨key, found⟩, member, selected⟩
    cases key with
    | scope request tenant =>
        simp only [Option.ite_none_right_eq_some, Option.some.injEq, Prod.mk.injEq] at selected
        obtain ⟨rfl, rfl, rfl⟩ := selected
        exact member
    | request | artifact => cases selected
  · intro member
    exact ⟨_, member, by simp⟩

theorem mem_statusesOf {store : DataRows} {id : Uuid} {status : ScopeStatus} :
    status ∈ statusesOf store id ↔
      ∃ tenantId scope, scopeAt store id tenantId = some scope ∧ scope.status = status := by
  simp only [statusesOf, List.mem_map, Prod.exists, mem_scopesOf]

theorem SameScopes.statuses {before after : DataRows} {id : Uuid}
    (same : SameScopes before after id) :
    determinedStatus (statusesOf after id) = determinedStatus (statusesOf before id) := by
  apply determinedStatus_congr
  intro status
  simp only [mem_statusesOf, same _]

theorem SameScopes.pending {before after : DataRows} {id : Uuid}
    (same : SameScopes before after id) (settled : .pendingReview ∉ statusesOf before id) :
    .pendingReview ∉ statusesOf after id := by
  simpa only [mem_statusesOf, same _] using settled

/-- The scopes of an export are the approved scopes of the request, each once and with
exactly its records. -/
structure Exact (store : DataRows) (id : Uuid) (scopes : List ExportScope) : Prop where
  distinct : (scopes.map ExportScope.tenantId).Nodup
  approved : ∀ tenantId, tenantId ∈ scopes.map ExportScope.tenantId ↔
    ∃ scope, scopeAt store id tenantId = some scope ∧ scope.status = .approved
  records : ∃ load : Uuid → Uuid → Bool → Option Value, ∀ exported ∈ scopes, ∀ scope,
    scopeAt store id exported.tenantId = some scope →
      (exported.records.map Prod.fst).Perm scope.matchedAssignmentIds ∧
      ∀ record ∈ exported.records, load exported.tenantId record.1
        (scope.includeTechnicalTelemetry ≠ some false) = some record.2

theorem SameScopes.exact {before after : DataRows} {id : Uuid} {scopes : List ExportScope}
    (same : SameScopes before after id) (exact : Exact before id scopes) :
    Exact after id scopes where
  distinct := exact.distinct
  approved := by simpa only [same _] using exact.approved
  records := by simpa only [same _] using exact.records

/-- The tenant of a key of the request's scopes. -/
def tenantOf (id : Uuid) : Key → Option Uuid
  | .scope request tenantId => if request = id then some tenantId else none
  | _ => none

/-- Each tenant has one scope. -/
theorem scopesOf_nodup (store : DataRows) (id : Uuid) :
    ((scopesOf store id).map Prod.fst).Nodup := by
  have tenants : (scopesOf store id).map Prod.fst =
      (store.entries.map Sigma.fst).filterMap (tenantOf id) := by
    unfold scopesOf
    rw [List.map_filterMap, List.filterMap_map]
    apply List.filterMap_congr
    rintro ⟨key, row⟩ _
    cases key with
    | scope request tenantId =>
        by_cases same : request = id
        · simp [tenantOf, same]
        · simp [tenantOf, same]
    | request | artifact => rfl
  rw [tenants]
  refine List.Nodup.filterMap ?_ store.nodupKeys
  intro first second tenantId one other
  cases first <;> cases second <;> simp_all [tenantOf]

theorem exportScope_some {load : Uuid → Uuid → Bool → Option Value} {scope : Uuid × Scope}
    {exported : ExportScope} (made : exportScope load scope = some exported) :
    exported.tenantId = scope.1 ∧
      (exported.records.map Prod.fst).Perm scope.2.matchedAssignmentIds ∧
      ∀ record ∈ exported.records, load scope.1 record.1
        (scope.2.includeTechnicalTelemetry ≠ some false) = some record.2 := by
  obtain ⟨records, loaded, made⟩ := Option.bind_eq_some_iff.mp made
  obtain rfl := Option.some.inj made
  have each := mapM_forall₂ loaded
  refine ⟨rfl, ?_, ?_⟩
  · have same : records.map Prod.fst = scope.2.matchedAssignmentIds.insertionSort
        fun left right => left.toNat ≤ right.toNat := by
      rw [← List.forall₂_eq_eq_eq, List.forall₂_map_left_iff]
      refine each.flip.imp fun record assignmentId found => ?_
      obtain ⟨data, -, rfl⟩ := Option.map_eq_some_iff.mp found
      rfl
    rw [same]
    exact List.perm_insertionSort _ _
  · intro record inside
    obtain ⟨assignmentId, -, found⟩ := mapM_source loaded inside
    obtain ⟨data, there, rfl⟩ := Option.map_eq_some_iff.mp found
    exact there

/-- The export that is built is exact. -/
theorem buildParticipantDataExport_exact {store : DataRows} {id : Uuid}
    {load : Uuid → Uuid → Bool → Option Value} {scopes : List ExportScope}
    (built : buildParticipantDataExport (scopesOf store id) load = some scopes) :
    Exact store id scopes := by
  have each := mapM_forall₂ built
  set approved := (scopesOf store id).filter fun scope => scope.2.status = .approved with isApproved
  have sorted := List.perm_insertionSort
    (fun left right : Uuid × Scope => left.1.toNat ≤ right.1.toNat) approved
  have tenants : (scopes.map ExportScope.tenantId).Perm (approved.map Prod.fst) := by
    refine List.Perm.trans (List.Perm.of_eq ?_) (sorted.map Prod.fst)
    rw [← List.forall₂_eq_eq_eq, List.forall₂_map_left_iff, List.forall₂_map_right_iff]
    exact each.flip.imp fun exported scope made => (exportScope_some made).1
  have member : ∀ tenantId scope, (tenantId, scope) ∈ approved ↔
      scopeAt store id tenantId = some scope ∧ scope.status = .approved := by
    intro tenantId scope
    rw [isApproved, List.mem_filter, mem_scopesOf, decide_eq_true_eq]
  refine ⟨?_, fun tenantId => ?_, load, fun exported inside scope found => ?_⟩
  · rw [tenants.nodup_iff]
    exact (scopesOf_nodup store id).sublist ((List.filter_sublist).map Prod.fst)
  · simp only [tenants.mem_iff, List.mem_map, Prod.exists, member, exists_and_right,
      exists_eq_right]
  · obtain ⟨⟨tenantId, own⟩, listed, made⟩ := mapM_source built inside
    obtain ⟨same, records, loaded⟩ := exportScope_some made
    have there := ((member _ _).mp (sorted.mem_iff.mp listed)).1
    rw [same] at found ⊢
    obtain rfl := Option.some.inj (there.symm.trans found)
    exact ⟨records, loaded⟩

/-! ## The contract -/

/-- An export in a later state: only its content is gone. -/
def SameExport (earlier later : DataExport) : Prop :=
  later =
    { earlier with contentDeletedAt := later.contentDeletedAt, chunks := later.chunks }

theorem SameExport.refl (artifact : DataExport) : SameExport artifact artifact := rfl

theorem SameExport.trans {first second third : DataExport} (one : SameExport first second)
    (two : SameExport second third) : SameExport first third := by
  rw [SameExport, two, one]

/-- What a commit makes of a request, its scopes and its export. -/
inductive Moved (known : List (Sigma Row)) (before after : DataRows) (id : Uuid) : Prop where
  | same (request : requestAt after id = requestAt before id)
      (scopes : SameScopes before after id) (artifact : exportAt after id = exportAt before id)
  | created (next : DataRequest) (absent : requestAt before id = none)
      (request : requestAt after id = some next)
      (status : next.status = determinedStatus (statusesOf after id))
      (artifact : exportAt after id = exportAt before id)
  | reviewed (row next : DataRequest) (tenantId : Uuid) (scope : Scope)
      (rests : (⟨.request id, row⟩ : Sigma Row) ∈ known) (unexpired : row.status ≠ .expired)
      (found : scopeAt before id tenantId = some scope) (pending : scope.status = .pendingReview)
      (others : ∀ other, other ≠ tenantId → scopeAt after id other = scopeAt before id other)
      (request : requestAt after id = some next)
      (status : next.status = determinedStatus (statusesOf after id))
      (artifact : exportAt after id = exportAt before id)
  | prepared (row next : DataRequest) (made : DataExport)
      (rests : (⟨.request id, row⟩ : Sigma Row) ∈ known)
      (approved : row.status = .approved ∨ row.status = .partiallyApproved)
      (scopes : SameScopes before after id) (request : requestAt after id = some next)
      (ready : next.status = .ready) (absent : exportAt before id = none)
      (artifact : exportAt after id = some made) (exact : Exact before id made.scopes)
  | failed (row next : DataRequest) (rests : (⟨.request id, row⟩ : Sigma Row) ∈ known)
      (approved : row.status = .approved ∨ row.status = .partiallyApproved)
      (scopes : SameScopes before after id) (request : requestAt after id = some next)
      (status : next.status = .preparationFailed)
      (artifact : exportAt after id = exportAt before id)
  | expired (row next : DataRequest) (rests : (⟨.request id, row⟩ : Sigma Row) ∈ known)
      (scopes : SameScopes before after id) (request : requestAt after id = some next)
      (status : next.status = .expired)
      (artifact : exportAt after id = exportAt before id ∨ ∃ earlier later,
        exportAt before id = some earlier ∧ exportAt after id = some later ∧
          SameExport earlier later)

/-- What holds of the rows of a request. -/
structure Fits (store : DataRows) (id : Uuid) : Prop where
  owned : requestAt store id = none →
    (∀ tenantId, scopeAt store id tenantId = none) ∧ exportAt store id = none
  determined : ∀ row, requestAt store id = some row → row.status ≠ .expired →
    Determined row.status (statusesOf store id)
  ready : ∀ row, requestAt store id = some row → row.status = .ready →
    (exportAt store id).isSome
  prepared : ∀ artifact, exportAt store id = some artifact →
    (∃ row, requestAt store id = some row ∧ (row.status = .ready ∨ row.status = .expired)) ∧
      .pendingReview ∉ statusesOf store id ∧ Exact store id artifact.scopes

/-- Every export is kept but for its content. -/
def KeepsExports (before after : DataRows) : Prop :=
  ∀ id artifact, exportAt before id = some artifact →
    ∃ kept, exportAt after id = some kept ∧ SameExport artifact kept

/-- A request that is there is kept with its scopes and its export. -/
def Unmoved (before after : DataRows) (id : Uuid) : Prop :=
  (requestAt before id).isSome → (requestAt after id).isSome ∧
    SameScopes before after id ∧ exportAt after id = exportAt before id

theorem KeepsExports.refl (store : DataRows) : KeepsExports store store :=
  fun _ artifact found => ⟨artifact, found, .refl artifact⟩

theorem KeepsExports.trans {first second third : DataRows} (one : KeepsExports first second)
    (two : KeepsExports second third) : KeepsExports first third := by
  intro id artifact found
  obtain ⟨middle, present, same⟩ := one id artifact found
  obtain ⟨last, final, alike⟩ := two id middle present
  exact ⟨last, final, same.trans alike⟩

theorem Unmoved.refl (store : DataRows) (id : Uuid) : Unmoved store store id :=
  fun there => ⟨there, fun _ => rfl, rfl⟩

theorem Unmoved.trans {first second third : DataRows} {id : Uuid} (one : Unmoved first second id)
    (two : Unmoved second third id) : Unmoved first third id := by
  intro there
  obtain ⟨stays, scopes, artifact⟩ := one there
  obtain ⟨remains, laterScopes, laterArtifact⟩ := two stays
  exact ⟨remains, fun tenantId => (laterScopes tenantId).trans (scopes tenantId),
    laterArtifact.trans artifact⟩

/-- A chunk is returned of an export that has not expired. -/
def Delivers : Point → DataRows → Prop
  | .returnChunk requestId exportId now _, store => ∃ artifact,
      exportAt store requestId = some artifact ∧ artifact.id = exportId ∧ now < artifact.expiresAt
  | _, _ => True

/-- The contract of the operations: the status of a request follows its scopes, and a
request moves with its scopes and its export only under its lock. -/
def reviewing : Contract Row Outside Point Outcome where
  guard := Guard.none Row Outside Point
  invariant := fun store => ∀ id, Fits store id
  moves := fun held before after =>
    KeepsExports before after ∧ ∀ id, held (.request id) → Unmoved before after id
  effect := fun point known before after =>
    (∀ id, Moved known before after id) ∧ Delivers point before
  promise := fun _ _ _ _ _ => True
  moves_refl := fun _ store => ⟨.refl store, fun id _ => .refl store id⟩
  moves_trans := fun _ _ _ _ one two =>
    ⟨one.1.trans two.1, fun id held => (one.2 id held).trans (two.2 id held)⟩
  moves_anti := fun _ _ _ _ fewer moved => ⟨moved.1, fun id held => moved.2 id (fewer _ held)⟩

theorem reviewing_unpromising : Unpromising reviewing := ⟨fun _ _ _ _ _ => trivial⟩

section

variable {known : List (Sigma Row)} {before after : DataRows} {id : Uuid}

/-- A review finds the request with a pending review, and no export. -/
theorem Fits.pending {row : DataRequest} {tenantId : Uuid} {scope : Scope} (fits : Fits before id)
    (found : requestAt before id = some row) (unexpired : row.status ≠ .expired)
    (there : scopeAt before id tenantId = some scope) (pending : scope.status = .pendingReview) :
    row.status = .pendingReview ∧ exportAt before id = none := by
  have member : .pendingReview ∈ statusesOf before id :=
    mem_statusesOf.mpr ⟨tenantId, scope, there, pending⟩
  refine ⟨(fits.determined row found unexpired).pendingReview_iff.mpr member, ?_⟩
  cases artifact : exportAt before id with
  | none => rfl
  | some made => exact absurd member (fits.prepared made artifact).2.1

/-- The scopes of a request with an approved status are decided. -/
theorem Fits.decided {row : DataRequest} (fits : Fits before id)
    (found : requestAt before id = some row)
    (approved : row.status = .approved ∨ row.status = .partiallyApproved) :
    determinedStatus (statusesOf before id) = row.status ∧
      .pendingReview ∉ statusesOf before id := by
  have unexpired : row.status ≠ .expired := by rcases approved with same | same <;> simp [same]
  have determined := fits.determined row found unexpired
  refine ⟨?_, fun pending => ?_⟩
  · rcases determined with same | ⟨same | same, -⟩
    · exact same.symm
    · rcases approved with own | own <;> simp [own] at same
    · rcases approved with own | own <;> simp [own] at same
  · have status := determined.pendingReview_iff.mpr pending
    rcases approved with own | own <;> simp [own] at status

/-- A request that has not expired is ready exactly if it has an export. -/
theorem Fits.ready_iff {row : DataRequest} (fits : Fits before id)
    (found : requestAt before id = some row) (unexpired : row.status ≠ .expired) :
    row.status = .ready ↔ (exportAt before id).isSome := by
  refine ⟨fits.ready row found, fun there => ?_⟩
  obtain ⟨made, there⟩ := Option.isSome_iff_exists.mp there
  obtain ⟨⟨own, isOwn, prepared⟩, -⟩ := fits.prepared made there
  obtain rfl := Option.some.inj (isOwn.symm.trans found)
  exact prepared.resolve_right unexpired

/-- Prepared rows of a request are those of a later state with the same scopes. -/
theorem Fits.kept (fits : Fits before id) (scopes : SameScopes before after id)
    {artifact : DataExport} (found : exportAt before id = some artifact) :
    .pendingReview ∉ statusesOf after id ∧ Exact after id artifact.scopes :=
  ⟨scopes.pending (fits.prepared artifact found).2.1,
    scopes.exact (fits.prepared artifact found).2.2⟩

/-- A request without an export has the status that its scopes determine. -/
theorem Fits.of_determined {next : DataRequest} (request : requestAt after id = some next)
    (status : next.status = determinedStatus (statusesOf after id))
    (nothing : exportAt after id = none) : Fits after id := by
  refine ⟨fun none => ?_, fun row found _ => ?_, fun row found ready => ?_, fun made found => ?_⟩
  · rw [request] at none
    cases none
  · obtain rfl := Option.some.inj (request.symm.trans found)
    exact .inl status
  · obtain rfl := Option.some.inj (request.symm.trans found)
    exact absurd (status.symm.trans ready) (determinedStatus_ne_ready _)
  · rw [nothing] at found
    cases found

/-- Every commit keeps what holds of a request. -/
theorem Moved.fits (moved : Moved known before after id) (current : Current known before)
    (fits : Fits before id) : Fits after id := by
  cases moved with
  | same request scopes artifact =>
      refine ⟨fun absent => ?_, fun row found unexpired => ?_, fun row found ready => ?_,
        fun made found => ?_⟩
      · obtain ⟨none, nothing⟩ := fits.owned (request.symm.trans absent)
        exact ⟨fun tenantId => (scopes tenantId).trans (none tenantId), artifact.trans nothing⟩
      · rw [Determined, scopes.statuses]
        exact fits.determined row (request.symm.trans found) unexpired
      · rw [artifact]
        exact fits.ready row (request.symm.trans found) ready
      · have earlier := artifact.symm.trans found
        rw [request]
        exact ⟨(fits.prepared made earlier).1, fits.kept scopes earlier⟩
  | created next absent request status artifact =>
      refine .of_determined request status ?_
      rw [artifact, (fits.owned absent).2]
  | reviewed row next tenantId scope rests unexpired found pending others request status artifact =>
      refine .of_determined request status ?_
      rw [artifact, (fits.pending (current _ rests) unexpired found pending).2]
  | prepared row next made rests approved scopes request ready absent artifact exact =>
      obtain ⟨determined, decided⟩ := fits.decided (current _ rests) approved
      refine ⟨fun none => ?_, fun later found _ => ?_, fun _ _ _ => ?_, fun other found => ?_⟩
      · rw [request] at none
        cases none
      · obtain rfl := Option.some.inj (request.symm.trans found)
        rw [Determined, scopes.statuses, determined]
        exact .inr ⟨.inl ready, approved⟩
      · rw [artifact]
        rfl
      · obtain rfl := Option.some.inj (artifact.symm.trans found)
        exact ⟨⟨next, request, .inl ready⟩, scopes.pending decided, scopes.exact exact⟩
  | failed row next rests approved scopes request status artifact =>
      obtain ⟨determined, -⟩ := fits.decided (current _ rests) approved
      refine ⟨fun none => ?_, fun later found _ => ?_, fun later found ready => ?_,
        fun made found => ?_⟩
      · rw [request] at none
        cases none
      · obtain rfl := Option.some.inj (request.symm.trans found)
        rw [Determined, scopes.statuses, determined]
        exact .inr ⟨.inr status, approved⟩
      · obtain rfl := Option.some.inj (request.symm.trans found)
        rw [status] at ready
        cases ready
      · obtain ⟨⟨other, there, prepared⟩, -⟩ := fits.prepared made (artifact.symm.trans found)
        have own : requestAt before id = some row := current _ rests
        obtain rfl := Option.some.inj (own.symm.trans there)
        rcases approved with same | same <;> simp [same] at prepared
  | expired row next rests scopes request status artifact =>
      refine ⟨fun none => ?_, fun later found unexpired => ?_, fun later found ready => ?_,
        fun made found => ?_⟩
      · rw [request] at none
        cases none
      · obtain rfl := Option.some.inj (request.symm.trans found)
        exact absurd status unexpired
      · obtain rfl := Option.some.inj (request.symm.trans found)
        rw [status] at ready
        cases ready
      · refine ⟨⟨next, request, .inr status⟩, ?_⟩
        rcases artifact with same | ⟨earlier, later, was, is, same⟩
        · exact fits.kept scopes (same.symm.trans found)
        · obtain rfl := Option.some.inj (is.symm.trans found)
          have sameScopes : later.scopes = earlier.scopes := by rw [same]
          rw [sameScopes]
          exact fits.kept scopes was

/-- The status of a request moves forward. -/
theorem Moved.forward (moved : Moved known before after id) (current : Current known before)
    (fits : Fits before id) {row : DataRequest} (found : requestAt before id = some row) :
    ∃ next, requestAt after id = some next ∧ Forward row.status next.status := by
  have same : ∀ other : DataRequest, (⟨.request id, other⟩ : Sigma Row) ∈ known → other = row := by
    intro other rests
    have there : requestAt before id = some other := current _ rests
    exact Option.some.inj (there.symm.trans found)
  cases moved with
  | same request => exact ⟨row, request.trans found, .inl rfl⟩
  | created next absent =>
      rw [absent] at found
      cases found
  | reviewed other next tenantId scope rests unexpired there pending others request =>
      obtain rfl := same other rests
      refine ⟨next, request, ?_⟩
      rw [(fits.pending found unexpired there pending).1]
      exact forward_pendingReview _
  | prepared other next made rests approved scopes request ready =>
      obtain rfl := same other rests
      refine ⟨next, request, .inr ?_⟩
      rcases approved with own | own <;> simp [own, ready, RequestStatus.stage]
  | failed other next rests approved scopes request status =>
      obtain rfl := same other rests
      refine ⟨next, request, .inr ?_⟩
      rcases approved with own | own <;> simp [own, status, RequestStatus.stage]
  | expired other next rests scopes request status =>
      obtain rfl := same other rests
      refine ⟨next, request, ?_⟩
      rw [status]
      cases other.status <;> simp [Forward, RequestStatus.stage]

/-- A scope that has been decided stays as it is. -/
theorem Moved.scope_kept (moved : Moved known before after id) (fits : Fits before id)
    {tenantId : Uuid} {scope : Scope} (found : scopeAt before id tenantId = some scope)
    (decided : scope.status ≠ .pendingReview) : scopeAt after id tenantId = some scope := by
  cases moved with
  | same _ scopes => exact (scopes tenantId).trans found
  | created next absent =>
      rw [(fits.owned absent).1] at found
      cases found
  | reviewed row next other pendingScope rests unexpired there pending others =>
      refine (others tenantId ?_).trans found
      rintro rfl
      obtain rfl := Option.some.inj (there.symm.trans found)
      exact decided pending
  | prepared _ _ _ _ _ scopes => exact (scopes tenantId).trans found
  | failed _ _ _ _ scopes => exact (scopes tenantId).trans found
  | expired _ _ _ scopes => exact (scopes tenantId).trans found

/-- An export is kept but for its content. -/
theorem Moved.export_kept (moved : Moved known before after id) {artifact : DataExport}
    (found : exportAt before id = some artifact) :
    ∃ kept, exportAt after id = some kept ∧ SameExport artifact kept := by
  have kept : exportAt after id = exportAt before id →
      ∃ kept, exportAt after id = some kept ∧ SameExport artifact kept :=
    fun same => ⟨artifact, same.trans found, .refl artifact⟩
  cases moved with
  | same _ _ same => exact kept same
  | created _ _ _ _ same => exact kept same
  | reviewed _ _ _ _ _ _ _ _ _ _ _ same => exact kept same
  | prepared _ _ _ _ _ _ _ _ absent =>
      rw [absent] at found
      cases found
  | failed _ _ _ _ _ _ _ same => exact kept same
  | expired _ _ _ _ _ _ changed =>
      rcases changed with same | ⟨earlier, later, was, is, same⟩
      · exact kept same
      · obtain rfl := Option.some.inj (was.symm.trans found)
        exact ⟨later, is, same⟩

/-- A commit that does not hold a request leaves it with its scopes and its export. -/
theorem Moved.unmoved (moved : Moved known before after id)
    (free : ∀ row, (⟨.request id, row⟩ : Sigma Row) ∉ known) : Unmoved before after id := by
  intro there
  cases moved with
  | same request scopes artifact => exact ⟨request ▸ there, scopes, artifact⟩
  | created _ absent =>
      rw [absent] at there
      cases there
  | reviewed row _ _ _ rests => exact absurd rests (free row)
  | prepared row _ _ rests => exact absurd rests (free row)
  | failed row _ rests => exact absurd rests (free row)
  | expired row _ rests => exact absurd rests (free row)

/-- A request that is new has the status that its scopes determine. -/
theorem Moved.started (moved : Moved known before after id) (current : Current known before)
    {row : DataRequest} (absent : requestAt before id = none)
    (found : requestAt after id = some row) :
    row.status = determinedStatus (statusesOf after id) := by
  have free : ∀ other : DataRequest, (⟨.request id, other⟩ : Sigma Row) ∉ known := by
    intro other rests
    have there : requestAt before id = some other := current _ rests
    rw [absent] at there
    cases there
  cases moved with
  | same request =>
      rw [request, absent] at found
      cases found
  | created next _ request status =>
      obtain rfl := Option.some.inj (request.symm.trans found)
      exact status
  | reviewed other _ _ _ rests => exact absurd rests (free other)
  | prepared other _ _ rests => exact absurd rests (free other)
  | failed other _ rests => exact absurd rests (free other)
  | expired other _ rests => exact absurd rests (free other)

end

/-! ## Rules for the statements -/

section

variable {changes : DataChanges} {knowledge : Knowledge Row} {id : Uuid}

theorem meets_require {condition : Bool} {code : JsString}
    {continuation : Unit → DataChanges → Script Row Outside Point Outcome}
    (rest : condition = true → (continuation () changes).Meets reviewing knowledge) :
    (require condition code continuation changes).Meets reviewing knowledge := by
  cases condition with
  | false => exact trivial
  | true => exact rest rfl

theorem meets_insertNew {key : Key} {row : Row key}
    {continuation : Unit → DataChanges → Script Row Outside Point Outcome}
    (rest : ∀ later, knowledge.Later later reviewing →
      (continuation () (changes.insertRow key row)).Meets reviewing later) :
    (insertNew key row continuation changes).Meets reviewing knowledge := by
  simp only [insertNew, Transaction.bind_apply]
  apply meets_query
  intro input store locks value allowed _ _
  exact ⟨trivial, rest _ (allowed.later locks)⟩

/-- A request is locked as it was found, and its scopes and its export stay as they
were found. -/
structure Locked (knowledge : Knowledge Row) (id : Uuid) (row : DataRequest) (found : DataRows) :
    Prop where
  fits : Fits found id
  there : requestAt found id = some row
  known : (⟨.request id, row⟩ : Sigma Row) ∈ knowledge.known
  unmoved : reviewing.Assures knowledge fun store =>
    SameScopes found store id ∧ exportAt store id = exportAt found id

theorem Locked.later {row : DataRequest} {found : DataRows} {later : Knowledge Row}
    (locked : Locked knowledge id row found) (moreKnown : knowledge.Later later reviewing) :
    Locked later id row found :=
  ⟨locked.fits, locked.there, moreKnown.known locked.known, locked.unmoved.later moreKnown⟩

/-- A statement that locks a request for update. -/
theorem locked_after {store : DataRows} {locks : List (Key × LockMode)} {row : DataRequest}
    (allowed : knowledge.Allows reviewing store)
    (member : (Key.request id, LockMode.update) ∈ locks) (there : requestAt store id = some row) :
    Locked (knowledge.after store locks) id row store where
  fits := allowed.kept id
  there := there
  known := Knowledge.mem_after member there
  unmoved := by
    intro later allowedLater
    have isThere := Option.isSome_of_eq_some there
    have mine : Key.request id ∈ (knowledge.after store locks).mine :=
      List.mem_append_left _ (mem_keysAt.mpr ⟨member, isThere⟩)
    exact (allowedLater.moved.2 id mine isThere).2

theorem meets_lockRequest {condition : DataRequest → Bool}
    {continuation : DataRequest → DataChanges → Script Row Outside Point Outcome}
    (rest : ∀ row found later, Locked later id row found → condition row = true →
      (continuation row ∅).Meets reviewing later) :
    (lockRequest id condition continuation ∅).Meets reviewing knowledge := by
  apply meets_query
  intro input store locks row allowed _ answered
  refine ⟨trivial, ?_⟩
  obtain ⟨found, filtered, answered⟩ := Option.map_eq_some_iff.mp answered
  obtain ⟨rfl, rfl⟩ := Prod.mk.inj answered
  obtain ⟨there, passes⟩ := Option.filter_eq_some_iff.mp filtered
  exact rest found store _
    (locked_after allowed (List.mem_singleton.mpr rfl) there) passes

/-- A commit that moves the requests as it may. -/
theorem meets_commitDone (moved : ∀ store, knowledge.Allows reviewing store →
      Admissible store changes → ∀ id, Moved knowledge.known store (applyChanges store changes) id) :
    (commitDone (fun outcome _ => .stop outcome) changes).Meets reviewing knowledge := by
  simp only [commitDone, Transaction.bind_apply]
  refine meets_commitChanges ?_ fun _ _ _ _ => trivial
  intro store allowed admissible
  exact ⟨moved store allowed admissible, trivial⟩

/-! ## The rows after a commit -/

theorem lookup_untouched (store : DataRows) {key : Key}
    (untouched : changes.lookup key = none) :
    (applyChanges store changes).lookup key = store.lookup key := by
  rw [lookup_applyChanges, untouched]
  rfl

theorem lookup_updateRow_apart (store : DataRows) {key other : Key} (row : Row key)
    (apart : other ≠ key) : (applyChanges store (changes.updateRow key row)).lookup other =
      (applyChanges store changes).lookup other := by
  rw [lookup_applyChanges, Changes.lookup_updateRow_other _ _ _ _ apart, ← lookup_applyChanges]

/-- A request that no change is about stays as it is. -/
theorem Moved.of_untouched (known : List (Sigma Row)) (store : DataRows)
    (request : changes.lookup (Key.request id) = none)
    (scopes : ∀ tenantId, changes.lookup (Key.scope id tenantId) = none)
    (artifact : changes.lookup (Key.artifact id) = none) :
    Moved known store (applyChanges store changes) id :=
  .same (lookup_untouched store request) (fun tenantId => lookup_untouched store (scopes tenantId))
    (lookup_untouched store artifact)

/-- A commit that changes nothing. -/
theorem moved_nothing (known : List (Sigma Row)) (store : DataRows) (id : Uuid) :
    Moved known store (applyChanges store ∅) id :=
  .same rfl (fun _ => rfl) rfl

/-- A new image of a request leaves the others. -/
theorem Moved.of_request (known : List (Sigma Row)) (store : DataRows) {requestId : Uuid}
    (row : DataRequest) (other : id ≠ requestId) :
    Moved known store (applyChanges store
      (Changes.updateRow (∅ : DataChanges) (.request requestId) row)) id := by
  have apart : ∀ key, key ≠ Key.request requestId →
      (Changes.updateRow (∅ : DataChanges) (.request requestId) row).lookup key = none :=
    fun key apart => Changes.lookup_updateRow_other _ _ _ _ apart
  exact .of_untouched known store (apart _ (by simpa using other)) (fun _ => apart _ (by simp))
    (apart _ (by simp))

end

/-! ## The participant's request -/

/-- The staged rows of a new request and of its scopes, which await a review. -/
structure Creates (id : Uuid) (row : DataRequest) (tenants : List Uuid) (changes : DataChanges) :
    Prop where
  request : changes.lookup (Key.request id) = some (.insert row)
  scopes : ∀ tenantId, (changes.lookup (Key.scope id tenantId)).isSome ↔ tenantId ∈ tenants
  pending : ∀ tenantId change, changes.lookup (Key.scope id tenantId) = some change →
    ∃ scope, change.image = some scope ∧ scope.status = .pendingReview
  others : ∀ key, key ≠ .request id → (∀ tenantId, key ≠ .scope id tenantId) →
    changes.lookup key = none

section

variable {id : Uuid} {row : DataRequest} {tenants : List Uuid} {changes : DataChanges}

theorem creates_request (id : Uuid) (row : DataRequest) :
    Creates id row [] (Changes.insertRow (∅ : DataChanges) (.request id) row) := by
  have apart : ∀ key, key ≠ Key.request id →
      AList.lookup key (Changes.insertRow (∅ : DataChanges) (.request id) row) = none :=
    fun key apart => AList.lookup_insert_ne apart
  refine ⟨AList.lookup_insert _, fun tenantId => ?_, fun tenantId change staged => ?_,
    fun key other _ => apart key other⟩
  · rw [apart (.scope id tenantId) (by simp)]
    simp
  · rw [apart (.scope id tenantId) (by simp)] at staged
    cases staged

theorem Creates.insertScope (creates : Creates id row tenants changes) (tenantId : Uuid)
    (assignmentIds : List Uuid) : Creates id row (tenantId :: tenants)
      (changes.insertRow (.scope id tenantId) (newScope assignmentIds)) := by
  have apart : ∀ key, key ≠ Key.scope id tenantId → AList.lookup key
      (changes.insertRow (.scope id tenantId) (newScope assignmentIds)) = changes.lookup key :=
    fun key apart => AList.lookup_insert_ne apart
  have own : AList.lookup (Key.scope id tenantId)
      (changes.insertRow (.scope id tenantId) (newScope assignmentIds)) =
        some (.insert (newScope assignmentIds)) := AList.lookup_insert _
  refine ⟨(apart _ (by simp)).trans creates.request, fun other => ?_, fun other change staged => ?_,
    fun key request scopes => (apart key (scopes tenantId)).trans (creates.others key request scopes)⟩
  · by_cases same : other = tenantId
    · subst same
      simp [own]
    · rw [apart _ (by simpa using same), creates.scopes]
      simp [same]
  · by_cases same : other = tenantId
    · subst same
      obtain rfl := Option.some.inj (own.symm.trans staged)
      exact ⟨_, rfl, rfl⟩
    · rw [apart _ (by simpa using same)] at staged
      exact creates.pending other change staged

/-- The loop over the scopes; the induction is on those still to be inserted. -/
theorem meets_insertScopes {knowledge : Knowledge Row}
    {continuation : Unit → DataChanges → Script Row Outside Point Outcome}
    (scopes : List (Uuid × List Uuid)) (creates : Creates id row tenants changes)
    (rest : ∀ all updated later, (∀ tenantId, tenantId ∈ all ↔
        tenantId ∈ scopes.map Prod.fst ∨ tenantId ∈ tenants) →
      Creates id row all updated → knowledge.Later later reviewing →
        (continuation () updated).Meets reviewing later) :
    (insertScopes id scopes continuation changes).Meets reviewing knowledge := by
  induction scopes generalizing changes knowledge tenants with
  | nil => exact rest tenants changes knowledge (by simp) creates .refl
  | cons scope others inductionHypothesis =>
      obtain ⟨tenantId, assignmentIds⟩ := scope
      simp only [insertScopes, Transaction.bind_apply]
      apply meets_insertNew
      intro later moreKnown
      apply inductionHypothesis (creates.insertScope tenantId assignmentIds)
      intro all updated last members created lastKnown
      refine rest all updated last (fun other => ?_) created (moreKnown.trans lastKnown)
      rw [members, List.map_cons, List.mem_cons, List.mem_cons]
      tauto

/-- A request is created with a status that its scopes determine. -/
theorem Creates.moved {settings : Settings} {now : Time} {scopes : List (Uuid × List Uuid)}
    {store : DataRows} (creates : Creates id (newRequest settings now scopes) tenants changes)
    (members : ∀ tenantId, tenantId ∈ tenants ↔ tenantId ∈ scopes.map Prod.fst)
    (admissible : Admissible store changes) (fits : Fits store id) (known : List (Sigma Row)) :
    Moved known store (applyChanges store changes) id := by
  have absent : requestAt store id = none := admissible.inserted _ _ creates.request
  have nothing := (fits.owned absent).1
  have written : ∀ tenantId, scopeAt (applyChanges store changes) id tenantId =
      (changes.lookup (Key.scope id tenantId)).bind Change.image := by
    intro tenantId
    rw [scopeAt, lookup_applyChanges]
    cases changes.lookup (Key.scope id tenantId) with
    | none => exact nothing tenantId
    | some change => rfl
  have request : requestAt (applyChanges store changes) id =
      some (newRequest settings now scopes) := by
    rw [requestAt, lookup_applyChanges, creates.request]
    rfl
  refine .created _ absent request ?_
    (lookup_untouched store (creates.others _ (by simp) (by simp)))
  cases scopes with
  | nil =>
      have none : ∀ status, status ∉ statusesOf (applyChanges store changes) id := by
        intro status member
        obtain ⟨tenantId, scope, found, -⟩ := mem_statusesOf.mp member
        rw [written] at found
        obtain ⟨change, staged, -⟩ := Option.bind_eq_some_iff.mp found
        have listed := (creates.scopes tenantId).mp (Option.isSome_of_eq_some staged)
        simpa using (members tenantId).mp listed
      simp [newRequest, determinedStatus, none]
  | cons scope rest =>
      have listed : scope.1 ∈ tenants := (members scope.1).mpr (by simp)
      obtain ⟨change, staged⟩ := Option.isSome_iff_exists.mp ((creates.scopes scope.1).mpr listed)
      obtain ⟨inserted, image, pending⟩ := creates.pending scope.1 change staged
      have member : .pendingReview ∈ statusesOf (applyChanges store changes) id :=
        mem_statusesOf.mpr ⟨scope.1, inserted, by rw [written, staged]; exact image, pending⟩
      simp [newRequest, determinedStatus, member]

theorem Creates.moved_other {store : DataRows} (creates : Creates id row tenants changes)
    {other : Uuid} (apart : other ≠ id) (known : List (Sigma Row)) :
    Moved known store (applyChanges store changes) other :=
  .of_untouched known store (creates.others _ (by simpa using apart) (by simp))
    (fun _ => creates.others _ (by simp) (by simp [apart]))
    (creates.others _ (by simp) (by simp))

end

theorem createParticipantDataRequest_meets (settings : Settings) (store : DataRows) :
    (createParticipantDataRequest settings).script.Meets reviewing (.start store) := by
  simp only [Transaction.script, createParticipantDataRequest, clock, randomUUID,
    Transaction.bind_apply]
  apply meets_fromOutside reviewing_unpromising
  intro now _ _
  apply meets_fromOutside reviewing_unpromising
  intro assignments _ _
  apply meets_fromOutside reviewing_unpromising
  intro id _ _
  apply meets_insertNew
  intro later _
  apply meets_insertScopes _ (creates_request id _)
  intro tenants changes last members creates _
  apply meets_commitDone
  intro committed allowed admissible other
  by_cases same : other = id
  · subst same
    exact creates.moved (by simpa using members) admissible (allowed.kept other) _
  · exact creates.moved_other same _

/-! ## The review -/

/-- The change of a scope that is reviewed. -/
def scopeChange (command : ReviewCommand) (scope : Scope) (now : Time) : DataChanges :=
  Changes.updateRow (∅ : DataChanges) (.scope command.requestId command.tenantId)
    (command.review scope now)

/-- The changes of a review that counts its scopes. -/
def reviewChanges (command : ReviewCommand) (scope : Scope) (request : DataRequest)
    (statuses : List ScopeStatus) (now : Time) : DataChanges :=
  (scopeChange command scope now).updateRow (.request command.requestId)
    (afterReview request statuses now)

section

variable {command : ReviewCommand} {scope : Scope} {request : DataRequest} {now : Time}

/-- The scopes as the review leaves them. -/
theorem scopeAt_scopeChange (store : DataRows) (id tenantId : Uuid) :
    scopeAt (applyChanges store (scopeChange command scope now)) id tenantId =
      if id = command.requestId ∧ tenantId = command.tenantId then some (command.review scope now)
      else scopeAt store id tenantId := by
  split
  case isTrue same =>
    obtain ⟨rfl, rfl⟩ := same
    exact lookup_applyChanges_updateRow _ _ _ _
  case isFalse other =>
    exact lookup_updateRow_apart store _ (by simpa using other)

theorem scopeAt_reviewChanges (store : DataRows) (statuses : List ScopeStatus)
    (id tenantId : Uuid) :
    scopeAt (applyChanges store (reviewChanges command scope request statuses now)) id tenantId =
      if id = command.requestId ∧ tenantId = command.tenantId then some (command.review scope now)
      else scopeAt store id tenantId :=
  (lookup_updateRow_apart store _ (by simp)).trans (scopeAt_scopeChange store id tenantId)

/-- A review leaves the request with the status that its scopes determine. -/
theorem reviewChanges_moved {found read store : DataRows} {knowledge : Knowledge Row}
    {statuses : List ScopeStatus} (locked : Locked knowledge command.requestId request found)
    (there : scopeAt found command.requestId command.tenantId = some scope)
    (pending : scope.status = .pendingReview) (unexpired : request.status ≠ .expired)
    (counted : statuses =
      statusesOf (applyChanges read (scopeChange command scope now)) command.requestId)
    (readAlike : SameScopes found read command.requestId)
    (allowed : knowledge.Allows reviewing store) (id : Uuid) :
    Moved knowledge.known store
      (applyChanges store (reviewChanges command scope request statuses now)) id := by
  have artifact : exportAt (applyChanges store
      (reviewChanges command scope request statuses now)) id = exportAt store id :=
    (lookup_updateRow_apart store _ (by simp)).trans (lookup_updateRow_apart store _ (by simp))
  by_cases same : id = command.requestId
  · subst same
    obtain ⟨storeAlike, -⟩ := locked.unmoved store allowed
    refine .reviewed request _ command.tenantId scope locked.known unexpired
      ((storeAlike _).trans there) pending (fun other apart => ?_)
      (lookup_applyChanges_updateRow _ _ _ _) ?_ artifact
    · rw [scopeAt_reviewChanges, if_neg (by simp [apart])]
    · have reviewed : (command.review scope now).status ∈ statuses := by
        rw [counted]
        exact mem_statusesOf.mpr ⟨command.tenantId, _, by rw [scopeAt_scopeChange]; simp, rfl⟩
      refine (reviewedStatus_eq (List.ne_nil_of_mem reviewed)).trans
        (determinedStatus_congr fun status => ?_)
      have members : status ∈ statuses ↔ ∃ tenantId own, scopeAt (applyChanges read
          (scopeChange command scope now)) command.requestId tenantId = some own ∧
            own.status = status := by rw [counted, mem_statusesOf]
      rw [members, mem_statusesOf]
      simp only [scopeAt_scopeChange, scopeAt_reviewChanges, readAlike _, storeAlike _]
  · refine .same ((lookup_updateRow_apart store _ (by simpa using same)).trans
      (lookup_updateRow_apart store _ (by simp))) (fun tenantId => ?_) artifact
    rw [scopeAt_reviewChanges, if_neg (by simp [same])]

end

theorem reviewDataRequest_meets (command : ReviewCommand) (store : DataRows) :
    (reviewDataRequest command).script.Meets reviewing (.start store) := by
  simp only [Transaction.script, reviewDataRequest, clock, Transaction.bind_apply]
  apply meets_query
  rintro input found locks ⟨request, scope⟩ allowed _ answered
  refine ⟨trivial, ?_⟩
  obtain ⟨own, there, answered⟩ := Option.bind_eq_some_iff.mp answered
  obtain ⟨pendingScope, scopeThere, answered⟩ := Option.bind_eq_some_iff.mp answered
  obtain ⟨rfl, both⟩ := Prod.mk.inj (Option.some.inj answered)
  obtain ⟨rfl, rfl⟩ := Prod.mk.inj both
  have member : (Key.request command.requestId, LockMode.update) ∈
      [(Key.scope command.requestId command.tenantId, LockMode.update),
        (Key.request command.requestId, LockMode.update)] := by simp
  have locked := locked_after allowed member there
  apply meets_require
  intro pending
  apply meets_fromOutside reviewing_unpromising
  intro now later moreKnown
  apply meets_require
  intro unexpired
  simp only [stageChanges, Transaction.bind_apply]
  apply meets_readRows reviewing_unpromising
  intro _ read readAllowed
  have lockedThen := locked.later moreKnown
  apply meets_commitDone
  intro committed allowedThen _ id
  simp only [Bool.and_eq_true, decide_eq_true_eq] at unexpired
  exact reviewChanges_moved (lockedThen.later (readAllowed.later [])) scopeThere
    (of_decide_eq_true pending) unexpired.2 rfl (lockedThen.unmoved read readAllowed).1
    allowedThen id

/-! ## The preparation -/

section

variable {row : DataRequest} {found : DataRows} {knowledge : Knowledge Row} {id : Uuid}

/-- A commit that only fails to prepare an export. -/
theorem failed_moved {next : DataRequest} {store : DataRows}
    (locked : Locked knowledge id row found)
    (approved : row.status = .approved ∨ row.status = .partiallyApproved)
    (failed : next.status = .preparationFailed) (other : Uuid) :
    Moved knowledge.known store
      (applyChanges store (Changes.updateRow (∅ : DataChanges) (.request id) next)) other := by
  by_cases same : other = id
  · subst same
    exact .failed row next locked.known approved
      (fun _ => lookup_updateRow_apart store _ (by simp))
      (lookup_applyChanges_updateRow _ _ _ _) failed (lookup_updateRow_apart store _ (by simp))
  · exact .of_request _ store next same

/-- The changes that store an export. -/
def exportChanges (id : Uuid) (artifact : DataExport) (next : DataRequest) : DataChanges :=
  (Changes.insertRow (∅ : DataChanges) (.artifact id) artifact).updateRow (.request id) next

/-- A commit that stores an export. -/
theorem exportChanges_moved {next : DataRequest} {artifact : DataExport} {store : DataRows}
    (locked : Locked knowledge id row found)
    (approved : row.status = .approved ∨ row.status = .partiallyApproved)
    (ready : next.status = .ready) (exact : Exact found id artifact.scopes)
    (allowed : knowledge.Allows reviewing store)
    (admissible : Admissible store (exportChanges id artifact next)) (other : Uuid) :
    Moved knowledge.known store (applyChanges store (exportChanges id artifact next)) other := by
  have staged : ∀ key, key ≠ Key.request id → AList.lookup key (exportChanges id artifact next) =
      AList.lookup key (Changes.insertRow (∅ : DataChanges) (.artifact id) artifact) :=
    fun key apart => Changes.lookup_updateRow_other _ _ _ _ apart
  have own : AList.lookup (Key.artifact id) (exportChanges id artifact next) =
      some (.insert artifact) := (staged _ (by simp)).trans (AList.lookup_insert _)
  have untouched : ∀ key, key ≠ Key.request id → key ≠ Key.artifact id →
      AList.lookup key (exportChanges id artifact next) = none :=
    fun key request apart => (staged key request).trans (AList.lookup_insert_ne apart)
  by_cases same : other = id
  · subst same
    obtain ⟨scopes, -⟩ := locked.unmoved store allowed
    refine .prepared row next artifact locked.known approved
      (fun tenantId => lookup_untouched store (untouched _ (by simp) (by simp)))
      (lookup_applyChanges_updateRow _ _ _ _) ready (admissible.inserted _ _ own) ?_
      (scopes.exact exact)
    rw [exportAt, lookup_applyChanges, own]
    rfl
  · exact .of_untouched _ store (untouched _ (by simpa using same) (by simp))
      (fun _ => untouched _ (by simp) (by simp)) (untouched _ (by simp) (by simpa using same))

end

theorem prepareOne_meets (settings : Settings) (store : DataRows) :
    (prepareOne settings).script.Meets reviewing (.start store) := by
  simp only [Transaction.script, prepareOne, clock, Transaction.bind_apply]
  apply meets_fromOutside reviewing_unpromising
  intro now _ _
  apply meets_query
  intro _ _ _ id _ _ _
  refine ⟨trivial, ?_⟩
  apply meets_lockRequest
  intro request found later locked passes
  simp only [Bool.and_eq_true, Bool.or_eq_true, decide_eq_true_eq] at passes
  apply meets_readRows reviewing_unpromising
  intro _ read readAllowed
  rw [applyChanges_empty]
  have lockedRead := locked.later (readAllowed.later [])
  apply meets_fromOutside reviewing_unpromising
  intro load last lastKnown
  have lockedLast := lockedRead.later lastKnown
  dsimp only
  cases built : buildParticipantDataExport (scopesOf read id) load with
  | none => exact trivial
  | some exported =>
      have exact : Exact found id exported :=
        SameScopes.exact (fun tenantId => ((locked.unmoved read readAllowed).1 tenantId).symm)
          (buildParticipantDataExport_exact built)
      dsimp only
      cases settings.encode id request now exported with
      | none => exact trivial
      | some bytes =>
          dsimp only
          split_ifs
          · simp only [stageChanges, Transaction.bind_apply]
            exact meets_commitDone fun _ _ _ other => failed_moved lockedLast passes.1 rfl other
          · simp only [persistParticipantDataExport, randomUUID, Transaction.bind_apply]
            apply meets_fromOutside reviewing_unpromising
            intro exportId _ idKnown
            apply meets_require
            intro _
            apply meets_insertNew
            intro final finalKnown
            simp only [stageChanges, Transaction.bind_apply]
            have lockedFinal := (lockedLast.later idKnown).later finalKnown
            exact meets_commitDone fun _ allowedThen admissible other =>
              exportChanges_moved lockedFinal passes.1 rfl exact allowedThen admissible other

/-! ## The expiry -/

section

variable {row : DataRequest} {found : DataRows} {knowledge : Knowledge Row} {id : Uuid}

/-- A commit that expires a request. -/
theorem expire_moved {store : DataRows} (locked : Locked knowledge id row found) (now : Time)
    (other : Uuid) : Moved knowledge.known store (applyChanges store
      (Changes.updateRow (∅ : DataChanges) (.request id) (expire row now))) other := by
  by_cases same : other = id
  · subst same
    exact .expired row (expire row now) locked.known
      (fun _ => lookup_updateRow_apart store _ (by simp))
      (lookup_applyChanges_updateRow _ _ _ _) rfl (.inl (lookup_updateRow_apart store _ (by simp)))
  · exact .of_request _ store _ same

/-- The changes that delete the content of an export. -/
def contentChanges (id : Uuid) (artifact : DataExport) (next : DataRequest) (now : Time) :
    DataChanges :=
  (Changes.updateRow (∅ : DataChanges) (.artifact id) (deleteContent artifact now)).updateRow
    (.request id) next

/-- A commit that deletes the content of an export and expires its request. -/
theorem contentChanges_moved {artifact : DataExport} {store : DataRows}
    (locked : Locked knowledge id row found) (there : exportAt found id = some artifact)
    (now : Time) (allowed : knowledge.Allows reviewing store) (other : Uuid) :
    Moved knowledge.known store
      (applyChanges store (contentChanges id artifact (expire row now) now)) other := by
  by_cases same : other = id
  · subst same
    obtain ⟨-, artifactAlike⟩ := locked.unmoved store allowed
    refine .expired row (expire row now) locked.known
      (fun _ => (lookup_updateRow_apart store _ (by simp)).trans
        (lookup_updateRow_apart store _ (by simp)))
      (lookup_applyChanges_updateRow _ _ _ _) rfl (.inr ⟨artifact, deleteContent artifact now,
        artifactAlike.trans there, ?_, rfl⟩)
    exact (lookup_updateRow_apart store _ (by simp)).trans
      (lookup_applyChanges_updateRow _ _ _ _)
  · refine .of_untouched _ store ?_ (fun _ => ?_) ?_
    · exact (Changes.lookup_updateRow_other _ _ _ _ (by simpa using same)).trans
        (Changes.lookup_updateRow_other _ _ _ _ (by simp))
    · exact (Changes.lookup_updateRow_other _ _ _ _ (by simp)).trans
        (Changes.lookup_updateRow_other _ _ _ _ (by simp))
    · exact (Changes.lookup_updateRow_other _ _ _ _ (by simp)).trans
        (Changes.lookup_updateRow_other _ _ _ _ (by simpa using same))

theorem expireParticipantDataExport_meets (locked : Locked knowledge id row found) :
    (expireParticipantDataExport id row (fun outcome _ => .stop outcome) ∅).Meets reviewing
      knowledge := by
  simp only [expireParticipantDataExport, Transaction.bind_apply]
  apply meets_query
  rintro input read locks ⟨artifact, now⟩ allowed _ answered
  refine ⟨trivial, ?_⟩
  obtain ⟨own, there, answered⟩ := Option.map_eq_some_iff.mp answered
  obtain ⟨rfl, both⟩ := Prod.mk.inj answered
  obtain ⟨rfl, rfl⟩ := Prod.mk.inj both
  have lockedLater := locked.later (allowed.later [(Key.artifact id, LockMode.update)])
  have artifactThere : exportAt found id = some own :=
    (locked.unmoved read allowed).2.symm.trans there
  dsimp only
  split_ifs
  · exact meets_commitDone fun store _ _ other => moved_nothing _ store other
  · simp only [Transaction.bind_apply]
    apply meets_require
    intro _
    simp only [stageChanges, Transaction.bind_apply]
    exact meets_commitDone fun _ allowedThen _ other =>
      contentChanges_moved lockedLater artifactThere _ allowedThen other

end

theorem expireOneParticipantDataRequest_meets (store : DataRows) :
    expireOneParticipantDataRequest.script.Meets reviewing (.start store) := by
  simp only [Transaction.script, expireOneParticipantDataRequest, clock, Transaction.bind_apply]
  apply meets_fromOutside reviewing_unpromising
  intro now _ _
  apply meets_readRows reviewing_unpromising
  intro input read _
  dsimp only
  apply meets_lockRequest
  intro request found later locked _
  split_ifs
  · exact expireParticipantDataExport_meets locked
  · simp only [stageChanges, Transaction.bind_apply]
    exact meets_commitDone fun _ _ _ other => expire_moved locked now other

/-! ## The export reads -/

theorem openParticipantDataExport_meets (requestId : Uuid) (store : DataRows) :
    (openParticipantDataExport requestId).script.Meets reviewing (.start store) := by
  simp only [Transaction.script, openParticipantDataExport, clock, Transaction.bind_apply]
  apply meets_fromOutside reviewing_unpromising
  intro now _ _
  apply meets_lockRequest
  intro request found later _ _
  dsimp only
  cases dataRequestExportable request now with
  | error code => exact trivial
  | ok _ =>
      simp only [Transaction.bind_apply]
      apply meets_readRows reviewing_unpromising
      intro _ read _
      cases exportAt (applyChanges read ∅) requestId with
      | none => exact trivial
      | some artifact =>
          simp only [Transaction.bind_apply]
          apply meets_require
          intro _
          refine meets_commitChanges ?_ fun _ _ _ _ => trivial
          intro last _ _
          exact ⟨moved_nothing _ last, trivial⟩

/-- An export that is read with its expiry ahead is there with the same expiry later. -/
theorem delivers_after {knowledge : Knowledge Row} {store : DataRows}
    {locks : List (Key × LockMode)} {requestId exportId : Uuid} {now : Time}
    {artifact : DataExport} (found : exportAt store requestId = some artifact)
    (same : artifact.id = exportId) (ahead : now < artifact.expiresAt) (bytes : List Byte) :
    reviewing.Assures (knowledge.after store locks)
      (Delivers (.returnChunk requestId exportId now bytes)) := by
  intro later allowed
  obtain ⟨kept, there, alike⟩ := allowed.moved.1 requestId artifact found
  exact ⟨kept, there, by rw [alike]; exact same, by rw [alike]; exact ahead⟩

theorem readParticipantDataExportChunk_meets (command : ChunkCommand) (store : DataRows) :
    (readParticipantDataExportChunk command).script.Meets reviewing (.start store) := by
  simp only [Transaction.script, readParticipantDataExportChunk, clock, Transaction.bind_apply]
  apply meets_fromOutside reviewing_unpromising
  intro now _ _
  apply meets_readRows reviewing_unpromising
  intro _ _ _
  apply meets_require
  intro _
  apply meets_readRows reviewing_unpromising
  intro _ read _
  dsimp only
  cases filtered : (exportAt (applyChanges read ∅) command.requestId).filter
      (fun artifact => artifact.id = command.exportId) with
  | none => exact trivial
  | some artifact =>
      obtain ⟨found, same⟩ := Option.filter_eq_some_iff.mp filtered
      simp only [Transaction.bind_apply]
      apply meets_require
      intro ahead
      simp only [Bool.and_eq_true, decide_eq_true_eq] at ahead
      apply meets_require
      intro _
      apply meets_readRows reviewing_unpromising
      intro _ last lastAllowed
      dsimp only
      generalize (exportAt (applyChanges last ∅) command.requestId).bind _ = chunk
      cases chunk with
      | none => exact trivial
      | some bytes =>
          simp only [Transaction.bind_apply]
          refine meets_commitChanges ?_ fun _ _ _ _ => trivial
          intro committed allowed _
          exact ⟨moved_nothing _ committed,
            (delivers_after found (of_decide_eq_true same) ahead.2 bytes).later
              (lastAllowed.later []) committed allowed⟩

/-- Every operation keeps the contract. -/
theorem reviewing_valid (settings : Settings) : reviewing.Valid (start settings) where
  keeps := by
    intro point known before after commits
    refine ⟨fun id => (commits.effect.1 id).fits commits.current (commits.kept id),
      fun held free => ⟨fun id artifact found => (commits.effect.1 id).export_kept found,
        fun id holds => (commits.effect.1 id).unmoved fun row rests => free _ rests holds⟩⟩
  meets := by
    intro operation store _
    cases operation with
    | createParticipantDataRequest => exact createParticipantDataRequest_meets settings store
    | reviewDataRequest command => exact reviewDataRequest_meets command store
    | prepareOne => exact prepareOne_meets settings store
    | expireOneParticipantDataRequest => exact expireOneParticipantDataRequest_meets store
    | openParticipantDataExport requestId => exact openParticipantDataExport_meets requestId store
    | readParticipantDataExportChunk command =>
        exact readParticipantDataExportChunk_meets command store

/-! ## Every run -/

/-- What holds of the data requests in a state. The status of a request that has not
expired follows from its scopes, also when it is created, and from here on moves only
forward; a scope that has been decided on stays; an export has exactly the records of
the approved scopes, none of which is pending, and stays the only one of its request;
and the chunk that a session is about to return is one of an export before its expiry. -/
structure Lawful (settings : Settings) (state : DataState) : Prop where
  determined : ∀ id row, requestAt state.store id = some row → row.status ≠ .expired →
    Determined row.status (statusesOf state.store id) ∧
      (row.status = .pendingReview ↔ .pendingReview ∈ statusesOf state.store id) ∧
      (row.status = .ready ↔ (exportAt state.store id).isSome)
  started : ∀ after, Step (start settings) (Guard.none Row Outside Point) state after →
    ∀ id row, requestAt state.store id = none → requestAt after.store id = some row →
      row.status = determinedStatus (statusesOf after.store id) ∧
        (statusesOf after.store id = [] → row.status = .approved)
  forward : ∀ later, Runs (start settings) (Guard.none Row Outside Point) state later →
    ∀ id row, requestAt state.store id = some row →
      ∃ next, requestAt later.store id = some next ∧ Forward row.status next.status
  reviewed : ∀ later, Runs (start settings) (Guard.none Row Outside Point) state later →
    ∀ id tenantId scope, scopeAt state.store id tenantId = some scope →
      scope.status ≠ .pendingReview → scopeAt later.store id tenantId = some scope
  exported : ∀ id artifact, exportAt state.store id = some artifact →
    .pendingReview ∉ statusesOf state.store id ∧ Exact state.store id artifact.scopes
  once : ∀ later, Runs (start settings) (Guard.none Row Outside Point) state later →
    ∀ id artifact, exportAt state.store id = some artifact →
      ∃ kept, exportAt later.store id = some kept ∧ SameExport artifact kept
  delivered : ∀ session requestId exportId now bytes changes next held after,
    state.sessions.lookup session =
      some ⟨.commit (.returnChunk requestId exportId now bytes) changes next, held⟩ →
    step (start settings) state (.commit session) = some after →
    ∃ artifact, exportAt state.store requestId = some artifact ∧ artifact.id = exportId ∧
      now < artifact.expiresAt

section

variable {settings : Settings} {state later : DataState}

/-- The status of a request moves forward through every run. -/
theorem Holds.forward (holds : Holds reviewing state)
    (run : Runs (start settings) (Guard.none Row Outside Point) state later) {id : Uuid}
    {row : DataRequest} (found : requestAt state.store id = some row) :
    ∃ next, requestAt later.store id = some next ∧ Forward row.status next.status := by
  refine holds.keeps (reviewing_valid settings) (fun store => ∃ next,
    requestAt store id = some next ∧ Forward row.status next.status) ?_
    ⟨row, found, .inl rfl⟩ run
  rintro point known before after ⟨next, there, moved⟩ commits
  obtain ⟨last, final, further⟩ :=
    (commits.effect.1 id).forward commits.current (commits.kept id) there
  exact ⟨last, final, moved.trans further⟩

/-- A decided scope stays as it is through every run. -/
theorem Holds.reviewed (holds : Holds reviewing state)
    (run : Runs (start settings) (Guard.none Row Outside Point) state later) {id tenantId : Uuid}
    {scope : Scope} (found : scopeAt state.store id tenantId = some scope)
    (decided : scope.status ≠ .pendingReview) : scopeAt later.store id tenantId = some scope := by
  refine holds.keeps (reviewing_valid settings) (fun store => scopeAt store id tenantId = some scope)
    ?_ found run
  intro point known before after there commits
  exact (commits.effect.1 id).scope_kept (commits.kept id) there decided

/-- An export stays the one of its request through every run. -/
theorem Holds.once (holds : Holds reviewing state)
    (run : Runs (start settings) (Guard.none Row Outside Point) state later) {id : Uuid}
    {artifact : DataExport} (found : exportAt state.store id = some artifact) :
    ∃ kept, exportAt later.store id = some kept ∧ SameExport artifact kept := by
  refine holds.keeps (reviewing_valid settings) (fun store => ∃ kept,
    exportAt store id = some kept ∧ SameExport artifact kept) ?_
    ⟨artifact, found, .refl artifact⟩ run
  rintro point known before after ⟨kept, there, same⟩ commits
  obtain ⟨last, final, alike⟩ := (commits.effect.1 id).export_kept there
  exact ⟨last, final, same.trans alike⟩

/-- A request is created with the status that its scopes determine. -/
theorem Holds.started (holds : Holds reviewing state)
    (stepped : Step (start settings) (Guard.none Row Outside Point) state later) {id : Uuid}
    {row : DataRequest} (absent : requestAt state.store id = none)
    (found : requestAt later.store id = some row) :
    row.status = determinedStatus (statusesOf later.store id) ∧
      (statusesOf later.store id = [] → row.status = .approved) := by
  rcases (holds.step (reviewing_valid settings) stepped).2 with same | ⟨point, known, commits⟩
  · rw [same, absent] at found
    cases found
  · have status := (commits.effect.1 id).started commits.current absent found
    refine ⟨status, fun none => ?_⟩
    rw [status, none]
    rfl

/-- A chunk is returned before the export expires. -/
theorem Holds.delivered (holds : Holds reviewing state) {session : SessionId}
    {requestId exportId : Uuid} {now : Time} {bytes : List Byte} {changes : DataChanges}
    {next : Script Row Outside Point Outcome} {held : List (Key × LockMode)}
    (found : state.sessions.lookup session =
      some ⟨.commit (.returnChunk requestId exportId now bytes) changes next, held⟩)
    (stepped : step (start settings) state (.commit session) = some later) :
    Delivers (.returnChunk requestId exportId now bytes) state.store := by
  rw [step, found, Option.bind_some, commitSession, Option.ite_none_right_eq_some] at stepped
  obtain ⟨known, commits, -, -⟩ := holds.commits found rfl stepped.1
  exact commits.effect.2

end

/-- In every run of the operations, by participants, by reviewers of any tenants and by the
workers, the data requests are lawful in every state. -/
def DataRequestsLawful (settings : Settings) : Prop :=
  ∀ state, Runs (start settings) (Guard.none Row Outside Point)
    (State.idle Row Outside Point Outcome ∅) state → Lawful settings state

theorem data_requests_lawful (settings : Settings) : DataRequestsLawful settings := by
  intro state run
  have nothing : ∀ id, Fits (∅ : DataRows) id := fun id =>
    ⟨fun _ => ⟨fun _ => rfl, rfl⟩, by rintro row ⟨⟩, by rintro row ⟨⟩, by rintro artifact ⟨⟩⟩
  have idle : Holds reviewing (State.idle Row Outside Point Outcome ∅) := Holds.idle nothing
  obtain ⟨holds, -⟩ := idle.runs (reviewing_valid settings) run
  exact {
    determined := fun id row found unexpired =>
      have determined := (holds.kept id).determined row found unexpired
      ⟨determined, determined.pendingReview_iff, (holds.kept id).ready_iff found unexpired⟩
    started := fun _ stepped _ _ absent found => Holds.started holds stepped absent found
    forward := fun _ onward _ _ found => Holds.forward holds onward found
    reviewed := fun _ onward _ _ _ found decided => Holds.reviewed holds onward found decided
    exported := fun id artifact found => ((holds.kept id).prepared artifact found).2
    once := fun _ onward _ _ found => Holds.once holds onward found
    delivered := fun _ _ _ _ _ _ _ _ _ found stepped => Holds.delivered holds found stepped }

/-- A request with one record that its tenant approves, the preparation of its export and
the read of its only chunk. -/
example :
    let settings : Settings := ⟨30, 7, 1000, 1000, fun _ _ _ _ => some [123, 125]⟩
    let operations : List (ℕ × Operation) :=
      [(5, .createParticipantDataRequest), (3, .reviewDataRequest ⟨5, 7, true, false⟩),
        (7, .prepareOne), (4, .readParticipantDataExportChunk ⟨5, 5, 0⟩)]
    let outside : Outside := ⟨1, 1, 5, 5, [(9, 7)], fun _ _ _ => some .null⟩
    let labels : List (Label Outside Operation) := operations.flatMap fun operation =>
      .openSession 0 operation.2 :: List.replicate operation.1 (.statement 0 outside) ++
        [.commit 0, .rollback 0]
    (execute (start settings) (Guard.none Row Outside Point)
      (State.idle Row Outside Point Outcome ∅) labels).map (fun state =>
        ((requestAt state.store 5).map DataRequest.status,
          (exportAt state.store 5).map fun artifact => artifact.scopes.map fun scope =>
            (scope.tenantId, scope.records.map Prod.fst))) =
      some (some .ready, some [(7, [9])]) := by
  decide +kernel

end Vasi.DataRequests
