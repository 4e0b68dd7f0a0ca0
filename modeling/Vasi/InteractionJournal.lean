import Vasi.InteractionStore

/-!
# The journal of an activity

What the recorder is for: an activity has a journal of the batches that were accepted, each once
and in order. Its rows, the summaries and the evidence of the assignment are views of it. Each
batch goes on where its telemetry session ended, and each summary is that of all events so far,
in whatever order they are read.
-/
namespace Vasi.InteractionStore

open JsValue IsoTime CanonicalJson ReadCommitted Validation
open EngineRows (ActivityStatus ChainRow EvidenceEvent Uuid)
open EvidenceEvents (Environment NewEvent appendEvent newChain wholeNumber)
open ActivityInteraction (StoredRow calculateActivityInteractionSummary)

/-! ## Journals -/

/-- A batch that was accepted, and what was made of it. -/
structure Entry where
  actorPrincipalId : JsString
  input : InteractionBatch
  payloadHash : JsString
  receivedAt : Time
  revision : SummaryRevision

def Entry.rows (entry : Entry) : List EventRow := entry.input.rows entry.receivedAt

def Entry.batch (key : ActivityKey) (entry : Entry) : BatchRow where
  activity := key
  interactionId := entry.input.interactionId
  telemetrySessionId := entry.input.telemetrySessionId
  actorPrincipalId := entry.actorPrincipalId
  eventCount := entry.input.events.length
  payloadHash := entry.payloadHash
  receivedAt := entry.receivedAt

def Entry.payload (entry : Entry) : Value :=
  recordedPayload entry.input entry.payloadHash entry.revision

/-- The events of all batches. -/
def eventsOf (journal : List Entry) : List EventRow := journal.flatMap Entry.rows

@[simp] theorem eventsOf_snoc (journal : List Entry) (entry : Entry) :
    eventsOf (journal ++ [entry]) = eventsOf journal ++ entry.rows := by
  simp [eventsOf]

/-- Within a session each row continues the earlier ones. -/
def InOrder (rows : List EventRow) : Prop :=
  rows.Pairwise fun earlier later =>
    earlier.telemetrySessionId = later.telemetrySessionId → Continues earlier.event later.event

section

variable (settings : Settings) (key : ActivityKey)

/-- A batch that may be entered after those of a journal. -/
structure Accepted (journal : List Entry) (entry : Entry) : Prop where
  own : entry.input.activityId = key.activityId
  hashed : hashCanonicalJSON settings.sha256Hex (batchDocument entry.input) = .ok entry.payloadHash
  fresh : ∀ earlier ∈ journal, earlier.input.batchId ≠ entry.input.batchId
  fits : (eventsOf (journal ++ [entry])).length ≤ settings.maxEventsPerActivity
  goesOn : ∀ row ∈ eventsOf journal, row.telemetrySessionId = entry.input.telemetrySessionId →
    ∀ event ∈ entry.input.events, Continues row.event event ∧ row.event.id ≠ event.id
  numbered : entry.revision.revision = journal.length + 1
  policy : entry.revision.policy = settings.policy
  summarized : ∀ rows : List EventRow, rows.Perm (eventsOf (journal ++ [entry])) →
    calculateActivityInteractionSummary settings.policy (rows.map EventRow.stored) =
      .ok entry.revision.summary
  summaryHashed : hashCanonicalJSON settings.sha256Hex (summaryDocument entry.revision.summary) =
    .ok entry.revision.summaryHash

/-- A journal that was written batch by batch. -/
inductive Lawful : List Entry → Prop
  | nil : Lawful []
  | snoc {journal : List Entry} {entry : Entry} (earlier : Lawful journal)
      (accepted : Accepted settings key journal entry) : Lawful (journal ++ [entry])

end

variable {settings : Settings} {key : ActivityKey}

theorem Continues.trans {first second third : BatchEvent} (one : Continues first second)
    (other : Continues second third) : Continues first third :=
  ⟨one.1.trans other.1, one.2.trans other.2⟩

instance : IsTrans BatchEvent Continues := ⟨fun _ _ _ => Continues.trans⟩

/-- The events of a batch are in order. -/
theorem InteractionBatch.pairwise (input : InteractionBatch) : input.events.Pairwise Continues :=
  input.continues.pairwise

theorem InteractionBatch.rows_inOrder (input : InteractionBatch) (receivedAt : Time) :
    InOrder (input.rows receivedAt) := by
  refine List.pairwise_map.mpr (input.pairwise.imp ?_)
  exact fun continued _ => continued

theorem mem_rows {input : InteractionBatch} {receivedAt : Time} {row : EventRow}
    (inside : row ∈ input.rows receivedAt) :
    row.telemetrySessionId = input.telemetrySessionId ∧ row.event ∈ input.events := by
  obtain ⟨event, there, rfl⟩ := List.mem_map.mp inside
  exact ⟨rfl, there⟩

/-- Rows stay in order when a batch goes on where its session ends. -/
theorem InOrder.append {rows : List EventRow} (ordered : InOrder rows) {input : InteractionBatch}
    {receivedAt : Time}
    (goesOn : ∀ row ∈ rows, row.telemetrySessionId = input.telemetrySessionId →
      ∀ event ∈ input.events, Continues row.event event) :
    InOrder (rows ++ input.rows receivedAt) := by
  refine List.pairwise_append.mpr ⟨ordered, input.rows_inOrder receivedAt, ?_⟩
  intro row inside added new same
  obtain ⟨session, event⟩ := mem_rows new
  exact goesOn row inside (same.trans session) _ event

theorem Lawful.inOrder {journal : List Entry} (lawful : Lawful settings key journal) :
    InOrder (eventsOf journal) := by
  induction lawful with
  | nil => exact .nil
  | snoc _ accepted inductionHypothesis =>
      rw [eventsOf_snoc]
      exact inductionHypothesis.append fun row inside same event there =>
        (accepted.goesOn row inside same event there).1

/-- Revisions are numbered from one. -/
theorem Lawful.nextRevision {journal : List Entry} (lawful : Lawful settings key journal) :
    nextRevision (journal.map Entry.revision) = journal.length + 1 := by
  induction lawful with
  | nil => rfl
  | snoc _ accepted inductionHypothesis =>
      unfold InteractionStore.nextRevision at inductionHypothesis ⊢
      simp only [List.map_append, List.foldl_append, List.map_cons, List.map_nil, List.foldl_cons,
        List.foldl_nil, accepted.numbered, List.length_append, List.length_singleton]
      omega

/-- Rows in order have different sequences within a session. -/
theorem InOrder.unique {rows : List EventRow} (ordered : InOrder rows) :
    ActivityInteraction.UniqueRows (rows.map EventRow.stored) := by
  unfold ActivityInteraction.UniqueRows
  rw [List.map_map]
  refine List.pairwise_map.mpr (ordered.imp fun continued same => ?_)
  obtain ⟨session, sequence⟩ := Prod.mk.inj same
  exact absurd sequence (continued session).1.ne

/-! ## The last row of a session -/

instance : Std.Total descending :=
  ⟨fun left right => le_total right.event.sequence left.event.sequence⟩

instance : IsTrans EventRow descending := ⟨fun _ _ _ one other => other.trans one⟩

theorem lastOfSession_spec {rows : List EventRow} {row : EventRow} (inside : row ∈ rows) :
    ∃ previous ∈ rows, lastOfSession rows row.telemetrySessionId = some previous ∧
      previous.telemetrySessionId = row.telemetrySessionId ∧
      row.event.sequence ≤ previous.event.sequence := by
  unfold lastOfSession
  have mine : row ∈ rows.filter fun other =>
      other.telemetrySessionId = row.telemetrySessionId := by
    simpa using inside
  have perm := List.perm_insertionSort descending
    (rows.filter fun other => other.telemetrySessionId = row.telemetrySessionId)
  have sorted := List.pairwise_insertionSort descending
    (rows.filter fun other => other.telemetrySessionId = row.telemetrySessionId)
  cases arranged : (rows.filter fun other =>
      other.telemetrySessionId = row.telemetrySessionId).insertionSort descending with
  | nil =>
      rw [arranged] at perm
      exact absurd (perm.mem_iff.mpr mine) List.not_mem_nil
  | cons head rest =>
      rw [arranged] at perm sorted
      have there := perm.mem_iff.mp List.mem_cons_self
      rw [List.mem_filter, decide_eq_true_iff] at there
      refine ⟨head, there.1, rfl, there.2, ?_⟩
      rcases List.mem_cons.mp (perm.mem_iff.mpr mine) with rfl | later
      · exact le_rfl
      · exact (List.pairwise_cons.mp sorted).1 row later

/-- Of two rows of a session, the one with the higher sequence is not earlier in time. -/
theorem InOrder.monotonic {rows : List EventRow} (ordered : InOrder rows) {row last : EventRow}
    (there : row ∈ rows) (here : last ∈ rows)
    (same : row.telemetrySessionId = last.telemetrySessionId)
    (below : row.event.sequence ≤ last.event.sequence) :
    row.event.monotonicMs ≤ last.event.monotonicMs := by
  by_cases equal : row = last
  · rw [equal]
  have symmetric : Std.Symm fun first second : EventRow =>
      first.telemetrySessionId = second.telemetrySessionId →
        Continues first.event second.event ∨ Continues second.event first.event :=
    ⟨fun _ _ related sameToo => (related sameToo.symm).symm⟩
  have either : rows.Pairwise fun first second : EventRow =>
      first.telemetrySessionId = second.telemetrySessionId →
        Continues first.event second.event ∨ Continues second.event first.event :=
    ordered.imp fun related sameToo => .inl (related sameToo)
  rcases either.forall there here equal same with before | after
  · exact before.2
  · exact absurd after.1 (not_lt.mpr below)

/-- An admitted batch goes on after every row of its session. -/
theorem admits_goesOn {activity : ActivityInstance} {input : InteractionBatch}
    (ordered : InOrder activity.events) (admitted : activity.admits settings input = .ok ()) :
    activity.events.length + input.events.length ≤ settings.maxEventsPerActivity ∧
      ∀ row ∈ activity.events, row.telemetrySessionId = input.telemetrySessionId →
        ∀ event ∈ input.events, Continues row.event event := by
  unfold ActivityInstance.admits at admitted
  split_ifs at admitted with many goesOn
  refine ⟨not_lt.mp many, fun row inside same event there => ?_⟩
  obtain ⟨previous, here, last, session, below⟩ := lastOfSession_spec inside
  rw [← same, last, Option.all_some] at goesOn
  obtain ⟨first, rest, events⟩ := List.exists_cons_of_ne_nil (List.ne_nil_of_mem there)
  have next : Continues row.event first := by
    have after : previous.event.sequence < first.sequence ∧
        previous.event.monotonicMs ≤ first.monotonicMs := by
      simpa [InteractionBatch.goesOn, events] using goesOn
    exact ⟨below.trans_lt after.1,
      (ordered.monotonic inside here session.symm below).trans after.2⟩
  have pairwise := input.pairwise
  rw [events] at pairwise there
  rcases List.mem_cons.mp there with rfl | later
  · exact next
  · exact next.trans ((List.pairwise_cons.mp pairwise).1 event later)

/-- What inserting a batch computes. -/
theorem insertBatch_ok {activity next : ActivityInstance} {input : InteractionBatch}
    {receivedAt : Time} {summaryId : Uuid} {revision : SummaryRevision}
    (inserted : activity.insertBatch settings input receivedAt summaryId = .ok (next, revision)) :
    (∀ row ∈ input.rows receivedAt, ∀ other ∈ activity.events, apart row other = true) ∧
      next = { activity with
        events := activity.events ++ input.rows receivedAt
        summaries := activity.summaries ++ [revision] } ∧
      calculateActivityInteractionSummary settings.policy
        ((settings.arrange (activity.events ++ input.rows receivedAt)).map EventRow.stored) =
          .ok revision.summary ∧
      hashCanonicalJSON settings.sha256Hex (summaryDocument revision.summary) =
        .ok revision.summaryHash ∧
      revision.revision = InteractionStore.nextRevision activity.summaries ∧
      revision.policy = settings.policy := by
  unfold ActivityInstance.insertBatch at inserted
  dsimp only at inserted
  split_ifs at inserted with fresh
  obtain ⟨summary, calculated, inserted⟩ := bind_ok inserted
  obtain ⟨summaryHash, hashed, inserted⟩ := bind_ok inserted
  obtain ⟨rfl, rfl⟩ := Prod.mk.inj (Except.ok.inj inserted)
  refine ⟨fresh, rfl, ?_, hashed, rfl, rfl⟩
  unfold failureCode Except.mapError at calculated
  split at calculated
  · cases calculated
  · rename_i found
    exact found.trans (congrArg _ (Except.ok.inj calculated))

/-! ## The rows are views of a journal -/

def eventsAt (store : CaseRows) (key : ActivityKey) : List EventRow :=
  ((activityAt store key).map ActivityInstance.events).getD []

def summariesAt (store : CaseRows) (key : ActivityKey) : List SummaryRevision :=
  ((activityAt store key).map ActivityInstance.summaries).getD []

def isText (value : Value) (text : JsString) : Bool :=
  match value with
  | .string found => found = text
  | _ => false

/-- What an event of the chain says, if the recorder has appended it for an activity. -/
def recordedBy (activityId : JsString) (link : EvidenceEvent) : Option Value :=
  let payload := link.body.get (js "payload")
  if isText (link.body.get (js "eventType")) RECORDED &&
      isText (payload.get (js "activityId")) activityId then some payload
  else none

/-- What the evidence of an assignment says of the batches of an activity. -/
def evidenceAt (store : CaseRows) (key : ActivityKey) : List Value :=
  ((chainAt store key.assignmentId).map fun chain =>
    chain.events.filterMap (recordedBy key.activityId)).getD []

variable (settings) in
/-- The rows of an activity are those of a journal. -/
structure Kept (store : CaseRows) (key : ActivityKey) (journal : List Entry) : Prop where
  lawful : Lawful settings key journal
  events : eventsAt store key = eventsOf journal
  summaries : summariesAt store key = journal.map Entry.revision
  batches : ∀ id batch, batch.activity = key → (batchAt store id = some batch ↔
    ∃ entry ∈ journal, entry.input.batchId = id ∧ entry.batch key = batch)
  evidence : evidenceAt store key =
    journal.map fun entry => readBack settings.order entry.payload

/-- Nothing that the recorder writes for an activity has changed. -/
structure Unchanged (before after : CaseRows) (key : ActivityKey) : Prop where
  events : eventsAt after key = eventsAt before key
  summaries : summariesAt after key = summariesAt before key
  batches : ∀ id batch, batch.activity = key →
    (batchAt after id = some batch ↔ batchAt before id = some batch)
  evidence : evidenceAt after key = evidenceAt before key

variable (settings) in
/-- What a commit makes of the rows of an activity: nothing, or a batch is recorded. -/
inductive Moved (before after : CaseRows) (key : ActivityKey) : Prop where
  | unchanged (rows : Unchanged before after key)
  | recorded (activity next : ActivityInstance) (entry : Entry) (summaryId : Uuid)
      (found : activityAt before key = some activity)
      (own : entry.input.activityId = key.activityId)
      (hashed : hashCanonicalJSON settings.sha256Hex (batchDocument entry.input) =
        .ok entry.payloadHash)
      (admitted : activity.admits settings entry.input = .ok ())
      (inserted : activity.insertBatch settings entry.input entry.receivedAt summaryId =
        .ok (next, entry.revision))
      (absent : batchAt before entry.input.batchId = none)
      (there : activityAt after key = some next)
      (batches : ∀ id, batchAt after id =
        if id = entry.input.batchId then some (entry.batch key) else batchAt before id)
      (evidence : evidenceAt after key =
        evidenceAt before key ++ [readBack settings.order entry.payload])

section

variable {before after : CaseRows} {journal : List Entry}

theorem Unchanged.refl (store : CaseRows) (key : ActivityKey) : Unchanged store store key :=
  ⟨rfl, rfl, fun _ _ _ => .rfl, rfl⟩

theorem Unchanged.kept (rows : Unchanged before after key)
    (kept : Kept settings before key journal) : Kept settings after key journal where
  lawful := kept.lawful
  events := rows.events.trans kept.events
  summaries := rows.summaries.trans kept.summaries
  batches := fun id batch own => (rows.batches id batch own).trans (kept.batches id batch own)
  evidence := rows.evidence.trans kept.evidence

/-- A batch that the recorder admits and inserts may be entered in the journal. -/
theorem accepted_of_inserted {activity next : ActivityInstance} {entry : Entry} {summaryId : Uuid}
    (lawful : Lawful settings key journal) (events : activity.events = eventsOf journal)
    (summaries : activity.summaries = journal.map Entry.revision)
    (own : entry.input.activityId = key.activityId)
    (hashed : hashCanonicalJSON settings.sha256Hex (batchDocument entry.input) =
      .ok entry.payloadHash)
    (admitted : activity.admits settings entry.input = .ok ())
    (inserted : activity.insertBatch settings entry.input entry.receivedAt summaryId =
      .ok (next, entry.revision))
    (fresh : ∀ earlier ∈ journal, earlier.input.batchId ≠ entry.input.batchId) :
    Accepted settings key journal entry := by
  obtain ⟨distinct, -, calculated, summaryHashed, numbered, policy⟩ := insertBatch_ok inserted
  have ordered : InOrder activity.events := events ▸ lawful.inOrder
  obtain ⟨fits, goesOn⟩ := admits_goesOn ordered admitted
  have grown : InOrder (activity.events ++ entry.input.rows entry.receivedAt) :=
    ordered.append goesOn
  rw [events] at fits goesOn distinct calculated grown
  refine {
    own
    hashed
    fresh
    fits := by simpa [Entry.rows, InteractionBatch.rows] using fits
    goesOn := fun row inside same event there => ⟨goesOn row inside same event there, ?_⟩
    numbered := by rw [numbered, summaries, lawful.nextRevision]
    policy
    summarized := fun rows perm => ?_
    summaryHashed }
  · have new := distinct _ (List.mem_map_of_mem there) row inside
    simp only [apart, same, ne_eq, not_true_eq_false, decide_false, Bool.false_or,
      Bool.and_eq_true, decide_eq_true_eq] at new
    exact fun equal => new.1 equal.symm
  · rw [eventsOf_snoc] at perm
    have arranged := settings.arranges (eventsOf journal ++ entry.rows)
    refine ActivityInteraction.calculate_perm ((perm.trans arranged.symm).map EventRow.stored) ?_
      calculated
    unfold ActivityInteraction.UniqueRows
    exact ((arranged.map EventRow.stored).map _).nodup_iff.mpr grown.unique

/-- The journal goes on with each batch that is recorded. -/
theorem Moved.kept (moved : Moved settings before after key)
    (kept : Kept settings before key journal) :
    ∃ more, Kept settings after key (journal ++ more) := by
  cases moved with
  | unchanged rows => exact ⟨[], (List.append_nil journal).symm ▸ rows.kept kept⟩
  | recorded activity next entry summaryId found own hashed admitted inserted absent there batches
      evidence =>
      have events : activity.events = eventsOf journal := by
        rw [← kept.events, eventsAt, found]
        rfl
      have summaries : activity.summaries = journal.map Entry.revision := by
        rw [← kept.summaries, summariesAt, found]
        rfl
      have fresh : ∀ earlier ∈ journal, earlier.input.batchId ≠ entry.input.batchId := by
        intro earlier inside same
        have known := (kept.batches earlier.input.batchId (earlier.batch key) rfl).mpr
          ⟨earlier, inside, rfl, rfl⟩
        rw [same, absent] at known
        cases known
      obtain ⟨-, grown, -⟩ := insertBatch_ok inserted
      refine ⟨[entry], .snoc kept.lawful (accepted_of_inserted kept.lawful events summaries own
        hashed admitted inserted fresh), ?_, ?_, fun id batch mine => ?_, ?_⟩
      · rw [eventsAt, there, grown, eventsOf_snoc, ← events]
        rfl
      · rw [summariesAt, there, grown, List.map_append, ← summaries]
        rfl
      · rw [batches id]
        constructor
        · intro some
          split_ifs at some with same
          · exact ⟨entry, by simp, same.symm, Option.some.inj some⟩
          · obtain ⟨earlier, inside, rest⟩ := (kept.batches id batch mine).mp some
            exact ⟨earlier, List.mem_append_left _ inside, rest⟩
        · rintro ⟨entered, inside, rfl, rfl⟩
          rcases List.mem_append.mp inside with earlier | last
          · rw [if_neg (fresh entered earlier)]
            exact (kept.batches _ _ rfl).mpr ⟨entered, earlier, rfl, rfl⟩
          · rw [List.mem_singleton.mp last, if_pos rfl]
      · rw [evidence, kept.evidence, List.map_append]
        rfl

end

end Vasi.InteractionStore
