import Vasi.InteractionJournal

/-!
# Every run keeps the journals

Each commit leaves the rows of an activity or records one batch in them. So in every run of any
number of browsers that send, repeat and interleave their batches, while the rest of the engine
works on the same cases, each activity has a journal of which its rows are views, and the journal
only grows.
-/
namespace Vasi.InteractionStore

open JsValue IsoTime CanonicalJson ReadCommitted Validation
open EngineRows (ActivityStatus ChainRow EvidenceEvent Uuid)
open EvidenceEvents (Actor Environment NewEvent appendEvent eventData eventData_wellFormed newChain)

variable {settings : Settings}

variable (settings) in
/-- The contract of the recorder: a commit leaves what is kept of an activity or enters a batch. -/
def recording : Contract Row Outside Point Outcome where
  guard := Guard.none Row Outside Point
  invariant := fun store => ∀ key, ∃ journal, Kept settings store key journal
  moves := fun _ _ _ => True
  effect := fun _ _ before after => ∀ key, Moved settings before after key
  promise := fun _ _ _ _ _ => True
  moves_refl := fun _ _ => trivial
  moves_trans := fun _ _ _ _ _ _ => trivial
  moves_anti := fun _ _ _ _ _ _ => trivial

theorem recording_unpromising : Unpromising (recording settings) := ⟨fun _ _ _ _ _ => trivial⟩

/-! ## Rules for the parts of the programs -/

section

variable {α : Type} {knowledge : Knowledge Row} {changes : Changes Row}

theorem meets_require {condition : Bool} {code : JsString}
    {continuation : Unit → Changes Row → Script Row Outside Point Outcome}
    (rest : condition = true → (continuation () changes).Meets (recording settings) knowledge) :
    (require condition code continuation changes).Meets (recording settings) knowledge := by
  unfold require
  split
  case isTrue holds => exact rest holds
  case isFalse => exact trivial

theorem meets_computed {result : Except JsString α}
    {continuation : α → Changes Row → Script Row Outside Point Outcome}
    (rest : ∀ value, result = .ok value →
      (continuation value changes).Meets (recording settings) knowledge) :
    (computed result continuation changes).Meets (recording settings) knowledge := by
  unfold computed
  cases result with
  | ok value => exact rest value rfl
  | error code => exact trivial

/-- The row of the activity that a call selects is known. -/
theorem meets_selectRecord {handleDigest : JsString} {input : PreliminaryInput}
    {principalId : JsString}
    {continuation : Selected → Changes Row → Script Row Outside Point Outcome}
    (rest : ∀ record next, knowledge.Later next (recording settings) →
      (⟨.activity ⟨record.assignment.id, input.activityId⟩, record.activity⟩ : Sigma Row) ∈
        next.known →
      (continuation record ∅).Meets (recording settings) next) :
    (selectRecord handleDigest input principalId continuation ∅).Meets (recording settings)
      knowledge := by
  apply meets_query
  intro _ store locks record allowed _ answered
  rw [applyChanges_empty] at answered
  simp only [Option.bind_eq_bind, Option.bind_eq_some_iff] at answered
  obtain ⟨assignment, -, request, -, activity, found, session, -, selected⟩ := answered
  split_ifs at selected
  obtain ⟨rfl, rfl⟩ := Prod.mk.inj (Option.some.inj selected)
  exact ⟨trivial, rest _ _ (allowed.later _)
    (Knowledge.mem_after (List.mem_cons_of_mem _ (List.mem_cons_of_mem _ List.mem_cons_self)) found)⟩

/-- An append goes on from the chain that the transaction sees. -/
theorem meets_appendEvidence {event : Uuid → NewEvent} {assignmentId : Uuid}
    {continuation : Unit → Changes Row → Script Row Outside Point Outcome}
    (rest : ∀ chain eventId next later, knowledge.Later later (recording settings) →
      later.Sees changes (.chain assignmentId) chain →
      appendEvent settings.toEnvironment (event eventId) chain = .ok next →
      (continuation () (changes.updateRow (.chain assignmentId) next)).Meets (recording settings)
        later) :
    (appendEvidence settings event assignmentId continuation changes).Meets (recording settings)
      knowledge := by
  simp only [appendEvidence, randomUUID, Transaction.bind_apply]
  apply meets_lockFound recording_unpromising
  intro chain locked moreKnown _ sees _
  apply meets_fromOutside recording_unpromising
  intro eventId later laterKnown
  apply meets_computed
  intro next appended
  exact rest chain eventId next later (moreKnown.trans laterKnown) (sees.later laterKnown) appended

/-- A program that ends has the effect that its changes have then. -/
theorem meets_commitWith {outcome : Outcome}
    (pending : ∀ store, knowledge.Allows (recording settings) store → Admissible store changes →
      ∀ key, Moved settings store (applyChanges store changes) key) :
    (commitWith outcome (fun result _ => .stop result) changes).Meets (recording settings)
      knowledge := by
  rw [commitWith, Transaction.bind_apply]
  exact meets_commitChanges pending fun _ _ _ _ => trivial

end

/-! ## What an event says of batches -/

/-- The event that an append adds, as it is stored. -/
theorem appendEvent_body {event : NewEvent} {chain next : ChainRow}
    (appended : appendEvent settings.toEnvironment event chain = .ok next) :
    ∃ link : EvidenceEvent, next.events = chain.events ++ [link] ∧
      link.body = readBack settings.order
        (eventData event (chain.lastSequence + 1) chain.lastHash) := by
  obtain ⟨eventHash, -, appended⟩ := bind_ok appended
  obtain rfl := Except.ok.inj appended
  exact ⟨_, rfl, rfl⟩

theorem eventType_readBack (event : NewEvent) (sequence : ℕ) (previousHash : JsString) :
    (readBack settings.order (eventData event sequence previousHash)).get (js "eventType") =
      .string event.eventType :=
  get_readBack settings.order settings.rearranges _ _ (.string event.eventType)
    (eventData_wellFormed event sequence previousHash) (List.mem_of_getElem? (i := 4) rfl) rfl

/-- An event of another kind says nothing of batches. -/
theorem recordedBy_other {event : NewEvent} {chain next : ChainRow}
    (other : event.eventType ≠ RECORDED)
    (appended : appendEvent settings.toEnvironment event chain = .ok next) (activityId : JsString) :
    next.events.filterMap (recordedBy activityId) =
      chain.events.filterMap (recordedBy activityId) := by
  obtain ⟨link, events, body⟩ := appendEvent_body appended
  have nothing : recordedBy activityId link = none := by
    simp [recordedBy, body, eventType_readBack, isText, other]
  simp [events, nothing]

/-- The event of a batch says what was recorded, for its activity only. -/
theorem recordedBy_batch {event : NewEvent} {chain next : ChainRow} {entry : Entry}
    (eventType : event.eventType = RECORDED) (payload : event.payload.val = entry.payload)
    (appended : appendEvent settings.toEnvironment event chain = .ok next) (activityId : JsString) :
    next.events.filterMap (recordedBy activityId) =
      chain.events.filterMap (recordedBy activityId) ++
        if entry.input.activityId = activityId then [readBack settings.order entry.payload]
        else [] := by
  obtain ⟨link, events, body⟩ := appendEvent_body appended
  have said : link.body.get (js "payload") = readBack settings.order entry.payload := by
    rw [body, ← payload]
    refine get_readBack settings.order settings.rearranges _ _ event.payload.val
      (eventData_wellFormed event _ _) (List.mem_of_getElem? (i := 5) rfl) ?_
    rw [payload]
    rfl
  have activity : (readBack settings.order entry.payload).get (js "activityId") =
      .string entry.input.activityId :=
    get_readBack settings.order settings.rearranges _ _ (.string entry.input.activityId)
      (recordedPayload_wellFormed _ _ _) List.mem_cons_self rfl
  have told : recordedBy activityId link =
      if entry.input.activityId = activityId then some (readBack settings.order entry.payload)
      else none := by
    have type : link.body.get (js "eventType") = .string RECORDED := by
      rw [body, eventType_readBack, eventType]
    simp [recordedBy, said, activity, type, isText]
  rw [events, List.filterMap_append]
  split_ifs at told ⊢ with same <;> simp [told]

/-! ## What commits change -/

section

variable {store before after : CaseRows} {key : ActivityKey}

theorem unchanged_of_rows (activity : activityAt after key = activityAt before key)
    (batches : ∀ id, batchAt after id = batchAt before id)
    (chain : chainAt after key.assignmentId = chainAt before key.assignmentId) :
    Unchanged before after key where
  events := by rw [eventsAt, activity, ← eventsAt]
  summaries := by rw [summariesAt, activity, ← summariesAt]
  batches := fun id batch _ => by rw [batches id]
  evidence := by rw [evidenceAt, chain, ← evidenceAt]

/-- The rows besides one that is put. -/
theorem lookup_put_other {changed other : Key} {row : Row changed} (apart : other ≠ changed) :
    (applyChanges store (Changes.insertRow ∅ changed row)).lookup other = store.lookup other ∧
      (applyChanges store (Changes.updateRow ∅ changed row)).lookup other = store.lookup other :=
  ⟨(lookup_insertRow_other _ _ _ apart).trans (by rw [applyChanges_empty]),
    (lookup_updateRow_other _ _ _ apart).trans (by rw [applyChanges_empty])⟩

/-- A row that the recorder only reads. -/
def Key.IsRead : Key → Prop
  | .assignment _ | .request _ | .session _ => True
  | .activity _ | .batch _ | .chain _ => False

theorem put_unchanged {changed : Key} (read : changed.IsRead) (row : Row changed)
    (key : ActivityKey) :
    Unchanged store (applyChanges store (Changes.insertRow ∅ changed row)) key ∧
      Unchanged store (applyChanges store (Changes.updateRow ∅ changed row)) key := by
  have apart {other : Key} (written : ¬ other.IsRead) : other ≠ changed :=
    fun same => written (same ▸ read)
  exact ⟨unchanged_of_rows (lookup_put_other (apart id)).1
      (fun _ => (lookup_put_other (apart id)).1) (lookup_put_other (apart id)).1,
    unchanged_of_rows (lookup_put_other (apart id)).2 (fun _ => (lookup_put_other (apart id)).2)
      (lookup_put_other (apart id)).2⟩

/-- A new activity has no events, and a new chain says nothing. -/
theorem insert_unchanged {changed : ActivityKey} {status : ActivityStatus}
    (absent : activityAt store changed = none) (key : ActivityKey) :
    Unchanged store (applyChanges store
      (Changes.insertRow ∅ (.activity changed) ⟨status, [], []⟩)) key := by
  by_cases same : key = changed
  · subst same
    have found : activityAt (applyChanges store (Changes.insertRow ∅ (.activity key)
        ⟨status, [], []⟩)) key = some ⟨status, [], []⟩ := lookup_insertRow_same _ _ _ _
    exact {
      events := by rw [eventsAt, eventsAt, found, absent]; rfl
      summaries := by rw [summariesAt, summariesAt, found, absent]; rfl
      batches := fun id _ _ => by rw [batchAt, (lookup_put_other (by simp)).1]
      evidence := by rw [evidenceAt, chainAt, (lookup_put_other (by simp)).1]; rfl }
  · exact unchanged_of_rows (lookup_put_other (by simpa using same)).1
      (fun _ => (lookup_put_other (by simp)).1) (lookup_put_other (by simp)).1

theorem newChain_unchanged {assignmentId : Uuid} (absent : chainAt store assignmentId = none)
    (key : ActivityKey) :
    Unchanged store (applyChanges store (Changes.insertRow ∅ (.chain assignmentId) newChain))
      key := by
  have found : chainAt (applyChanges store (Changes.insertRow ∅ (.chain assignmentId) newChain))
      assignmentId = some newChain := lookup_insertRow_same _ _ _ _
  refine ⟨by rw [eventsAt, activityAt, (lookup_put_other (by simp)).1]; rfl,
    by rw [summariesAt, activityAt, (lookup_put_other (by simp)).1]; rfl,
    fun id _ _ => by rw [batchAt, (lookup_put_other (by simp)).1], ?_⟩
  by_cases same : key.assignmentId = assignmentId
  · rw [evidenceAt, evidenceAt, same, found, absent]
    rfl
  · rw [evidenceAt, chainAt, (lookup_put_other (by simpa using same)).1]
    rfl

/-- The status of an activity is not of what the recorder writes. -/
theorem status_unchanged {changed : ActivityKey} {activity : ActivityInstance}
    {status : ActivityStatus} (found : activityAt store changed = some activity)
    (key : ActivityKey) :
    Unchanged store (applyChanges store
      (Changes.updateRow ∅ (.activity changed) { activity with status })) key := by
  by_cases same : key = changed
  · subst same
    have there : activityAt (applyChanges store (Changes.updateRow ∅ (.activity key)
        { activity with status })) key = some { activity with status } :=
      lookup_applyChanges_updateRow _ _ _ _
    exact {
      events := by rw [eventsAt, eventsAt, there, found]; rfl
      summaries := by rw [summariesAt, summariesAt, there, found]; rfl
      batches := fun id _ _ => by rw [batchAt, (lookup_put_other (by simp)).2]
      evidence := by rw [evidenceAt, chainAt, (lookup_put_other (by simp)).2]; rfl }
  · exact unchanged_of_rows (lookup_put_other (by simpa using same)).2
      (fun _ => (lookup_put_other (by simp)).2) (lookup_put_other (by simp)).2

/-- Another event in a chain leaves what is said of batches. -/
theorem event_unchanged {assignmentId : Uuid} {event : NewEvent} {chain next : ChainRow}
    (found : chainAt store assignmentId = some chain) (other : event.eventType ≠ RECORDED)
    (appended : appendEvent settings.toEnvironment event chain = .ok next) (key : ActivityKey) :
    Unchanged store (applyChanges store (Changes.updateRow ∅ (.chain assignmentId) next)) key := by
  refine ⟨by rw [eventsAt, activityAt, (lookup_put_other (by simp)).2]; rfl,
    by rw [summariesAt, activityAt, (lookup_put_other (by simp)).2]; rfl,
    fun id _ _ => by rw [batchAt, (lookup_put_other (by simp)).2], ?_⟩
  by_cases same : key.assignmentId = assignmentId
  · have there : chainAt (applyChanges store (Changes.updateRow ∅ (.chain assignmentId) next))
        assignmentId = some next := lookup_applyChanges_updateRow _ _ _ _
    rw [evidenceAt, evidenceAt, same, there, found, Option.map_some, Option.map_some,
      recordedBy_other other appended]
  · rw [evidenceAt, chainAt, (lookup_put_other (by simpa using same)).2]
    rfl

end

/-! ## Recording a batch -/

/-- The changes of a batch that is recorded. -/
def recordedChanges (key : ActivityKey) (entry : Entry) (activity : ActivityInstance)
    (chain : ChainRow) : Changes Row :=
  ((Changes.insertRow ∅ (.batch entry.input.batchId) (entry.batch key)).updateRow (.activity key)
    activity).updateRow (.chain key.assignmentId) chain

section

variable {store : CaseRows} {key : ActivityKey} {entry : Entry} {next : ActivityInstance}
  {chain last : ChainRow}

theorem recordedChanges_other {other : Key} (batch : other ≠ .batch entry.input.batchId)
    (activity : other ≠ .activity key) (chain : other ≠ .chain key.assignmentId) :
    (applyChanges store (recordedChanges key entry next last)).lookup other =
      store.lookup other :=
  (lookup_updateRow_other _ _ _ chain).trans ((lookup_updateRow_other _ _ _ activity).trans
    (lookup_put_other batch).1)

theorem recordedChanges_activity :
    activityAt (applyChanges store (recordedChanges key entry next last)) key = some next :=
  (lookup_updateRow_other _ _ _ (by simp)).trans (lookup_applyChanges_updateRow _ _ _ _)

theorem recordedChanges_batch (id : JsString) :
    batchAt (applyChanges store (recordedChanges key entry next last)) id =
      if id = entry.input.batchId then some (entry.batch key) else batchAt store id := by
  split_ifs with same
  · subst same
    exact (lookup_updateRow_other _ _ _ (by simp)).trans
      ((lookup_updateRow_other _ _ _ (by simp)).trans (lookup_insertRow_same _ _ _ _))
  · exact recordedChanges_other (by simpa using same) (by simp) (by simp)

/-- What the evidence says of the activities of an assignment after a batch. -/
theorem recordedChanges_evidence {event : NewEvent} (eventType : event.eventType = RECORDED)
    (payload : event.payload.val = entry.payload)
    (found : chainAt store key.assignmentId = some chain)
    (appended : appendEvent settings.toEnvironment event chain = .ok last) (other : ActivityKey) :
    evidenceAt (applyChanges store (recordedChanges key entry next last)) other =
      evidenceAt store other ++
        if other.assignmentId = key.assignmentId ∧ entry.input.activityId = other.activityId then
          [readBack settings.order entry.payload] else [] := by
  by_cases same : other.assignmentId = key.assignmentId
  · have there : chainAt (applyChanges store (recordedChanges key entry next last))
        key.assignmentId = some last := lookup_applyChanges_updateRow _ _ _ _
    rw [evidenceAt, evidenceAt, same, there, found, Option.map_some, Option.map_some,
      Option.getD_some, Option.getD_some, recordedBy_batch eventType payload appended]
    simp
  · rw [evidenceAt, chainAt, recordedChanges_other (by simp) (by simp) (by simpa using same),
      if_neg (fun both => same both.1), List.append_nil]
    rfl

/-- A commit of a batch enters it in the journal of its activity, and no other. -/
theorem recordedChanges_moved (key : ActivityKey) (entry : Entry) {activity : ActivityInstance}
    {summaryId : Uuid} {event : NewEvent}
    (activityFound : activityAt store key = some activity)
    (chainFound : chainAt store key.assignmentId = some chain)
    (absent : batchAt store entry.input.batchId = none)
    (own : entry.input.activityId = key.activityId)
    (hashed : hashCanonicalJSON settings.sha256Hex (batchDocument entry.input) =
      .ok entry.payloadHash)
    (admitted : activity.admits settings entry.input = .ok ())
    (inserted : activity.insertBatch settings entry.input entry.receivedAt summaryId =
      .ok (next, entry.revision))
    (eventType : event.eventType = RECORDED) (payload : event.payload.val = entry.payload)
    (appended : appendEvent settings.toEnvironment event chain = .ok last) (other : ActivityKey) :
    Moved settings store (applyChanges store (recordedChanges key entry next last)) other := by
  have evidence : evidenceAt (applyChanges store (recordedChanges key entry next last)) other = _ :=
    recordedChanges_evidence eventType payload chainFound appended other
  by_cases same : other = key
  · subst same
    refine .recorded activity next entry summaryId activityFound own hashed admitted inserted absent
      recordedChanges_activity recordedChanges_batch ?_
    rw [evidence, if_pos ⟨rfl, own⟩]
  · have apart : ¬ (other.assignmentId = key.assignmentId ∧
        entry.input.activityId = other.activityId) := by
      rintro ⟨assignment, activityId⟩
      refine same ?_
      cases other
      cases key
      simp_all
    rw [if_neg apart, List.append_nil] at evidence
    have activityOther : activityAt (applyChanges store (recordedChanges key entry next last))
        other = activityAt store other :=
      recordedChanges_other (by simp) (by simpa using same) (by simp)
    refine .unchanged ⟨by rw [eventsAt, activityOther]; rfl,
      by rw [summariesAt, activityOther]; rfl, fun id batch mine => ?_, evidence⟩
    rw [recordedChanges_batch]
    split_ifs with given
    · subst given
      rw [absent]
      constructor
      · intro some
        exact absurd ((Option.some.inj some) ▸ mine : (entry.batch key).activity = other)
          fun equal => same equal.symm
      · intro none
        cases none
    · exact .rfl

end

/-! ## The programs -/

theorem answerReplay_meets {batch : BatchRow} {key : ActivityKey} {input : InteractionBatch}
    {payloadHash : JsString} {activity : ActivityInstance} {knowledge : Knowledge Row} :
    (answerReplay batch key input payloadHash activity (fun result _ => .stop result) ∅).Meets
      (recording settings) knowledge := by
  simp only [answerReplay, Transaction.bind_apply]
  apply meets_require
  intro _
  apply meets_require
  intro _
  exact trivial

theorem recordBatch_meets {actor : Actor} {record : Selected} {input : InteractionBatch}
    {payloadHash : JsString} {knowledge : Knowledge Row}
    (known : (⟨.activity ⟨record.assignment.id, input.activityId⟩, record.activity⟩ : Sigma Row) ∈
      knowledge.known)
    (hashed : hashCanonicalJSON settings.sha256Hex (batchDocument input) = .ok payloadHash) :
    (recordBatch settings actor record input payloadHash (fun result _ => .stop result) ∅).Meets
      (recording settings) knowledge := by
  simp only [recordBatch, clock, randomUUID, Transaction.bind_apply]
  apply meets_computed
  intro _ admitted
  apply meets_fromOutside recording_unpromising
  intro receivedAt first firstKnown
  apply meets_insertFresh recording_unpromising
  intro second secondKnown
  apply meets_fromOutside recording_unpromising
  intro summaryId third thirdKnown
  apply meets_computed
  intro inserted computed
  simp only [stageChanges, Transaction.bind_apply]
  apply meets_appendEvidence
  intro chain eventId last fourth fourthKnown sees appended
  apply meets_commitWith
  intro store allowed admissible
  have activityFound := allowed.current _
    (fourthKnown.known (thirdKnown.known (secondKnown.known (firstKnown.known known))))
  have chainFound := allowed.current _ (sees.known (by
    rw [Changes.lookup_updateRow_other _ _ _ _ (by simp),
      Changes.lookup_insertRow_other (by simp)]
    rfl))
  have absent : batchAt store input.batchId = none := by
    refine admissible.inserted (.batch input.batchId)
      (Entry.batch ⟨record.assignment.id, input.activityId⟩
        ⟨actor.principalId, input, payloadHash, receivedAt, inserted.2⟩) ?_
    rw [Changes.lookup_updateRow_other _ _ _ _ (by simp),
      Changes.lookup_updateRow_other _ _ _ _ (by simp)]
    exact AList.lookup_insert _
  exact recordedChanges_moved ⟨record.assignment.id, input.activityId⟩
    ⟨actor.principalId, input, payloadHash, receivedAt, inserted.2⟩ activityFound chainFound absent
    rfl hashed admitted computed rfl rfl appended

theorem recordParticipantEvents_meets (actor : Actor) (payload : Value) (store : CaseRows) :
    (recordParticipantEvents settings actor payload).script.Meets (recording settings)
      (.start store) := by
  simp only [Transaction.script, recordParticipantEvents, clock, Transaction.bind_apply]
  apply meets_require
  intro _
  apply meets_computed
  intro preliminary _
  apply meets_require
  intro _
  apply meets_selectRecord
  intro record first _ known
  apply meets_computed
  intro _ _
  apply meets_fromOutside recording_unpromising
  intro now second secondKnown
  apply meets_computed
  intro _ _
  apply meets_require
  intro _
  apply meets_computed
  intro input _
  apply meets_require
  intro same
  apply meets_computed
  intro payloadHash hashed
  apply meets_readRows recording_unpromising
  intro _ view allowed
  cases batchAt (applyChanges view ∅) input.batchId with
  | some batch => exact answerReplay_meets
  | none =>
      have own : input.activityId = preliminary.activityId := by
        simp only [sameState, Bool.and_eq_true, decide_eq_true_eq] at same
        exact same.1
      exact recordBatch_meets ((allowed.later []).known (secondKnown.known (own ▸ known))) hashed

theorem changeCase_meets (change : CaseChange) (store : CaseRows) :
    (program settings (.changeCase change)).script.Meets (recording settings) (.start store) := by
  have unchanged {knowledge : Knowledge Row} {changes : Changes Row}
      (rows : ∀ store, knowledge.Allows (recording settings) store → Admissible store changes →
        ∀ key, Unchanged store (applyChanges store changes) key) :
      (commitWith .done (fun result _ => .stop result) changes).Meets (recording settings)
        knowledge :=
    meets_commitWith fun store allowed admissible key =>
      .unchanged (rows store allowed admissible key)
  have put (changed : Key) (read : changed.IsRead) (row : Row changed) :
      (putRow .statement changed row (fun _ => commitWith .done fun result _ => .stop result)
        ∅).Meets (recording settings) (.start store) :=
    meets_putRow recording_unpromising
      (fun _ _ => unchanged fun _ _ _ key => (put_unchanged read row key).2)
      (fun _ _ => unchanged fun _ _ _ key => (put_unchanged read row key).1)
  simp only [Transaction.script, program, Transaction.bind_apply]
  cases change with
  | assignment handleDigest row => exact put (.assignment handleDigest) trivial row
  | request id row => exact put (.request id) trivial row
  | session interactionId row => exact put (.session interactionId) trivial row
  | newActivity key status =>
      apply meets_insertFresh recording_unpromising
      intro _ _
      exact unchanged fun _ _ admissible => insert_unchanged
        (admissible.inserted (.activity key) ⟨status, [], []⟩ (AList.lookup_insert _))
  | activityStatus key status =>
      simp only [applyChange, changeStatus, Transaction.bind_apply]
      apply meets_lockFound recording_unpromising
      intro activity _ _ _ sees _
      exact unchanged fun _ allowed _ => status_unchanged (allowed.current _ (sees.known rfl))
  | newChain assignmentId =>
      apply meets_insertFresh recording_unpromising
      intro _ _
      exact unchanged fun _ _ admissible => newChain_unchanged
        (admissible.inserted (.chain assignmentId) newChain (AList.lookup_insert _))
  | event event =>
      apply meets_appendEvidence
      intro chain eventId next _ _ sees appended
      have other : ({ event.val with eventId } : NewEvent).eventType ≠ RECORDED := event.property
      exact unchanged fun _ allowed _ =>
        event_unchanged (allowed.current _ (sees.known rfl)) other appended

theorem recording_valid : (recording settings).Valid (start settings) where
  keeps := by
    intro _ _ before after commits
    refine ⟨fun key => ?_, fun _ _ => trivial⟩
    obtain ⟨journal, kept⟩ := commits.kept key
    obtain ⟨more, grown⟩ := Moved.kept (commits.effect key) kept
    exact ⟨journal ++ more, grown⟩
  meets := by
    intro operation store _
    cases operation with
    | recordParticipantEvents actor payload =>
        exact recordParticipantEvents_meets actor payload store
    | changeCase change => exact changeCase_meets change store

/-! ## Every run -/

variable (settings) in
/-- The states that the operations reach from a store without rows. -/
abbrev Reached (state : RecorderState) : Prop :=
  Runs (start settings) (Guard.none Row Outside Point) (State.idle Row Outside Point Outcome ∅)
    state

theorem Kept.empty (key : ActivityKey) : Kept settings ∅ key [] :=
  ⟨.nil, rfl, rfl, fun _ _ _ => ⟨nofun, nofun⟩, rfl⟩

/-- In every run every activity has a journal of which its rows, the batches, the summaries and
the evidence are views, and its events are in order within each session; and from then on the
journal only grows. -/
def JournalsKept (settings : Settings) : Prop :=
  ∀ state, Reached settings state → ∀ key, ∃ journal, Kept settings state.store key journal ∧
    InOrder (eventsAt state.store key) ∧
    ∀ later, Runs (start settings) (Guard.none Row Outside Point) state later →
      ∃ more, Kept settings later.store key (journal ++ more)

theorem journals_kept (settings : Settings) : JournalsKept settings := by
  intro state reached key
  have idle : Holds (recording settings) (State.idle Row Outside Point Outcome ∅) :=
    Holds.idle fun key => ⟨[], .empty key⟩
  have holds := (idle.runs recording_valid reached).1
  obtain ⟨journal, kept⟩ := holds.kept key
  refine ⟨journal, kept, kept.events ▸ kept.lawful.inOrder, fun later run => ?_⟩
  refine holds.keeps recording_valid
    (fun store => ∃ more, Kept settings store key (journal ++ more)) ?_
    ⟨[], (List.append_nil journal).symm ▸ kept⟩ run
  rintro _ _ _ _ ⟨more, grown⟩ commits
  obtain ⟨new, after⟩ := (commits.effect key).kept grown
  exact ⟨more ++ new, List.append_assoc journal more new ▸ after⟩

end Vasi.InteractionStore
