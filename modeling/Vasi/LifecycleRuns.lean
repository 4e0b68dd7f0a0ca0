import Vasi.LifecycleReplay

/-!
# Every run tells its lifecycle

Each operation keeps the contract: what it commits to the rows of a record it appends to its
chain. From this the laws of a run follow. A record with an active hold is there; a purge leaves
a tombstone that seals the end of the chain, and after it nothing about the record changes.
-/
namespace Vasi.RecordLifecycle

open JsValue IsoTime CanonicalJson ReadCommitted HashChain
open EngineRows (Uuid)
open EvidenceEvents (Environment GENESIS_HASH)
open RetentionDeadlines (Deadlines resolveRetentionPolicy)

variable {env : Environment}

/-! ## Commits keep what is told -/

theorem appended_told {events : List NewLifecycleEvent} {chain next : LifecycleChain}
    (extended : events.foldlM (LifecycleChain.append env) chain = .ok next)
    (intact : IntactChain env chain) :
    IntactChain env next ∧ next.told = chain.told ++ events := by
  induction events generalizing chain with
  | nil =>
      obtain rfl := Except.ok.inj extended
      exact ⟨intact, (List.append_nil _).symm⟩
  | cons event rest inductionHypothesis =>
      rw [List.foldlM_cons] at extended
      cases appended : LifecycleChain.append env chain event with
      | error failure =>
          rw [appended] at extended
          cases extended
      | ok middle =>
          rw [appended] at extended
          obtain ⟨middleIntact, link, events, -, rfl⟩ := append_intact appended intact
          obtain ⟨nextIntact, told⟩ := inductionHypothesis extended middleIntact
          refine ⟨nextIntact, ?_⟩
          rw [told, LifecycleChain.told, events]
          simp [LifecycleChain.told]

section

variable {known : List (Sigma Row)} {before after : LifecycleRows} {assignmentId : Uuid}

theorem SameRows.refl (store : LifecycleRows) (assignmentId : Uuid) :
    SameRows store store assignmentId := ⟨rfl, rfl, rfl, rfl, fun _ => rfl⟩

theorem SameRows.told {chain : LifecycleChain} (rows : SameRows before after assignmentId)
    (told : Told env chain before assignmentId) : Told env chain after assignmentId := by
  obtain ⟨account, read, agrees⟩ := told.account
  exact ⟨told.intact, told.begun, account, read, {
    standing := by rw [rows.record]; exact agrees.standing
    assignment := by rw [rows.assignment]; exact agrees.assignment
    holds := fun id => (rows.holds id).trans (agrees.holds id)
    purged := by rw [rows.tombstone]; exact agrees.purged
    sealed := by rw [rows.tombstone]; exact agrees.sealed }⟩

/-- What one or two events say of the rows goes on from what was told before. -/
theorem Moved.fits (moved : Moved env known before after assignmentId)
    (current : Current known before) (fits : Fits env before assignmentId) :
    Fits env after assignmentId := by
  cases moved with
  | same rows =>
      refine ⟨fun none => ?_, fun chain found => ?_⟩
      · obtain ⟨record, assignment, tombstone, holds⟩ := fits.absent (rows.chain.symm.trans none)
        exact ⟨rows.record.trans record, rows.assignment.trans assignment,
          rows.tombstone.trans tombstone, fun id => (rows.holds id).trans (holds id)⟩
      · exact rows.told (fits.told chain (rows.chain.symm.trans found))
  | bound next absent found told =>
      refine ⟨fun none => absurd (found.symm.trans none) (by simp), fun chain there => ?_⟩
      obtain rfl := Option.some.inj (found.symm.trans there)
      exact told
  | appended chain next events some rests extended found rows =>
      refine ⟨fun nothing => absurd (found.symm.trans nothing) (by simp), fun last there => ?_⟩
      obtain rfl := Option.some.inj (found.symm.trans there)
      have earlier := fits.told chain (current _ rests)
      obtain ⟨account, read, agrees⟩ := earlier.account
      obtain ⟨intact, told⟩ := appended_told extended earlier.intact
      obtain ⟨later, followed, agreesLater⟩ := rows account (replay_sound read) agrees intact
      refine ⟨intact, ?_, later, ?_, agreesLater⟩
      · rw [told]
        exact List.append_ne_nil_of_right_ne_nil _ some
      rw [told, replay, List.foldlM_append]
      exact Option.bind_eq_some_iff.mpr ⟨account, read, followed⟩

/-- Nothing about a purged record changes. -/
theorem Moved.final (moved : Moved env known before after assignmentId)
    (current : Current known before) (fits : Fits env before assignmentId) {stone : Tombstone}
    (purged : tombstoneAt before assignmentId = some stone) :
    SameRows before after assignmentId := by
  cases moved with
  | same rows => exact rows
  | bound next absent found told =>
      obtain ⟨-, -, nothing, -⟩ := fits.absent absent
      cases purged.symm.trans nothing
  | appended chain next events some rests extended found rows =>
      have earlier := fits.told chain (current _ rests)
      obtain ⟨account, read, agrees⟩ := earlier.account
      obtain ⟨later, followed, -⟩ :=
        rows account (replay_sound read) agrees (appended_told extended earlier.intact).1
      obtain ⟨event, rest, rfl⟩ := List.exists_cons_of_ne_nil some
      rw [List.foldlM_cons] at followed
      obtain ⟨middle, first, -⟩ := Option.bind_eq_some_iff.mp followed
      have unpurged := (replay_sound read).unpurged first
      rw [← agrees.purged, purged] at unpurged
      cases unpurged

end

/-- The effects of the contract keep its invariant, and are moves. -/
theorem telling_keeps (point : Point) (known : List (Sigma Row)) (before after : LifecycleRows)
    (commits : (telling env).Commits point known before after) :
    (telling env).invariant after ∧
      ∀ held, (∀ row ∈ known, ¬ held row.1) → (telling env).moves held before after := by
  obtain ⟨keeps, placed, released, moved⟩ := commits.effect
  refine ⟨⟨fun id none => ?_, fun assignmentId =>
    (moved assignmentId).fits commits.current (commits.kept.2 assignmentId)⟩, fun held free =>
    ⟨keeps, fun assignmentId locked id hold found same => ?_⟩⟩
  · have absent : holdAt before id = Option.none := by
      by_contra some
      obtain ⟨hold, there⟩ := Option.ne_none_iff_exists'.mp some
      cases none.symm.trans (keeps.holds id hold there)
    have unreleased := commits.kept.1 id absent
    by_contra some
    have origin := released id unreleased (Option.isSome_iff_ne_none.mpr some)
    rw [absent] at origin
    cases origin
  · rcases placed id hold found with there | ⟨record, rests⟩
    · exact there
    · exact absurd (same ▸ locked) (free _ rests)

/-! ## Rules for the parts of the programs -/

section

variable {α : Type} {knowledge : Knowledge Row} {changes : Changes Row}

theorem meets_require {condition : Bool} {code : JsString}
    {continuation : Unit → Changes Row → Script Row Outside Point Outcome}
    (rest : condition = true → (continuation () changes).Meets (telling env) knowledge) :
    (require condition code continuation changes).Meets (telling env) knowledge := by
  unfold require
  split
  case isTrue holds => exact rest holds
  case isFalse => exact trivial

/-- An append goes on from the chain that the transaction sees. -/
theorem meets_append {event : Uuid → NewLifecycleEvent} {assignmentId : Uuid}
    {continuation : JsString → Changes Row → Script Row Outside Point Outcome}
    (rest : ∀ chain eventId next later, knowledge.Later later (telling env) →
      later.Sees changes (.chain assignmentId) chain →
      LifecycleChain.append env chain (event eventId) = .ok next →
      (continuation next.lastHash (changes.updateRow (.chain assignmentId) next)).Meets
        (telling env) later) :
    (appendLifecycleEvent env event assignmentId continuation changes).Meets (telling env)
      knowledge := by
  simp only [appendLifecycleEvent, randomUUID, Transaction.bind_apply]
  apply meets_lockFound telling_unpromising
  intro chain locked moreKnown _ sees _
  apply meets_fromOutside telling_unpromising
  intro eventId later laterKnown
  dsimp only
  cases appended : LifecycleChain.append env chain (event eventId) with
  | error code => exact trivial
  | ok next =>
      exact rest chain eventId next later (moreKnown.trans laterKnown) (sees.later laterKnown)
        appended

/-- A program that ends has the effect that its changes have then. -/
theorem meets_commitDone
    (pending : ∀ store, knowledge.Allows (telling env) store → Admissible store changes →
      (telling env).effect .commit knowledge.known store (applyChanges store changes)) :
    (commitDone (fun result _ => .stop result) changes).Meets (telling env) knowledge := by
  rw [commitDone, Transaction.bind_apply]
  exact meets_commitChanges pending fun _ _ _ _ => trivial

end

/-! ## Changes about one record -/

/-- The rows of a record, but for its holds. -/
def Key.About (assignmentId : Uuid) : Key → Prop
  | .assignment id | .record id | .chain id | .tombstone id => id = assignmentId
  | .hold _ | .release _ => False

/-- The changes are to rows of one record, and not to its holds. -/
def OnlyAbout (changes : Changes Row) (assignmentId : Uuid) : Prop :=
  ∀ key, ¬ key.About assignmentId → changes.lookup key = none

section

variable {assignmentId : Uuid} {changes : Changes Row} {key : Key}

theorem OnlyAbout.empty (assignmentId : Uuid) : OnlyAbout ∅ assignmentId := fun _ _ => rfl

theorem OnlyAbout.apart {other : Key} (about : key.About assignmentId)
    (apart : ¬ other.About assignmentId) : other ≠ key :=
  fun same => apart (same ▸ about)

theorem OnlyAbout.insertRow (only : OnlyAbout changes assignmentId) (key : Key) (row : Row key)
    (about : key.About assignmentId) : OnlyAbout (changes.insertRow key row) assignmentId :=
  fun other apart => (Changes.lookup_insertRow_other (OnlyAbout.apart about apart)).trans
    (only other apart)

theorem OnlyAbout.updateRow (only : OnlyAbout changes assignmentId) (key : Key) (row : Row key)
    (about : key.About assignmentId) : OnlyAbout (changes.updateRow key row) assignmentId :=
  fun other apart => (Changes.lookup_updateRow_other changes key other row
    (OnlyAbout.apart about apart)).trans (only other apart)

theorem OnlyAbout.deleteRow (only : OnlyAbout changes assignmentId) (key : Key)
    (about : key.About assignmentId) : OnlyAbout (changes.deleteRow key) assignmentId :=
  fun other apart => (AList.lookup_insert_ne (OnlyAbout.apart about apart)).trans (only other apart)

variable {store : LifecycleRows}

theorem OnlyAbout.holdAt (only : OnlyAbout changes assignmentId) (id : Uuid) :
    RecordLifecycle.holdAt (applyChanges store changes) id = RecordLifecycle.holdAt store id :=
  lookup_untouched store (only (.hold id) fun about => about)

theorem OnlyAbout.releaseAt (only : OnlyAbout changes assignmentId) (id : Uuid) :
    RecordLifecycle.releaseAt (applyChanges store changes) id =
      RecordLifecycle.releaseAt store id :=
  lookup_untouched store (only (.release id) fun about => about)

theorem holdState_congr {before after : LifecycleRows} {id : Uuid}
    (hold : RecordLifecycle.holdAt after id = RecordLifecycle.holdAt before id)
    (release : RecordLifecycle.releaseAt after id = RecordLifecycle.releaseAt before id) :
    holdState after assignmentId id = holdState before assignmentId id := by
  rw [holdState, holdState, hold, release]

theorem OnlyAbout.holdState (only : OnlyAbout changes assignmentId) (other id : Uuid) :
    RecordLifecycle.holdState (applyChanges store changes) other id =
      RecordLifecycle.holdState store other id :=
  holdState_congr (only.holdAt id) (only.releaseAt id)

/-- The rows of the other records are the same. -/
theorem OnlyAbout.other (only : OnlyAbout changes assignmentId) {other : Uuid}
    (apart : other ≠ assignmentId) : SameRows store (applyChanges store changes) other where
  assignment := lookup_untouched store (only _ apart)
  record := lookup_untouched store (only _ apart)
  chain := lookup_untouched store (only _ apart)
  tombstone := lookup_untouched store (only _ apart)
  holds := fun id => only.holdState other id

/-- A commit about one record does what it does to the rows of that record. -/
theorem OnlyAbout.effect {point : Point} {known : List (Sigma Row)}
    (only : OnlyAbout changes assignmentId)
    (moved : Moved env known store (applyChanges store changes) assignmentId) :
    (telling env).effect point known store (applyChanges store changes) := by
  refine ⟨⟨fun id hold found => (only.holdAt id).trans found,
      fun id release found => (only.releaseAt id).trans found⟩,
    fun id hold found => .inl ((only.holdAt id).symm.trans found), fun id none some => ?_,
    fun other => ?_⟩
  · rw [only.releaseAt id, none] at some
    cases some
  · by_cases same : other = assignmentId
    · exact same ▸ moved
    · exact .same (only.other same)

end

/-! ## Events that change the standing -/

section

variable {assignmentId : Uuid} {account : Account} {event : NewLifecycleEvent}

theorem Account.Agrees.stands {store : LifecycleRows} {chain : LifecycleChain}
    {record : LifecycleRecord} (agrees : account.Agrees chain store assignmentId)
    (found : recordAt store assignmentId = some record) :
    account.standing = some record.toStanding := by
  have standing := agrees.standing
  rw [found] at standing
  exact standing.symm

/-- A record that stands has no tombstone. -/
theorem Account.Agrees.unpurged {store : LifecycleRows} {chain : LifecycleChain}
    {record : LifecycleRecord} (agrees : account.Agrees chain store assignmentId)
    (sound : account.Sound) (found : recordAt store assignmentId = some record) :
    tombstoneAt store assignmentId = none := by
  cases stone : tombstoneAt store assignmentId with
  | none => rfl
  | some stone =>
      have purged := agrees.purged
      rw [stone] at purged
      cases (agrees.stands found).symm.trans (sound.purged purged.symm)

/-- An active hold is one of the account. -/
theorem Account.Agrees.held {store : LifecycleRows} {chain : LifecycleChain} {id : Uuid}
    {hold : LegalHold} (agrees : account.Agrees chain store hold.assignmentId)
    (found : holdAt store id = some hold) (unreleased : releaseAt store id = none) :
    id ∈ account.active := by
  have held := agrees.holds id
  rw [RecordLifecycle.holdState, found, unreleased] at held
  unfold Account.holdState at held
  by_contra other
  rw [if_neg other] at held
  split_ifs at held <;> simp at held

theorem Account.Sound.stands (sound : account.Sound) {id : Uuid} (active : id ∈ account.active) :
    ∃ standing, account.standing = some standing := by
  rw [← Option.ne_none_iff_exists']
  intro none
  rw [sound.active none] at active
  exact absurd active (Finset.notMem_empty id)

/-- The rows of a record after an event that changes its standing only. -/
theorem Account.Agrees.restand {before after : LifecycleRows} {chain next : LifecycleChain}
    {record changed : LifecycleRecord} (agrees : account.Agrees chain before assignmentId)
    (sound : account.Sound) (found : recordAt before assignmentId = some record)
    (stands : recordAt after assignmentId = some changed)
    (assignment : assignmentAt after assignmentId = assignmentAt before assignmentId)
    (tombstone : tombstoneAt after assignmentId = tombstoneAt before assignmentId)
    (holds : ∀ id, RecordLifecycle.holdState after assignmentId id =
      RecordLifecycle.holdState before assignmentId id) :
    ({ account with standing := some changed.toStanding } : Account).Agrees next after
      assignmentId := by
  have nothing := agrees.unpurged sound found
  exact {
    standing := by rw [stands]; rfl
    assignment := by rw [assignment, agrees.assignment, agrees.stands found]; rfl
    holds := fun id => (holds id).trans (agrees.holds id)
    purged := by rw [tombstone]; exact agrees.purged
    sealed := fun stone there => absurd (there.symm.trans (tombstone.trans nothing)) (by simp) }

/-- The changes of an event that leaves a record in another standing. -/
def advanceChanges (assignmentId : Uuid) (changed : LifecycleRecord) (next : LifecycleChain) :
    Changes Row :=
  Changes.updateRow (Changes.updateRow ∅ (.record assignmentId) changed) (.chain assignmentId) next

theorem advanceChanges_only (assignmentId : Uuid) (changed : LifecycleRecord)
    (next : LifecycleChain) :
    OnlyAbout (advanceChanges assignmentId changed next) assignmentId :=
  ((OnlyAbout.empty assignmentId).updateRow (.record assignmentId) changed rfl).updateRow
    (.chain assignmentId) next rfl

/-- The rows of a record after such an event. -/
theorem advanceChanges_agrees {store : LifecycleRows} {chain next last : LifecycleChain}
    {record changed : LifecycleRecord} (agrees : account.Agrees chain store assignmentId)
    (sound : account.Sound) (found : recordAt store assignmentId = some record) :
    ({ account with standing := some changed.toStanding } : Account).Agrees last
      (applyChanges store (advanceChanges assignmentId changed next)) assignmentId := by
  have stands : recordAt (applyChanges store (advanceChanges assignmentId changed next))
      assignmentId = some changed :=
    (lookup_updateRow_other _ _ _ (by simp)).trans (lookup_applyChanges_updateRow _ _ _ _)
  refine agrees.restand sound found stands ?_ ?_
    fun id => (advanceChanges_only assignmentId changed next).holdState assignmentId id
  · exact (lookup_updateRow_other _ _ _ (by simp)).trans (lookup_updateRow_other _ _ _ (by simp))
  · exact (lookup_updateRow_other _ _ _ (by simp)).trans (lookup_updateRow_other _ _ _ (by simp))

/-- A commit of an event that changes the standing as the account does. -/
theorem advanceChanges_effect {store : LifecycleRows} {knowledge : Knowledge Row}
    {chain next : LifecycleChain} {record changed : LifecycleRecord}
    (allowed : knowledge.Allows (telling env) store)
    (recordKnown : (⟨.record assignmentId, record⟩ : Sigma Row) ∈ knowledge.known)
    (chainKnown : (⟨.chain assignmentId, chain⟩ : Sigma Row) ∈ knowledge.known)
    (appended : LifecycleChain.append env chain event = .ok next)
    (follows : ∀ account : Account, account.standing = some record.toStanding →
      account.follow event = some { account with standing := some changed.toStanding }) :
    (telling env).effect .commit knowledge.known store
      (applyChanges store (advanceChanges assignmentId changed next)) := by
  have found := allowed.current _ recordKnown
  refine (advanceChanges_only assignmentId changed next).effect
    (.appended chain next [event] (by simp) chainKnown ?_
      (lookup_applyChanges_updateRow _ _ _ _) ?_)
  · rw [List.foldlM_cons, appended]
    rfl
  · intro account sound agrees _
    refine ⟨_, ?_, advanceChanges_agrees agrees sound found⟩
    rw [List.foldlM_cons, follows account (agrees.stands found)]
    rfl

/-- The rest of a program that has changed the standing of a record and appends the event. -/
theorem meets_advance {knowledge : Knowledge Row} {record changed : LifecycleRecord}
    {event : Uuid → NewLifecycleEvent}
    (recordKnown : (⟨.record assignmentId, record⟩ : Sigma Row) ∈ knowledge.known)
    (follows : ∀ eventId (account : Account), account.standing = some record.toStanding →
      account.follow (event eventId) =
        some { account with standing := some changed.toStanding }) :
    (appendLifecycleEvent env event assignmentId
      (fun _ => commitDone fun result _ => .stop result)
      (Changes.updateRow ∅ (.record assignmentId) changed)).Meets (telling env) knowledge := by
  apply meets_append
  intro chain eventId next later moreKnown sees appended
  have chainKnown := sees.known
    (Changes.lookup_updateRow_other ∅ (Key.record assignmentId) (Key.chain assignmentId) changed
      (by simp))
  apply meets_commitDone
  intro store allowed _
  exact advanceChanges_effect allowed (moreKnown.known recordKnown) chainKnown appended
    (follows eventId)

end

/-! ## The programs of the engine -/

theorem anchorRecordLifecycle_meets (command : AnchorCommand) (store : LifecycleRows) :
    (anchorRecordLifecycle env command).script.Meets (telling env) (.start store) := by
  simp only [Transaction.script, anchorRecordLifecycle, Transaction.bind_apply]
  apply meets_lockFound telling_unpromising
  intro record next _ _ sees _
  cases anchored : anchoredDeadlines record command.completedAt with
  | error code => exact trivial
  | ok deadlines =>
      simp only [Transaction.bind_apply]
      apply meets_require
      intro _
      simp only [stageChanges, Transaction.bind_apply]
      apply meets_advance (sees.known rfl)
      intro eventId account stands
      simp [Account.follow, stands, Account.stand]

/-- The changes of a new record. -/
def boundChanges (assignmentId : Uuid) (assignment : ParticipantAssignment)
    (record : LifecycleRecord) (next : LifecycleChain) : Changes Row :=
  (((Changes.insertRow ∅ (.assignment assignmentId) assignment).insertRow (.record assignmentId)
    record).insertRow (.chain assignmentId) newChain).updateRow (.chain assignmentId) next

theorem boundChanges_only (assignmentId : Uuid) (assignment : ParticipantAssignment)
    (record : LifecycleRecord) (next : LifecycleChain) :
    OnlyAbout (boundChanges assignmentId assignment record next) assignmentId :=
  ((((OnlyAbout.empty assignmentId).insertRow (.assignment assignmentId) assignment rfl).insertRow
    (.record assignmentId) record rfl).insertRow (.chain assignmentId) newChain rfl).updateRow
      (.chain assignmentId) next rfl

/-- The rows of a new record, where there were none. -/
theorem boundChanges_agrees {store : LifecycleRows} {assignmentId : Uuid}
    {assignment : ParticipantAssignment} {record : LifecycleRecord} {next : LifecycleChain}
    (nothing : tombstoneAt store assignmentId = none)
    (unheld : ∀ id, holdState store assignmentId id = none) :
    (⟨some record.toStanding, ∅, ∅, false⟩ : Account).Agrees next
      (applyChanges store (boundChanges assignmentId assignment record next)) assignmentId := by
  have assigned : assignmentAt (applyChanges store
      (boundChanges assignmentId assignment record next)) assignmentId = some assignment :=
    (lookup_updateRow_other _ _ _ (by simp)).trans ((lookup_insertRow_other _ _ _ (by simp)).trans
      ((lookup_insertRow_other _ _ _ (by simp)).trans (lookup_insertRow_same _ _ _ _)))
  have recorded : recordAt (applyChanges store
      (boundChanges assignmentId assignment record next)) assignmentId = some record :=
    (lookup_updateRow_other _ _ _ (by simp)).trans
      ((lookup_insertRow_other _ _ _ (by simp)).trans (lookup_insertRow_same _ _ _ _))
  have stone : tombstoneAt (applyChanges store
      (boundChanges assignmentId assignment record next)) assignmentId = none :=
    ((lookup_updateRow_other _ _ _ (by simp)).trans
      ((lookup_insertRow_other _ _ _ (by simp)).trans
        ((lookup_insertRow_other _ _ _ (by simp)).trans
          (lookup_insertRow_other _ _ _ (by simp))))).trans nothing
  exact {
    standing := by rw [recorded]; rfl
    assignment := by rw [assigned]; rfl
    holds := fun id => ((boundChanges_only _ _ _ _).holdState _ id).trans (unheld id)
    purged := by rw [stone]; rfl
    sealed := fun own there => absurd (there.symm.trans stone) (by simp) }

theorem bindRecordLifecycle_meets (command : BindCommand) (store : LifecycleRows) :
    (bindRecordLifecycle env command).script.Meets (telling env) (.start store) := by
  simp only [Transaction.script, bindRecordLifecycle, randomUUID, clock, Transaction.bind_apply]
  apply meets_fromOutside telling_unpromising
  intro assignmentId _ _
  apply meets_insertFresh telling_unpromising
  intro _ _
  apply meets_fromOutside telling_unpromising
  intro active _ _
  dsimp only
  cases resolved : resolveRetentionPolicy (policies env) active command.profileName with
  | error code => exact trivial
  | ok policy =>
      simp only [Transaction.bind_apply]
      apply meets_require
      intro _
      apply meets_insertFresh telling_unpromising
      intro _ _
      apply meets_insertFresh telling_unpromising
      intro _ _
      apply meets_fromOutside telling_unpromising
      intro now _ _
      apply meets_append
      intro chain eventId next later _ sees appended
      obtain rfl : newChain = chain := Option.some.inj (sees.staged (AList.lookup_insert _))
      apply meets_commitDone
      intro committed allowed admissible
      have absent : chainAt committed assignmentId = none := by
        refine admissible.inserted _ next ?_
        rw [Changes.lookup_updateRow_same]
        simp [Change.renew, Changes.insertRow]
      obtain ⟨-, -, nothing, unheld⟩ := (allowed.kept.2 assignmentId).absent absent
      obtain ⟨intact, link, events, -, same⟩ := append_intact appended newChain_intact
      refine (boundChanges_only assignmentId _ _ _).effect (.bound next absent
        (lookup_applyChanges_updateRow _ _ _ _) ⟨intact, ?_, _, ?_,
          boundChanges_agrees nothing unheld⟩)
      · simp [LifecycleChain.told, events]
      simp [LifecycleChain.told, events, newChain, same, replay, Account.follow, Account.stand,
        Account.empty, boundRecord]

/-! ## Holds -/

/-- The changes of a hold that is placed. -/
def placeChanges (id : Uuid) (hold : LegalHold) (next : LifecycleChain) : Changes Row :=
  (Changes.insertRow ∅ (.hold id) hold).updateRow (.chain hold.assignmentId) next

/-- The changes of a hold that is released. -/
def releaseChanges (id : Uuid) (release : HoldRelease) (assignmentId : Uuid)
    (next : LifecycleChain) : Changes Row :=
  (Changes.insertRow ∅ (.release id) release).updateRow (.chain assignmentId) next

section

variable {store : LifecycleRows} {id : Uuid} {hold : LegalHold} {release : HoldRelease}
  {next : LifecycleChain} {assignmentId : Uuid}

/-- Changes to a chain and one row of its holds leave every other row. -/
theorem placeChanges_other {key : Key} (apartHold : key ≠ .hold id)
    (apartChain : key ≠ .chain hold.assignmentId) :
    (applyChanges store (placeChanges id hold next)).lookup key = store.lookup key :=
  (lookup_updateRow_other _ _ _ apartChain).trans (lookup_insertRow_other _ _ _ apartHold)

theorem placeChanges_hold :
    holdAt (applyChanges store (placeChanges id hold next)) id = some hold :=
  (lookup_updateRow_other _ _ _ (by simp)).trans (lookup_insertRow_same _ _ _ _)

theorem releaseChanges_other {key : Key} (apartRelease : key ≠ .release id)
    (apartChain : key ≠ .chain assignmentId) :
    (applyChanges store (releaseChanges id release assignmentId next)).lookup key =
      store.lookup key :=
  (lookup_updateRow_other _ _ _ apartChain).trans (lookup_insertRow_other _ _ _ apartRelease)

theorem releaseChanges_release : releaseAt
    (applyChanges store (releaseChanges id release assignmentId next)) id = some release :=
  (lookup_updateRow_other _ _ _ (by simp)).trans (lookup_insertRow_same _ _ _ _)

/-- A hold that is placed is on its record, without a release. -/
theorem holdState_placeChanges (absent : holdAt store id = none)
    (unreleased : releaseAt store id = none) (other found : Uuid) :
    holdState (applyChanges store (placeChanges id hold next)) other found =
      if found = id ∧ hold.assignmentId = other then some false
      else holdState store other found := by
  have release : ∀ found, releaseAt (applyChanges store (placeChanges id hold next)) found =
      releaseAt store found := fun found => placeChanges_other (by simp) (by simp)
  by_cases same : found = id
  · subst same
    rw [holdState, placeChanges_hold, release, unreleased, holdState, absent]
    by_cases own : hold.assignmentId = other <;> simp [own]
  · rw [if_neg fun both => same both.1]
    exact holdState_congr (placeChanges_other (by simpa using same) (by simp)) (release found)

/-- A hold that is released stays on its record. -/
theorem holdState_releaseChanges (found : holdAt store id = some hold)
    (unreleased : releaseAt store id = none) (other own : Uuid) :
    holdState (applyChanges store (releaseChanges id release assignmentId next)) other own =
      if own = id ∧ hold.assignmentId = other then some true else holdState store other own := by
  have kept : ∀ own, holdAt (applyChanges store
      (releaseChanges id release assignmentId next)) own = holdAt store own :=
    fun own => releaseChanges_other (by simp) (by simp)
  by_cases same : own = id
  · subst same
    rw [holdState, kept, found, releaseChanges_release, holdState, found, unreleased]
    by_cases owned : hold.assignmentId = other <;> simp [owned, Option.filter]
  · rw [if_neg fun both => same both.1]
    exact holdState_congr (kept own) (releaseChanges_other (by simpa using same) (by simp))

end

section

variable {store : LifecycleRows} {knowledge : Knowledge Row} {chain next : LifecycleChain}
  {event : NewLifecycleEvent} {id : Uuid} {hold : LegalHold}

/-- A hold is placed on a record that is there, and its event says so. -/
theorem placeChanges_moved {record : LifecycleRecord} {caseReference reason : JsString}
    (fits : (telling env).invariant store)
    (found : recordAt store hold.assignmentId = some record)
    (chainKnown : (⟨.chain hold.assignmentId, chain⟩ : Sigma Row) ∈ knowledge.known)
    (appended : LifecycleChain.append env chain event = .ok next)
    (news : event.news = .holdPlaced caseReference id reason) (absent : holdAt store id = none)
    (other : Uuid) :
    Moved env knowledge.known store (applyChanges store (placeChanges id hold next)) other := by
  have unreleased := fits.1 id absent
  by_cases same : other = hold.assignmentId
  · subst same
    refine .appended chain next [event] (by simp) chainKnown ?_
      (lookup_applyChanges_updateRow _ _ _ _) ?_
    · rw [List.foldlM_cons, appended]
      rfl
    · intro account sound agrees _
      have fresh : id ∉ account.active ∪ account.released := by
        have free := agrees.holds id
        rw [holdState, absent] at free
        unfold Account.holdState at free
        intro member
        rcases Finset.mem_union.mp member with active | released
        · simp [active] at free
        · split_ifs at free <;> simp at free
      refine ⟨{ account with active := insert id account.active }, ?_, {
        standing := ?_, assignment := ?_, holds := fun own => ?_, purged := ?_, sealed := ?_ }⟩
      · rw [List.foldlM_cons, Account.follow, news, agrees.stands found]
        simp [fresh]
      · rw [recordAt, placeChanges_other (by simp) (by simp)]
        exact agrees.standing
      · rw [assignmentAt, placeChanges_other (by simp) (by simp)]
        exact agrees.assignment
      · rw [holdState_placeChanges absent unreleased, agrees.holds]
        by_cases equal : own = id
        · simp [equal, Account.holdState]
        · simp [equal, Account.holdState]
      · rw [tombstoneAt, placeChanges_other (by simp) (by simp)]
        exact agrees.purged
      · rw [tombstoneAt, placeChanges_other (by simp) (by simp)]
        exact fun stone there => absurd (there.symm.trans (agrees.unpurged sound found)) (by simp)
  · exact .same {
      assignment := placeChanges_other (by simp) (by simp)
      record := placeChanges_other (by simp) (by simp)
      chain := placeChanges_other (by simp) (by simpa using same)
      tombstone := placeChanges_other (by simp) (by simp)
      holds := fun own => by
        rw [holdState_placeChanges absent unreleased, if_neg fun both => same both.2.symm] }

/-- An active hold is released, and its event says so. -/
theorem releaseChanges_moved {release : HoldRelease} {releaseId : Uuid} {reason : JsString}
    (found : holdAt store id = some hold)
    (chainKnown : (⟨.chain hold.assignmentId, chain⟩ : Sigma Row) ∈ knowledge.known)
    (appended : LifecycleChain.append env chain event = .ok next)
    (news : event.news = .holdReleased id reason releaseId)
    (unreleased : releaseAt store id = none) (other : Uuid) :
    Moved env knowledge.known store
      (applyChanges store (releaseChanges id release hold.assignmentId next)) other := by
  by_cases same : other = hold.assignmentId
  · subst same
    refine .appended chain next [event] (by simp) chainKnown ?_
      (lookup_applyChanges_updateRow _ _ _ _) ?_
    · rw [List.foldlM_cons, appended]
      rfl
    · intro account sound agrees _
      have active := agrees.held found unreleased
      obtain ⟨standing, stands⟩ := sound.stands active
      refine ⟨{ account with
          active := account.active.erase id
          released := insert id account.released }, ?_, {
        standing := ?_, assignment := ?_, holds := fun own => ?_, purged := ?_, sealed := ?_ }⟩
      · rw [List.foldlM_cons, Account.follow, news, stands]
        simp [active]
      · rw [recordAt, releaseChanges_other (by simp) (by simp)]
        exact agrees.standing
      · rw [assignmentAt, releaseChanges_other (by simp) (by simp)]
        exact agrees.assignment
      · rw [holdState_releaseChanges found unreleased, agrees.holds]
        by_cases equal : own = id
        · simp [equal, Account.holdState]
        · simp [equal, Account.holdState]
      · rw [tombstoneAt, releaseChanges_other (by simp) (by simp)]
        exact agrees.purged
      · rw [tombstoneAt, releaseChanges_other (by simp) (by simp)]
        intro stone there
        have purged := agrees.purged
        rw [tombstoneAt, there] at purged
        cases stands.symm.trans (sound.purged purged.symm)
  · exact .same {
      assignment := releaseChanges_other (by simp) (by simp)
      record := releaseChanges_other (by simp) (by simp)
      chain := releaseChanges_other (by simp) (by simpa using same)
      tombstone := releaseChanges_other (by simp) (by simp)
      holds := fun own => by
        rw [holdState_releaseChanges found unreleased, if_neg fun both => same both.2.symm] }

theorem placeChanges_effect {point : Point} {record : LifecycleRecord}
    {caseReference reason : JsString} (allowed : knowledge.Allows (telling env) store)
    (recordKnown : (⟨.record hold.assignmentId, record⟩ : Sigma Row) ∈ knowledge.known)
    (chainKnown : (⟨.chain hold.assignmentId, chain⟩ : Sigma Row) ∈ knowledge.known)
    (appended : LifecycleChain.append env chain event = .ok next)
    (news : event.news = .holdPlaced caseReference id reason) (absent : holdAt store id = none) :
    (telling env).effect point knowledge.known store
      (applyChanges store (placeChanges id hold next)) := by
  have releases : ∀ own, releaseAt (applyChanges store (placeChanges id hold next)) own =
      releaseAt store own := fun own => placeChanges_other (by simp) (by simp)
  have holds : ∀ own, own ≠ id → holdAt (applyChanges store (placeChanges id hold next)) own =
      holdAt store own := fun own other => placeChanges_other (by simpa using other) (by simp)
  refine ⟨⟨fun own kept found => ?_, fun own kept found => (releases own).trans found⟩,
    fun own kept found => ?_, fun own none some => ?_, placeChanges_moved allowed.kept
      (allowed.current _ recordKnown) chainKnown appended news absent⟩
  · by_cases same : own = id
    · subst same
      cases absent.symm.trans found
    · exact (holds own same).trans found
  · by_cases same : own = id
    · subst same
      obtain rfl := Option.some.inj (placeChanges_hold.symm.trans found)
      exact .inr ⟨record, recordKnown⟩
    · exact .inl ((holds own same).symm.trans found)
  · rw [releases own, none] at some
    cases some

theorem releaseChanges_effect {point : Point} {release : HoldRelease} {releaseId : Uuid}
    {reason : JsString} (found : holdAt store id = some hold)
    (chainKnown : (⟨.chain hold.assignmentId, chain⟩ : Sigma Row) ∈ knowledge.known)
    (appended : LifecycleChain.append env chain event = .ok next)
    (news : event.news = .holdReleased id reason releaseId)
    (unreleased : releaseAt store id = none) :
    (telling env).effect point knowledge.known store
      (applyChanges store (releaseChanges id release hold.assignmentId next)) := by
  have holds : ∀ own, holdAt (applyChanges store
      (releaseChanges id release hold.assignmentId next)) own = holdAt store own :=
    fun own => releaseChanges_other (by simp) (by simp)
  have releases : ∀ own, own ≠ id → releaseAt (applyChanges store
      (releaseChanges id release hold.assignmentId next)) own = releaseAt store own :=
    fun own other => releaseChanges_other (by simpa using other) (by simp)
  refine ⟨⟨fun own kept there => (holds own).trans there, fun own kept there => ?_⟩,
    fun own kept there => .inl ((holds own).symm.trans there), fun own none some => ?_,
    releaseChanges_moved found chainKnown appended news unreleased⟩
  · by_cases same : own = id
    · subst same
      cases unreleased.symm.trans there
    · exact (releases own same).trans there
  · by_cases same : own = id
    · subst same
      rw [found]
      rfl
    · rw [releases own same, none] at some
      cases some

end

/-- A row that is inserted is absent until then. -/
theorem absent_of_inserted {store : LifecycleRows} {changes : Changes Row} {key chainKey : Key}
    {row : Row key} {next : Row chainKey} (apart : key ≠ chainKey)
    (admissible : Admissible store ((changes.insertRow key row).updateRow chainKey next)) :
    store.lookup key = none := by
  refine admissible.inserted key row ?_
  rw [Changes.lookup_updateRow_other _ _ _ _ apart]
  exact AList.lookup_insert _

theorem placeHold_meets (command : HoldPlacement) (store : LifecycleRows) :
    (placeHold env command).script.Meets (telling env) (.start store) := by
  simp only [Transaction.script, placeHold, clock, randomUUID, Transaction.bind_apply]
  apply meets_fromOutside telling_unpromising
  intro now _ _
  simp only [Transaction.bind_apply]
  apply meets_lockFound telling_unpromising
  intro record locked _ _ sees _
  have recordKnown := sees.known rfl
  apply meets_fromOutside telling_unpromising
  intro id later laterKnown
  apply meets_insertFresh telling_unpromising
  intro middle middleKnown
  apply meets_append
  intro chain eventId next last lastKnown chainSeen appended
  have chainKnown := chainSeen.known (Changes.lookup_insertRow_other (by simp))
  apply meets_commitDone
  intro committed allowed admissible
  exact placeChanges_effect allowed
    (((laterKnown.trans middleKnown).trans lastKnown).known recordKnown) chainKnown appended rfl
    (absent_of_inserted (by simp) admissible)

theorem releaseHold_meets (command : HoldReleaseCommand) (store : LifecycleRows) :
    (releaseHold env command).script.Meets (telling env) (.start store) := by
  simp only [Transaction.script, releaseHold, clock, randomUUID, Transaction.bind_apply]
  apply meets_fromOutside telling_unpromising
  intro now _ _
  apply meets_query
  intro _ read locks found allowedRead _ answered
  obtain ⟨hold, selected, equal⟩ := Option.map_eq_some_iff.mp answered
  obtain ⟨rfl, rfl⟩ := Prod.mk.inj equal
  obtain ⟨there, -⟩ := Option.filter_eq_some_iff.mp selected
  refine ⟨trivial, ?_⟩
  dsimp only
  simp only [Transaction.bind_apply]
  apply meets_require
  intro _
  apply meets_fromOutside telling_unpromising
  intro releaseId later laterKnown
  apply meets_insertFresh telling_unpromising
  intro middle middleKnown
  apply meets_append
  intro chain eventId next last lastKnown chainSeen appended
  have chainKnown := chainSeen.known (Changes.lookup_insertRow_other (by simp))
  apply meets_commitDone
  intro committed allowed admissible
  have held := Knowledge.Allows.sees (List.mem_singleton_self _) there
    (((laterKnown.trans middleKnown).trans lastKnown).allows allowed)
  exact releaseChanges_effect held chainKnown appended rfl
    (absent_of_inserted (by simp) admissible)

/-! ## The purge -/

/-- No hold on the record is active. -/
def Unheld (store : LifecycleRows) (assignmentId : Uuid) : Prop :=
  ∀ id, holdState store assignmentId id ≠ some false

theorem mem_activeHolds {store : LifecycleRows} {assignmentId id : Uuid} :
    id ∈ activeHolds store assignmentId ↔ holdState store assignmentId id = some false := by
  unfold activeHolds holdState
  rw [List.mem_filterMap]
  constructor
  · rintro ⟨⟨key, row⟩, member, selected⟩
    cases key with
    | hold found =>
        simp only [Option.ite_none_right_eq_some, Option.some.injEq] at selected
        obtain ⟨⟨own, unreleased⟩, rfl⟩ := selected
        have there : holdAt store found = some row := AList.mem_lookup_iff.mpr member
        rw [there, Option.filter_some, if_pos (decide_eq_true own)]
        simpa using unreleased
    | _ => cases selected
  · intro held
    obtain ⟨hold, selected, unreleased⟩ := Option.map_eq_some_iff.mp held
    obtain ⟨there, own⟩ := Option.filter_eq_some_iff.mp selected
    refine ⟨⟨.hold id, hold⟩, AList.mem_lookup_iff.mp there, ?_⟩
    simpa using ⟨of_decide_eq_true own, Option.isNone_iff_eq_none.mp (by simpa using unreleased)⟩

/-- A record that is locked when no hold on it is active has none until the commit. -/
theorem unheld_later {store : LifecycleRows} {assignmentId : Uuid} {knowledge : Knowledge Row}
    (mine : (Key.record assignmentId) ∈ knowledge.mine) (past : knowledge.past = store)
    (unheld : Unheld store assignmentId) :
    (telling env).Assures knowledge (Unheld · assignmentId) := by
  intro later allowed id active
  subst past
  obtain ⟨hold, selected, unreleased⟩ := Option.map_eq_some_iff.mp active
  obtain ⟨there, own⟩ := Option.filter_eq_some_iff.mp selected
  have before := allowed.moved.2 assignmentId mine id hold there (of_decide_eq_true own)
  refine unheld id ?_
  rw [holdState, before, Option.filter_some, if_pos own]
  refine congrArg some ?_
  rw [Option.isSome_eq_false_iff, Option.isNone_iff_eq_none] at unreleased ⊢
  by_contra released
  obtain ⟨release, found⟩ := Option.ne_none_iff_exists'.mp released
  cases unreleased.symm.trans (allowed.moved.1.releases id release found)

theorem Account.Agrees.unheld {account : Account} {chain : LifecycleChain} {store : LifecycleRows}
    {assignmentId : Uuid} (agrees : account.Agrees chain store assignmentId)
    (unheld : Unheld store assignmentId) : account.active = ∅ := by
  refine Finset.eq_empty_of_forall_notMem fun id active => unheld id ?_
  rw [agrees.holds, Account.holdState, if_pos active]

/-- The changes of a purge after those of the events before it. -/
def purgeChanges (changes : Changes Row) (assignmentId : Uuid) (next : LifecycleChain)
    (stone : Tombstone) : Changes Row :=
  (((changes.updateRow (.chain assignmentId) next).insertRow (.tombstone assignmentId)
    stone).deleteRow (.record assignmentId)).deleteRow (.assignment assignmentId)

section

variable {store : LifecycleRows} {knowledge : Knowledge Row} {changes : Changes Row}
  {assignmentId : Uuid} {base chain next : LifecycleChain} {record : LifecycleRecord}
  {events : List NewLifecycleEvent} {stone : Tombstone}

theorem OnlyAbout.purge (only : OnlyAbout changes assignmentId) (next : LifecycleChain)
    (stone : Tombstone) : OnlyAbout (purgeChanges changes assignmentId next stone) assignmentId :=
  (((only.updateRow (.chain assignmentId) next rfl).insertRow (.tombstone assignmentId) stone
    rfl).deleteRow (.record assignmentId) rfl).deleteRow (.assignment assignmentId) rfl

/-- A record without an active hold is purged, and its events say so. -/
theorem OnlyAbout.purge_effect {point : Point} (only : OnlyAbout changes assignmentId)
    (allowed : knowledge.Allows (telling env) store) (unheld : Unheld store assignmentId)
    (recordKnown : (⟨.record assignmentId, record⟩ : Sigma Row) ∈ knowledge.known)
    (baseKnown : (⟨.chain assignmentId, base⟩ : Sigma Row) ∈ knowledge.known)
    (some : events ≠ []) (extended : events.foldlM (LifecycleChain.append env) base = .ok next)
    (last : ∃ earlier link, next.events = earlier ++ [link] ∧
      stone.lifecycleHeadHash = link.digest ∧ stone.purgedAt = link.body.event.createdAt)
    (follows : ∀ account : Account, account.standing = Option.some record.toStanding →
      account.active = ∅ → events.foldlM Account.follow account =
        Option.some { account with standing := none, purged := true }) :
    (telling env).effect point knowledge.known store
      (applyChanges store (purgeChanges changes assignmentId next stone)) := by
  have found := allowed.current _ recordKnown
  refine (only.purge next stone).effect (.appended base next events some baseKnown extended ?_ ?_)
  · exact (lookup_deleteRow_other _ _ (by simp)).trans ((lookup_deleteRow_other _ _ (by simp)).trans
      ((lookup_insertRow_other _ _ _ (by simp)).trans (lookup_applyChanges_updateRow _ _ _ _)))
  · intro account sound agrees _
    have gone : recordAt (applyChanges store
        (purgeChanges changes assignmentId next stone)) assignmentId = none :=
      (lookup_deleteRow_other _ _ (by simp)).trans (lookup_deleteRow_same _ _ _)
    have unassigned : assignmentAt (applyChanges store
        (purgeChanges changes assignmentId next stone)) assignmentId = none :=
      lookup_deleteRow_same _ _ _
    have laid : tombstoneAt (applyChanges store
        (purgeChanges changes assignmentId next stone)) assignmentId = Option.some stone :=
      (lookup_deleteRow_other _ _ (by simp)).trans
        ((lookup_deleteRow_other _ _ (by simp)).trans (lookup_insertRow_same _ _ _ _))
    refine ⟨_, follows account (agrees.stands found) (agrees.unheld unheld), {
      standing := by rw [gone]; rfl
      assignment := by rw [unassigned]; rfl
      holds := fun id => ((only.purge next stone).holdState _ id).trans (agrees.holds id)
      purged := by rw [laid]; rfl
      sealed := fun own there => ?_ }⟩
    obtain rfl := Option.some.inj (laid.symm.trans there)
    exact last

end

/-- A record is there with its assignment. -/
theorem Fits.assigned {store : LifecycleRows} {assignmentId : Uuid} {record : LifecycleRecord}
    {chain : LifecycleChain} (fits : Fits env store assignmentId)
    (found : recordAt store assignmentId = some record)
    (there : chainAt store assignmentId = some chain) :
    (assignmentAt store assignmentId).isSome = true := by
  obtain ⟨account, -, agrees⟩ := (fits.told chain there).account
  rw [agrees.assignment, agrees.stands found]
  rfl

/-- A chain that goes on from a known one with the events that mark the record as due. -/
def Marked (env : Environment) (knowledge : Knowledge Row) (assignmentId : Uuid)
    (record : LifecycleRecord) (chain : LifecycleChain) : Prop :=
  ∃ (base : LifecycleChain) (events : List NewLifecycleEvent),
    (⟨.chain assignmentId, base⟩ : Sigma Row) ∈ knowledge.known ∧
    events.foldlM (LifecycleChain.append env) base = .ok chain ∧
    ∀ account : Account, account.standing = some record.toStanding →
      events.foldlM Account.follow account = some { account with
        standing := some { record.toStanding with evidenceStatus := .purgeDue } }

/-- What is left of a purge once the record is marked as due. -/
theorem sealAndPurge_meets {signDetached : Value → Value} {knowledge : Knowledge Row}
    {changes : Changes Row} {assignmentId : Uuid} {record : LifecycleRecord} {deadline now : Time}
    (only : OnlyAbout changes assignmentId)
    (untouched : changes.lookup (.assignment assignmentId) = none)
    (recordKnown : (⟨.record assignmentId, record⟩ : Sigma Row) ∈ knowledge.known)
    (unheld : (telling env).Assures knowledge (Unheld · assignmentId))
    (reached : record.deadlines.deleteAt = some deadline ∧ deadline ≤ now)
    (marked : ∀ later chain, knowledge.Later later (telling env) →
      later.Sees changes (.chain assignmentId) chain →
        Marked env later assignmentId record chain) :
    (sealAndPurge env signDetached assignmentId record deadline now
      (fun result _ => .stop result) changes).Meets (telling env) knowledge := by
  simp only [sealAndPurge, Transaction.bind_apply]
  apply meets_fromOutside telling_unpromising
  intro evidence first firstKnown
  cases evidence with
  | none => exact trivial
  | some evidence =>
      simp only [Transaction.bind_apply]
      apply meets_append
      intro chain eventId next second secondKnown sees appended
      obtain ⟨base, events, baseKnown, extended, follows⟩ :=
        marked second chain (firstKnown.trans secondKnown) sees
      cases hashed : hashCanonicalJSON env.sha256Hex
          (tombstoneDocument assignmentId record evidence next.lastHash now) with
      | error code => exact trivial
      | ok tombstoneHash =>
          simp only [Transaction.bind_apply, purgeRecordForRetention]
          apply meets_insertFresh telling_unpromising
          intro third thirdKnown
          simp only [Transaction.bind_apply]
          apply meets_lockFound telling_unpromising
          intro lifecycle fourth fourthKnown _ recordSeen _
          apply meets_fromOutside telling_unpromising
          intro databaseNow fifth fifthKnown
          apply meets_require
          intro _
          apply meets_readRows telling_unpromising
          intro _ sixthStore sixth
          apply meets_require
          intro _
          apply meets_fromOutside telling_unpromising
          intro requests seventh seventhKnown
          apply meets_require
          intro _
          apply meets_readRows telling_unpromising
          intro _ eighthStore eighth
          apply meets_require
          intro _
          have seenKnown := (fifthKnown.trans (sixth.later [])).trans
            (seventhKnown.trans (eighth.later []))
          have known := (firstKnown.trans (secondKnown.trans (thirdKnown.trans fourthKnown))).trans
            seenKnown
          apply meets_deleteFound telling_unpromising fun store allowed =>
            Option.isSome_of_eq_some ((recordSeen.later seenKnown).lookup allowed)
          intro ninth ninthKnown
          have recordStill := (known.trans ninthKnown).known recordKnown
          apply meets_deleteFound telling_unpromising
          · intro store allowed
            rw [lookup_deleteRow_other _ _ (by simp), lookup_insertRow_other _ _ _ (by simp),
              lookup_updateRow_other _ _ _ (by simp), lookup_untouched _ untouched]
            exact (allowed.kept.2 assignmentId).assigned (allowed.current _ recordStill)
              (allowed.current _ ((seenKnown.trans ninthKnown).known
                ((thirdKnown.trans fourthKnown).known baseKnown)))
          · intro tenth tenthKnown
            apply meets_commitDone
            intro store allowed _
            have whole : (events ++ [lifecycleEvent assignmentId record now
                (.recordPurged deadline record.policyHash) eventId]).foldlM
                  (LifecycleChain.append env) base = .ok next := by
              rw [List.foldlM_append, extended]
              simp [bind, Except.bind, appended, pure, Except.pure]
            obtain ⟨link, -, -, -, same, rfl⟩ := append_ok appended
            refine only.purge_effect allowed ((unheld.later (known.trans (ninthKnown.trans
              tenthKnown))) store allowed) (tenthKnown.known recordStill)
              (((seenKnown.trans ninthKnown).trans tenthKnown).known
                ((thirdKnown.trans fourthKnown).known baseKnown))
              (by simp) whole ⟨chain.events, link, rfl, rfl, by rw [same]; rfl⟩
              fun account stands inactive => ?_
            rw [List.foldlM_append, follows account stands]
            simp [Account.follow, lifecycleEvent, inactive, RecordLifecycle.reached, reached]

theorem purgeRecord_meets {signDetached : Value → Value} {knowledge : Knowledge Row}
    {assignmentId : Uuid} {record : LifecycleRecord} {deadline now : Time}
    (recordKnown : (⟨.record assignmentId, record⟩ : Sigma Row) ∈ knowledge.known)
    (unheld : (telling env).Assures knowledge (Unheld · assignmentId))
    (reached : record.deadlines.deleteAt = some deadline ∧ deadline ≤ now) :
    (purgeRecord env signDetached assignmentId record deadline now
      (fun result _ => .stop result) ∅).Meets (telling env) knowledge := by
  unfold purgeRecord
  by_cases marked : record.evidenceStatus = .purgeDue
  · rw [if_neg (not_not.mpr marked)]
    refine sealAndPurge_meets (.empty assignmentId) rfl recordKnown unheld reached
      fun later chain _ sees =>
      ⟨chain, [], sees.known rfl, rfl, fun account stands => ?_⟩
    have same : { record.toStanding with evidenceStatus := .purgeDue } = record.toStanding := by
      rw [← marked]
    rw [same, ← stands]
    rfl
  · rw [if_pos marked]
    simp only [advanceRecord, Transaction.bind_apply, stageChanges]
    apply meets_append
    intro chain eventId next later moreKnown sees appended
    have chainKnown := sees.known (Changes.lookup_updateRow_other ∅ (Key.record assignmentId)
      (Key.chain assignmentId) _ (by simp))
    refine sealAndPurge_meets (advanceChanges_only assignmentId _ next) ?_
      (moreKnown.known recordKnown) (unheld.later moreKnown) reached fun last own lastKnown seen =>
        ⟨chain, [lifecycleEvent assignmentId record now (.purgeDue deadline record.policyHash)
          eventId], lastKnown.known chainKnown, ?_, fun account stands => ?_⟩
    · exact (Changes.lookup_updateRow_other _ _ _ _ (by simp)).trans
        (Changes.lookup_updateRow_other _ _ _ _ (by simp))
    · have same : own = next := by
        have image := seen.staged (Changes.lookup_updateRow_same _ _ _)
        rw [Change.image_renew] at image
        exact (Option.some.inj image).symm
      rw [List.foldlM_cons, appended, same]
      rfl
    · rw [List.foldlM_cons]
      simp [Account.follow, lifecycleEvent, stands, Account.stand, RecordLifecycle.reached, reached,
        marked]

theorem due_eq_some {own : Option Time} {now deadline : Time} :
    due own now = some deadline ↔ own = some deadline ∧ deadline ≤ now := by
  rw [due, Option.filter_eq_some_iff, decide_eq_true_eq]

theorem advanceOneRetentionLifecycle_meets (signDetached : Value → Value) (store : LifecycleRows) :
    (advanceOneRetentionLifecycle env signDetached).script.Meets (telling env) (.start store) := by
  simp only [Transaction.script, advanceOneRetentionLifecycle, clock, Transaction.bind_apply]
  apply meets_fromOutside telling_unpromising
  intro now _ _
  apply meets_fromOutside telling_unpromising
  intro assignmentId _ _
  simp only [Transaction.bind_apply]
  apply meets_lockFound telling_unpromising
  intro record locked _ _ sees held
  have recordKnown := sees.known rfl
  have mine := held rfl
  cases content : record.dueContent now with
  | some deadline =>
      obtain ⟨own, fits⟩ := Option.filter_eq_some_iff.mp content
      rw [due_eq_some] at own
      simp only [advanceRecord, Transaction.bind_apply, stageChanges]
      apply meets_advance recordKnown
      intro eventId account stands
      simp_all [Account.follow, lifecycleEvent, Account.stand, RecordLifecycle.reached]
  | none =>
  cases history : record.dueHistory now with
  | some deadline =>
      obtain ⟨own, fits⟩ := Option.filter_eq_some_iff.mp history
      rw [due_eq_some] at own
      simp only [advanceRecord, Transaction.bind_apply, stageChanges]
      apply meets_advance recordKnown
      intro eventId account stands
      simp_all [Account.follow, lifecycleEvent, Account.stand, RecordLifecycle.reached]
  | none =>
  cases archive : record.dueArchive now with
  | some deadline =>
      obtain ⟨own, fits⟩ := Option.filter_eq_some_iff.mp archive
      rw [due_eq_some] at own
      simp only [advanceRecord, Transaction.bind_apply, stageChanges]
      apply meets_advance recordKnown
      intro eventId account stands
      simp_all [Account.follow, lifecycleEvent, Account.stand, RecordLifecycle.reached]
  | none =>
  cases delete : due record.deadlines.deleteAt now with
  | none =>
      apply meets_commitDone
      intro committed allowed _
      exact (OnlyAbout.empty assignmentId).effect (.same (.refl committed _))
  | some deadline =>
      simp only [Transaction.bind_apply]
      apply meets_readRows telling_unpromising
      intro _ read allowed
      apply meets_fromOutside telling_unpromising
      intro requests later laterKnown
      have known := (allowed.later []).trans laterKnown
      dsimp only
      split
      case isTrue blocked =>
        simp only [advanceRecord, Transaction.bind_apply, stageChanges]
        apply meets_advance (known.known recordKnown)
        intro eventId account stands
        have some : requests + (activeHolds (applyChanges read ∅) assignmentId).length ≠ 0 := by
          omega
        simp only [Account.follow, lifecycleEvent, stands, Account.stand, decide_eq_true some,
          if_true]
      case isFalse free =>
        simp only [not_or, not_not, List.length_eq_zero_iff, applyChanges_empty] at free
        refine purgeRecord_meets (known.known recordKnown)
          ((unheld_later (List.mem_append_right _ mine) rfl fun id active => ?_).later
            laterKnown) (due_eq_some.mp delete)
        have listed : id ∈ activeHolds read assignmentId := mem_activeHolds.mpr active
        rw [free.1] at listed
        exact absurd listed (by simp)

/-- Every operation keeps the contract. -/
theorem telling_valid (signDetached : Value → Value) :
    (telling env).Valid (start env signDetached) where
  keeps := telling_keeps
  meets := by
    intro operation store _
    cases operation with
    | bindRecordLifecycle command => exact bindRecordLifecycle_meets command store
    | anchorRecordLifecycle command => exact anchorRecordLifecycle_meets command store
    | placeHold command => exact placeHold_meets command store
    | releaseHold command => exact releaseHold_meets command store
    | advanceOneRetentionLifecycle =>
        exact advanceOneRetentionLifecycle_meets signDetached store

/-! ## Every run -/

/-- The states that the operations reach from a store without records. -/
abbrev Reached (env : Environment) (signDetached : Value → Value) (state : LifecycleState) : Prop :=
  Runs (start env signDetached) (Guard.none Row Outside Point)
    (State.idle Row Outside Point Outcome ∅) state

section

variable {signDetached : Value → Value} {state later : LifecycleState}

theorem Reached.holds (reached : Reached env signDetached state) : Holds (telling env) state := by
  have nothing : (telling env).invariant ∅ :=
    ⟨fun _ _ => rfl, fun _ => ⟨fun _ => ⟨rfl, rfl, rfl, fun _ => rfl⟩, by rintro chain ⟨⟩⟩⟩
  have idle : Holds (telling env) (State.idle Row Outside Point Outcome ∅) := Holds.idle nothing
  exact (idle.runs (telling_valid signDetached) reached).1

/-- The rows of a purged record stay as they are through every run. -/
theorem Holds.final (holds : Holds (telling env) state)
    (run : Runs (start env signDetached) (Guard.none Row Outside Point) state later)
    {assignmentId : Uuid} {stone : Tombstone}
    (purged : tombstoneAt state.store assignmentId = some stone) :
    SameRows state.store later.store assignmentId := by
  refine holds.keeps (telling_valid signDetached)
    (fun store => SameRows state.store store assignmentId) ?_ (.refl _ _) run
  intro point known before after same commits
  have next := (commits.effect.2.2.2 assignmentId).final commits.current
    (commits.kept.2 assignmentId) (same.tombstone.trans purged)
  exact {
    assignment := next.assignment.trans same.assignment
    record := next.record.trans same.record
    chain := next.chain.trans same.chain
    tombstone := next.tombstone.trans same.tombstone
    holds := fun id => (next.holds id).trans (same.holds id) }

end

/-- In every run of the operations, by owners, the engine and any number of workers, each record
has an intact chain that can be read to its end, and its rows are as the chain tells. -/
def LifecyclesTold (env : Environment) (signDetached : Value → Value) : Prop :=
  ∀ state, Reached env signDetached state → ∀ assignmentId, Fits env state.store assignmentId

theorem lifecycles_told (env : Environment) (signDetached : Value → Value) :
    LifecyclesTold env signDetached :=
  fun _ reached assignmentId => reached.holds.kept.2 assignmentId

/-- What a purge may do. A record with an active hold is there with its assignment. A record that
is gone has a tombstone, which seals the event of its purge as the last one of its chain, not
before the deadline; all its holds are released. And from then on nothing about it changes. -/
structure PurgesLawful (env : Environment) (signDetached : Value → Value)
    (state : LifecycleState) : Prop where
  guarded : ∀ id hold, holdAt state.store id = some hold → releaseAt state.store id = none →
    (recordAt state.store hold.assignmentId).isSome ∧
      (assignmentAt state.store hold.assignmentId).isSome ∧
      tombstoneAt state.store hold.assignmentId = none
  sealed : ∀ assignmentId chain, chainAt state.store assignmentId = some chain →
    recordAt state.store assignmentId = none → ∃ stone earlier link deadline policyHash,
      tombstoneAt state.store assignmentId = some stone ∧ chain.events = earlier ++ [link] ∧
      link.body.event.news = .recordPurged deadline policyHash ∧
      stone.lifecycleHeadHash = link.digest ∧ stone.purgedAt = link.body.event.createdAt ∧
      deadline ≤ stone.purgedAt ∧
      ∀ id hold, holdAt state.store id = some hold → hold.assignmentId = assignmentId →
        (releaseAt state.store id).isSome
  final : ∀ later, Runs (start env signDetached) (Guard.none Row Outside Point) state later →
    ∀ assignmentId stone, tombstoneAt state.store assignmentId = some stone →
      recordAt later.store assignmentId = none ∧ assignmentAt later.store assignmentId = none ∧
        SameRows state.store later.store assignmentId

theorem Fits.guarded {store : LifecycleRows} {id : Uuid} {hold : LegalHold}
    (fits : Fits env store hold.assignmentId) (found : holdAt store id = some hold)
    (unreleased : releaseAt store id = none) :
    (recordAt store hold.assignmentId).isSome ∧ (assignmentAt store hold.assignmentId).isSome ∧
      tombstoneAt store hold.assignmentId = none := by
  cases there : chainAt store hold.assignmentId with
  | none =>
      obtain ⟨-, -, -, unheld⟩ := fits.absent there
      have free := unheld id
      rw [holdState, found] at free
      simp at free
  | some chain =>
      obtain ⟨account, read, agrees⟩ := (fits.told chain there).account
      have sound := replay_sound read
      obtain ⟨standing, stands⟩ := sound.stands (agrees.held found unreleased)
      have record := agrees.standing
      rw [stands] at record
      obtain ⟨row, recorded, -⟩ := Option.map_eq_some_iff.mp record
      exact ⟨Option.isSome_of_eq_some recorded, fits.assigned recorded there,
        agrees.unpurged sound recorded⟩

/-- The chain of a record that is gone ends with its purge, which the tombstone seals. -/
theorem Fits.sealed {store : LifecycleRows} {assignmentId : Uuid} {chain : LifecycleChain}
    (fits : Fits env store assignmentId) (there : chainAt store assignmentId = some chain)
    (gone : recordAt store assignmentId = none) :
    ∃ stone earlier link deadline policyHash,
      tombstoneAt store assignmentId = some stone ∧ chain.events = earlier ++ [link] ∧
      link.body.event.news = .recordPurged deadline policyHash ∧
      stone.lifecycleHeadHash = link.digest ∧ stone.purgedAt = link.body.event.createdAt ∧
      deadline ≤ stone.purgedAt ∧
      ∀ id hold, holdAt store id = some hold → hold.assignmentId = assignmentId →
        (releaseAt store id).isSome := by
  obtain ⟨account, read, agrees⟩ := (fits.told chain there).account
  have ended : account.standing = none := by
    rw [← agrees.standing, gone]
    rfl
  have purged := replay_gone read (fits.told chain there).begun ended
  obtain ⟨stone, laid⟩ := Option.isSome_iff_exists.mp (agrees.purged.trans purged)
  obtain ⟨earlier, link, events, headHash, purgedAt⟩ := agrees.sealed stone laid
  obtain ⟨before, last, deadline, policyHash, told, news, late⟩ := replay_purged read purged
  obtain ⟨-, rfl⟩ : earlier.map (fun link => link.body.event) = before ∧
      link.body.event = last := by
    rw [LifecycleChain.told, events, List.map_append] at told
    simpa using List.append_inj' told rfl
  refine ⟨stone, earlier, link, deadline, policyHash, laid, events, news, headHash, purgedAt,
    purgedAt ▸ late, fun id hold found same => ?_⟩
  by_contra unreleased
  subst same
  have active := agrees.held found (by simpa using unreleased)
  rw [(replay_sound read).active ended] at active
  exact absurd active (Finset.notMem_empty id)

/-- In every run, in every state, purges have been lawful and stay so. -/
def RetentionLawful (env : Environment) (signDetached : Value → Value) : Prop :=
  ∀ state, Reached env signDetached state → PurgesLawful env signDetached state

theorem retention_lawful (env : Environment) (signDetached : Value → Value) :
    RetentionLawful env signDetached := by
  intro state reached
  have holds := reached.holds
  refine ⟨fun id hold found unreleased => (holds.kept.2 _).guarded found unreleased,
    fun assignmentId chain there gone => (holds.kept.2 assignmentId).sealed there gone,
    fun later run assignmentId stone laid => ?_⟩
  have same := Holds.final holds run laid
  have laterHolds := (holds.runs (telling_valid signDetached) run).1
  cases there : chainAt later.store assignmentId with
  | none =>
      obtain ⟨record, assignment, -, -⟩ := (laterHolds.kept.2 assignmentId).absent there
      exact ⟨record, assignment, same⟩
  | some chain =>
      obtain ⟨account, read, agrees⟩ := ((laterHolds.kept.2 assignmentId).told chain there).account
      have purged : account.purged = true := by
        rw [← agrees.purged, same.tombstone, laid]
        rfl
      have ended := (replay_sound read).purged purged
      have record := agrees.standing
      have assignment := agrees.assignment
      rw [ended] at record assignment
      exact ⟨Option.map_eq_none_iff.mp record,
        Option.isNone_iff_eq_none.mp (by simpa using assignment), same⟩

end Vasi.RecordLifecycle
