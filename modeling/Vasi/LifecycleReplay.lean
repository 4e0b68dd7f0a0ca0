import Vasi.RecordLifecycle

/-!
# What a lifecycle chain tells

The events of a chain, read one after the other, tell where a record stands, which holds are on
it and whether it has been purged. Reading refuses an event that does not fit what was read
before: a status that changes twice or before its deadline, a hold that is released without
having been placed, a purge while a hold is active, any event after the purge.

Every operation appends to the chain what it does to the rows, under locks that keep the rows as
it read them until it commits. So in every run the chain of a record is intact, it can be read
to its end, and the rows are as it tells.
-/
namespace Vasi.RecordLifecycle

open JsValue IsoTime CanonicalJson ReadCommitted HashChain
open EngineRows (Uuid)
open EvidenceEvents (Environment GENESIS_HASH)

/-! ## Reading a chain -/

/-- What the events read so far tell of a record. -/
structure Account where
  standing : Option Standing
  active : Finset Uuid
  released : Finset Uuid
  purged : Bool

def Account.empty : Account := ⟨none, ∅, ∅, false⟩

/-- The deadline that an event states is the one of the record, and has come. -/
def reached (own : Option Time) (deadline createdAt : Time) : Bool :=
  own = some deadline ∧ deadline ≤ createdAt

/-- The account of a record that an event leaves in another standing. -/
def Account.stand (account : Account) (fits : Bool) (standing : Standing) : Option Account :=
  if fits then some { account with standing := some standing } else none

/-- The account after one more event; none if the event does not fit. -/
def Account.follow (account : Account) (event : NewLifecycleEvent) : Option Account :=
  match event.news, account.standing with
  | .policyBound deadlines policyHash _ _, none =>
      account.stand (!account.purged && account.released = ∅)
        ⟨policyHash, deadlines, .active, .active, .active⟩
  | .terminalAnchored deadlines policyHash, some standing =>
      account.stand (policyHash = standing.policyHash) { standing with deadlines }
  | .contentExpired deadline, some standing =>
      account.stand (standing.contentStatus = .active &&
        reached standing.deadlines.contentExpiresAt deadline event.createdAt)
        { standing with contentStatus := .expired }
  | .historyExpired deadline, some standing =>
      account.stand (standing.historyStatus = .active &&
        reached standing.deadlines.historyExpiresAt deadline event.createdAt)
        { standing with historyStatus := .expired }
  | .evidenceArchived deadline, some standing =>
      account.stand (standing.evidenceStatus = .active &&
        reached standing.deadlines.archiveAt deadline event.createdAt)
        { standing with evidenceStatus := .archived }
  | .purgeBlocked requests holds, some standing =>
      account.stand (requests + holds ≠ 0) standing
  | .purgeDue deadline policyHash, some standing =>
      account.stand (standing.evidenceStatus ≠ .purgeDue && policyHash = standing.policyHash &&
        reached standing.deadlines.deleteAt deadline event.createdAt)
        { standing with evidenceStatus := .purgeDue }
  | .recordPurged deadline policyHash, some standing =>
      if standing.evidenceStatus = .purgeDue ∧ policyHash = standing.policyHash ∧
          account.active = ∅ ∧ reached standing.deadlines.deleteAt deadline event.createdAt then
        some { account with standing := none, purged := true }
      else none
  | .holdPlaced _ holdId _, some _ =>
      if holdId ∈ account.active ∪ account.released then none
      else some { account with active := insert holdId account.active }
  | .holdReleased holdId _ _, some _ =>
      if holdId ∈ account.active then
        some { account with
          active := account.active.erase holdId
          released := insert holdId account.released }
      else none
  | _, _ => none

/-- What a list of events tells. -/
def replay (events : List NewLifecycleEvent) : Option Account :=
  events.foldlM Account.follow .empty

/-- Only a record that stands has active holds, and a purged one does not stand. -/
structure Account.Sound (account : Account) : Prop where
  active : account.standing = none → account.active = ∅
  purged : account.purged = true → account.standing = none

section

variable {account next : Account} {event : NewLifecycleEvent}

theorem Account.stand_eq_some {fits : Bool} {standing : Standing}
    (stood : account.stand fits standing = some next) :
    fits = true ∧ next = { account with standing := some standing } := by
  unfold Account.stand at stood
  split at stood
  case isTrue holds => exact ⟨holds, (Option.some.inj stood).symm⟩
  case isFalse => cases stood

theorem Account.follow_purged (followed : account.follow event = some next)
    (before : account.purged = false) (after : next.purged = true) :
    ∃ deadline policyHash, event.news = .recordPurged deadline policyHash ∧
      deadline ≤ event.createdAt := by
  unfold Account.follow at followed
  split at followed
  case h_8 deadline policyHash standing news _ =>
    split at followed
    case isTrue fits =>
      exact ⟨deadline, policyHash, news, (of_decide_eq_true fits.2.2.2).2⟩
    case isFalse => cases followed
  case h_9 =>
    split at followed
    case isTrue => cases followed
    case isFalse =>
      obtain rfl := Option.some.inj followed
      cases before.symm.trans after
  case h_10 =>
    split at followed
    case isTrue =>
      obtain rfl := Option.some.inj followed
      cases before.symm.trans after
    case isFalse => cases followed
  case h_11 => cases followed
  all_goals
    obtain ⟨-, rfl⟩ := stand_eq_some followed
    cases before.symm.trans after

/-- A purged record has no further event. -/
theorem Account.Sound.unpurged (sound : account.Sound)
    (followed : account.follow event = some next) :
    account.purged = false := by
  by_contra purged
  rw [Bool.not_eq_false] at purged
  have gone := sound.purged purged
  unfold Account.follow at followed
  rw [gone] at followed
  split at followed
  case h_1 => simp [Account.stand, purged] at followed
  case h_11 => cases followed
  all_goals contradiction

/-- After an event a record stands or is purged. -/
theorem Account.follow_gone (followed : account.follow event = some next)
    (gone : next.standing = none) : next.purged = true := by
  unfold Account.follow at followed
  split at followed
  case h_8 =>
    split at followed
    case isTrue =>
      obtain rfl := Option.some.inj followed
      rfl
    case isFalse => cases followed
  case h_9 _ _ _ _ _ there =>
    split at followed
    case isTrue => cases followed
    case isFalse =>
      obtain rfl := Option.some.inj followed
      cases there.symm.trans gone
  case h_10 _ _ _ _ _ there =>
    split at followed
    case isTrue =>
      obtain rfl := Option.some.inj followed
      cases there.symm.trans gone
    case isFalse => cases followed
  case h_11 => cases followed
  all_goals
    obtain ⟨-, rfl⟩ := stand_eq_some followed
    cases gone

/-- Reading keeps accounts sound. -/
theorem Account.Sound.follow (sound : account.Sound) (followed : account.follow event = some next) :
    next.Sound := by
  have unpurged := sound.unpurged followed
  have stands {standing : Standing} {fits : Bool}
      (stood : account.stand fits standing = some next) : next.Sound := by
    obtain ⟨-, rfl⟩ := stand_eq_some stood
    exact ⟨by simp, by simp [unpurged]⟩
  unfold Account.follow at followed
  split at followed
  case h_8 =>
    split at followed
    case isTrue fits =>
      obtain rfl := Option.some.inj followed
      exact ⟨fun _ => fits.2.2.1, fun _ => rfl⟩
    case isFalse => cases followed
  case h_9 _ _ _ _ _ there =>
    split at followed
    case isTrue => cases followed
    case isFalse =>
      obtain rfl := Option.some.inj followed
      exact ⟨fun none => absurd (there.symm.trans none) (by simp), by simp [unpurged]⟩
  case h_10 _ _ _ _ _ there =>
    split at followed
    case isTrue =>
      obtain rfl := Option.some.inj followed
      exact ⟨fun none => absurd (there.symm.trans none) (by simp), by simp [unpurged]⟩
    case isFalse => cases followed
  case h_11 => cases followed
  all_goals exact stands followed

end

theorem replay_append (events : List NewLifecycleEvent) (event : NewLifecycleEvent) :
    replay (events ++ [event]) = (replay events).bind fun account => account.follow event := by
  simp [replay, List.foldlM_append]

theorem replay_sound {events : List NewLifecycleEvent} {account : Account}
    (told : replay events = some account) : account.Sound := by
  induction events using List.reverseRecOn generalizing account with
  | nil =>
      obtain rfl := Option.some.inj told
      exact ⟨fun _ => rfl, by simp [Account.empty]⟩
  | append_singleton events event inductionHypothesis =>
      rw [replay_append] at told
      obtain ⟨before, earlier, followed⟩ := Option.bind_eq_some_iff.mp told
      exact (inductionHypothesis earlier).follow followed

/-- A record that was bound and does not stand is purged. -/
theorem replay_gone {events : List NewLifecycleEvent} {account : Account}
    (told : replay events = some account) (begun : events ≠ []) (gone : account.standing = none) :
    account.purged = true := by
  obtain ⟨earlier, event, rfl⟩ := List.eq_nil_or_concat' events |>.resolve_left begun
  rw [replay_append] at told
  obtain ⟨before, -, followed⟩ := Option.bind_eq_some_iff.mp told
  exact Account.follow_gone followed gone

/-- The events of a purged record end with the purge, not before its deadline. -/
theorem replay_purged {events : List NewLifecycleEvent} {account : Account}
    (told : replay events = some account) (purged : account.purged = true) :
    ∃ earlier last deadline policyHash, events = earlier ++ [last] ∧
      last.news = .recordPurged deadline policyHash ∧ deadline ≤ last.createdAt := by
  induction events using List.reverseRecOn with
  | nil =>
      obtain rfl := Option.some.inj told
      cases purged
  | append_singleton events event _ =>
      rw [replay_append] at told
      obtain ⟨before, earlier, followed⟩ := Option.bind_eq_some_iff.mp told
      obtain ⟨deadline, policyHash, news, late⟩ :=
        Account.follow_purged followed ((replay_sound earlier).unpurged followed) purged
      exact ⟨events, event, deadline, policyHash, rfl, news, late⟩

/-! ## Chains stay intact -/

section

variable (env : Environment)

/-- The document of an event is stored as it was made, and its hash recomputes from it. -/
structure SoundEvent (link : LifecycleEvent) : Prop where
  stored : link.body.eventData =
    readBack env.order (lifecycleEventData link.body.event link.sequence link.previous)
  eventHash : hashCanonicalJSON env.sha256Hex link.body.eventData = .ok link.digest

/-- The events of a chain follow one another from the genesis hash to the head. -/
structure IntactChain (chain : LifecycleChain) : Prop where
  intact : Intact (SoundEvent env) 0 GENESIS_HASH chain.events
  lastSequence : chain.lastSequence = chain.events.length
  lastHash : chain.lastHash = lastDigest GENESIS_HASH chain.events

/-- The events that a chain was made of. -/
def LifecycleChain.told (chain : LifecycleChain) : List NewLifecycleEvent :=
  chain.events.map fun link => link.body.event

end

variable {env : Environment}

theorem newChain_intact : IntactChain env newChain := ⟨trivial, rfl, rfl⟩

theorem wellFormed_optionalText (text : Option JsString) : WellFormed (optionalText text) := by
  cases text <;> simp [optionalText, WellFormed]

theorem wellFormed_texts (texts : List JsString) : WellFormedItems (texts.map Value.string) := by
  induction texts with
  | nil => trivial
  | cons text rest inductionHypothesis => exact ⟨trivial, inductionHypothesis⟩

theorem wellFormed_iso (time : Option Time) : WellFormed (iso time) := by
  cases time <;> simp [iso, WellFormed]

theorem lifecycleActorSnapshot_wellFormed (actor : LifecycleActor) :
    WellFormed (lifecycleActorSnapshot actor) := by
  refine ⟨by simp only [List.map_cons, List.map_nil]; decide, ?_⟩
  cases actor.authentication with
  | none => exact ⟨trivial, trivial, wellFormed_texts _, trivial⟩
  | some authentication =>
      exact ⟨⟨by simp only [List.map_cons, List.map_nil]; decide, trivial,
        wellFormed_optionalText _, trivial⟩, trivial, wellFormed_texts _, trivial⟩

theorem isoDeadlines_wellFormed (deadlines : RetentionDeadlines.Deadlines) :
    WellFormed (isoDeadlines deadlines) := by
  refine ⟨by simp only [List.map_cons, List.map_nil]; decide, ?_⟩
  simp only [WellFormedMembers, wellFormed_iso, and_self]

theorem payload_wellFormed (news : LifecycleNews) : WellFormed news.payload := by
  cases news with
  | policyBound deadlines policyHash policyRevisionId profileName =>
      refine ⟨by simp only [List.map_cons, List.map_nil]; decide, isoDeadlines_wellFormed _,
        trivial, ?_, trivial, trivial⟩
      cases policyRevisionId <;> exact trivial
  | terminalAnchored deadlines policyHash =>
      exact ⟨by simp only [List.map_cons, List.map_nil]; decide, isoDeadlines_wellFormed _,
        trivial, trivial⟩
  | _ =>
      refine ⟨by simp only [List.map_cons, List.map_nil]; decide, ?_⟩
      simp [WellFormedMembers, WellFormed, EvidenceEvents.wholeNumber]

theorem lifecycleEventData_wellFormed (event : NewLifecycleEvent) (sequence : ℕ)
    (previousHash : JsString) : WellFormed (lifecycleEventData event sequence previousHash) := by
  refine ⟨by simp only [List.map_cons, List.map_nil]; decide, ?_⟩
  simp only [WellFormedMembers, WellFormed, EvidenceEvents.wholeNumber,
    lifecycleActorSnapshot_wellFormed, payload_wellFormed, and_self]

/-- What an append does to a chain: the new event is sound and follows the last one. -/
theorem append_ok {event : NewLifecycleEvent} {chain next : LifecycleChain}
    (appended : LifecycleChain.append env chain event = .ok next) :
    ∃ link : LifecycleEvent, SoundEvent env link ∧ link.sequence = chain.lastSequence + 1 ∧
      link.previous = chain.lastHash ∧ link.body.event = event ∧
      next = ⟨link.sequence, link.digest, chain.events ++ [link]⟩ := by
  simp only [LifecycleChain.append, bind, Except.bind] at appended
  split at appended
  · cases appended
  · rename_i eventHash hashed
    have representable := (hashCanonicalJSON_succeeds env.sha256Hex _).mp ⟨_, hashed⟩
    refine ⟨⟨chain.lastSequence + 1, chain.lastHash, ⟨event, _⟩, eventHash⟩, ⟨rfl, ?_⟩, rfl, rfl,
      rfl, (Except.ok.inj appended).symm⟩
    exact (hashCanonicalJSON_readBack env.sha256Hex env.order env.rearranges _
      (lifecycleEventData_wellFormed event _ _) representable).trans hashed

/-- Appending keeps a chain intact and adds the event at its end. -/
theorem append_intact {event : NewLifecycleEvent} {chain next : LifecycleChain}
    (appended : LifecycleChain.append env chain event = .ok next) (intact : IntactChain env chain) :
    IntactChain env next ∧ ∃ link : LifecycleEvent, next.events = chain.events ++ [link] ∧
      next.lastHash = link.digest ∧ link.body.event = event := by
  obtain ⟨link, sound, sequence, previous, same, rfl⟩ := append_ok appended
  refine ⟨⟨(intact_append _ _ _ _ _).mpr ⟨intact.intact, ?_, ?_, sound⟩, ?_, ?_⟩,
    link, rfl, rfl, same⟩
  · rw [sequence, intact.lastSequence, Nat.zero_add]
  · rw [previous, intact.lastHash]
  · rw [sequence, intact.lastSequence, List.length_append, List.length_singleton]
  · rw [lastDigest_append]

/-! ## The rows are as the chain tells -/

/-- Whether a hold is on a record, and if it is, whether it has been released. -/
def holdState (store : LifecycleRows) (assignmentId id : Uuid) : Option Bool :=
  ((holdAt store id).filter fun hold => hold.assignmentId = assignmentId).map
    fun _ => (releaseAt store id).isSome

def Account.holdState (account : Account) (id : Uuid) : Option Bool :=
  if id ∈ account.active then some false
  else if id ∈ account.released then some true
  else none

/-- The rows of a record are as an account of it tells, and its tombstone seals the last
event of its chain. -/
structure Account.Agrees (account : Account) (chain : LifecycleChain) (store : LifecycleRows)
    (assignmentId : Uuid) : Prop where
  standing : (recordAt store assignmentId).map LifecycleRecord.toStanding = account.standing
  assignment : (assignmentAt store assignmentId).isSome = account.standing.isSome
  holds : ∀ id, RecordLifecycle.holdState store assignmentId id = account.holdState id
  purged : (tombstoneAt store assignmentId).isSome = account.purged
  sealed : ∀ stone, tombstoneAt store assignmentId = some stone →
    ∃ earlier link, chain.events = earlier ++ [link] ∧ stone.lifecycleHeadHash = link.digest ∧
      stone.purgedAt = link.body.event.createdAt

/-- The chain of a record is intact and can be read to its end, and the rows are as it tells. -/
structure Told (env : Environment) (chain : LifecycleChain) (store : LifecycleRows)
    (assignmentId : Uuid) : Prop where
  intact : IntactChain env chain
  begun : chain.told ≠ []
  account : ∃ account, replay chain.told = some account ∧
    account.Agrees chain store assignmentId

/-- What holds of the rows of a record; without a chain there are none. -/
structure Fits (env : Environment) (store : LifecycleRows) (assignmentId : Uuid) : Prop where
  absent : chainAt store assignmentId = none → recordAt store assignmentId = none ∧
    assignmentAt store assignmentId = none ∧ tombstoneAt store assignmentId = none ∧
    ∀ id, holdState store assignmentId id = none
  told : ∀ chain, chainAt store assignmentId = some chain → Told env chain store assignmentId

/-- Holds and releases are kept, and a release is of a hold that was there. -/
structure KeepsHolds (before after : LifecycleRows) : Prop where
  holds : ∀ id hold, holdAt before id = some hold → holdAt after id = some hold
  releases : ∀ id release, releaseAt before id = some release → releaseAt after id = some release

/-- The rows of a record are the same in two states. -/
structure SameRows (before after : LifecycleRows) (assignmentId : Uuid) : Prop where
  assignment : assignmentAt after assignmentId = assignmentAt before assignmentId
  record : recordAt after assignmentId = recordAt before assignmentId
  chain : chainAt after assignmentId = chainAt before assignmentId
  tombstone : tombstoneAt after assignmentId = tombstoneAt before assignmentId
  holds : ∀ id, holdState after assignmentId id = holdState before assignmentId id

/-- What a commit makes of the rows of a record: nothing; a new record with its chain; or, in
the rows and in the chain alike, what one or two events say. -/
inductive Moved (env : Environment) (known : List (Sigma Row)) (before after : LifecycleRows)
    (assignmentId : Uuid) : Prop where
  | same (rows : SameRows before after assignmentId)
  | bound (next : LifecycleChain) (absent : chainAt before assignmentId = none)
      (found : chainAt after assignmentId = some next) (told : Told env next after assignmentId)
  | appended (chain next : LifecycleChain) (events : List NewLifecycleEvent)
      (some : events ≠ []) (rests : (⟨.chain assignmentId, chain⟩ : Sigma Row) ∈ known)
      (extended : events.foldlM (LifecycleChain.append env) chain = .ok next)
      (found : chainAt after assignmentId = Option.some next)
      (rows : ∀ account : Account, account.Sound →
        account.Agrees chain before assignmentId → IntactChain env next →
        ∃ later, events.foldlM Account.follow account = Option.some later ∧
          later.Agrees next after assignmentId)

/-- The contract of the operations: a commit does to the rows of a record what it appends to its
chain, and puts a hold only on a record that it has locked. -/
def telling (env : Environment) : Contract Row Outside Point Outcome where
  guard := Guard.none Row Outside Point
  invariant := fun store => (∀ id, holdAt store id = none → releaseAt store id = none) ∧
    ∀ assignmentId, Fits env store assignmentId
  moves := fun held before after => KeepsHolds before after ∧
    ∀ assignmentId, held (.record assignmentId) → ∀ id hold, holdAt after id = some hold →
      hold.assignmentId = assignmentId → holdAt before id = some hold
  effect := fun _ known before after => KeepsHolds before after ∧
    (∀ id hold, holdAt after id = some hold → holdAt before id = some hold ∨
      ∃ record, (⟨.record hold.assignmentId, record⟩ : Sigma Row) ∈ known) ∧
    (∀ id, releaseAt before id = none → (releaseAt after id).isSome → (holdAt before id).isSome) ∧
    ∀ assignmentId, Moved env known before after assignmentId
  promise := fun _ _ _ _ _ => True
  moves_refl := fun _ _ => ⟨⟨fun _ _ found => found, fun _ _ found => found⟩,
    fun _ _ _ _ found _ => found⟩
  moves_trans := fun _ _ _ _ one two => ⟨⟨fun id hold found => two.1.holds id hold
      (one.1.holds id hold found), fun id release found => two.1.releases id release
      (one.1.releases id release found)⟩, fun assignmentId held id hold found same =>
    one.2 assignmentId held id hold (two.2 assignmentId held id hold found same) same⟩
  moves_anti := fun _ _ _ _ fewer moved =>
    ⟨moved.1, fun assignmentId held => moved.2 assignmentId (fewer _ held)⟩

theorem telling_unpromising : Unpromising (telling env) := ⟨fun _ _ _ _ _ => trivial⟩

end Vasi.RecordLifecycle
