import Vasi.Invitations
import Vasi.Sessions

/-!
# Invitations stay consistent

What holds in every run of invitations. A row that a session has locked moves only by
that session's commit, so what the session read is still so when it commits; a row that
is inserted and not committed keeps others of its address and its command out. From this
follow the two unique indexes, one mail for each command, and the moves a row can make.

Only one move is not as it should be: a failed delivery is recorded, and the invitation
revoked, whether or not it has been accepted meanwhile.
-/
namespace Vasi.Invitations

open JsValue Validation Sessions

/-! ## What is to hold -/

/-- How a row may move. -/
structure Moves (before after : Invitation) : Prop where
  identity : after = { before with
    deliveryStatus := after.deliveryStatus
    acceptedAt := after.acceptedAt
    acceptedBy := after.acceptedBy
    revokedAt := after.revokedAt }
  delivery : after.deliveryStatus = before.deliveryStatus ∨
    before.deliveryStatus = .pending ∧ after.deliveryStatus ≠ .pending
  acceptance : after.acceptedAt = before.acceptedAt ∧ after.acceptedBy = before.acceptedBy ∨
    before.Live ∧ after.revokedAt = none ∧
      ∃ now, after.acceptedAt = some now ∧ now < before.expiresAt
  revocation : before.revokedAt ≠ none → after.revokedAt ≠ none
  accepted : before.acceptedAt ≠ none → after.revokedAt = before.revokedAt

/-- A row as it is created. -/
structure Created (row : Invitation) : Prop where
  live : row.Live
  pending : row.deliveryStatus = .pending

/-- The committed rows and the mails of a state. -/
structure Consistent (platform : Platform) (state : State) : Prop where
  invitations : ∀ command,
    (state.rows.filter fun row => row.sourceCommandId = some command).length ≤ 1
  mails : ∀ command,
    (state.mails.filter fun mail => mail.sourceCommandId = some command).length ≤ 1
  addresses : ∀ email,
    (state.rows.filter fun row => platform.lower row.email = email ∧ row.Live).length ≤ 1

/-- What a step does to the rows. -/
structure RowsMove (before after : State) : Prop where
  kept : ∀ row ∈ before.rows, ∃ next ∈ after.rows, Moves row next
  grown : ∀ next ∈ after.rows, (∃ row ∈ before.rows, Moves row next) ∨ Created next

/-- No calls have been made. -/
structure Initial (state : State) : Prop where
  rows : state.rows = []
  sessions : ∀ id, state.sessions id = none
  mails : state.mails = []

/-- Invitations stay consistent in every run. -/
def StaysConsistent (platform : Platform) (careful : Prop) : Prop :=
  ∀ start state, Initial start → Relation.ReflTransGen (Step platform careful) start state →
    Consistent platform state ∧
    ∀ next, Step platform careful state next → RowsMove state next

/-! ## Rows -/

section

variable {platform : Platform}

theorem Distinct.symm {first second : Invitation} (distinct : Distinct platform first second) :
    Distinct platform second first :=
  ⟨fun same => distinct.id same.symm,
    fun one other same => distinct.email other one same.symm,
    fun command one other => distinct.command command other one⟩

theorem Moves.refl (row : Invitation) : Moves row row :=
  ⟨rfl, .inl rfl, .inl ⟨rfl, rfl⟩, fun revoked => revoked, fun _ => rfl⟩

section

variable {before after : Invitation}

theorem Moves.id (moves : Moves before after) : after.id = before.id := by
  rw [moves.identity]

theorem Moves.email (moves : Moves before after) : after.email = before.email := by
  rw [moves.identity]

theorem Moves.command (moves : Moves before after) :
    after.sourceCommandId = before.sourceCommandId := by
  rw [moves.identity]

/-- A row that is no longer live stays so. -/
theorem Moves.live (moves : Moves before after) (live : after.Live) : before.Live := by
  obtain ⟨unaccepted, unrevoked⟩ := live
  rcases moves.acceptance with ⟨same, _⟩ | ⟨wasLive, _⟩
  · refine ⟨same.symm.trans unaccepted, ?_⟩
    by_contra revoked
    exact moves.revocation revoked unrevoked
  · exact wasLive

theorem Distinct.moves {other : Invitation} (distinct : Distinct platform before other)
    (moves : Moves before after) : Distinct platform after other := by
  refine ⟨?_, fun live otherLive => ?_, fun command => ?_⟩
  · rw [moves.id]
    exact distinct.id
  · rw [moves.email]
    exact distinct.email (moves.live live) otherLive
  · rw [moves.command]
    exact distinct.command command

end

/-- A row that is revoked keeps apart from what it was apart from. -/
theorem Distinct.revoke {row other : Invitation} (distinct : Distinct platform row other)
    (ids : List JsString) (began : ℕ) :
    Distinct platform (if row.id ∈ ids then row.revoke began else row) other := by
  split
  · refine ⟨distinct.id, fun live => ?_, distinct.command⟩
    cases live.2
  · exact distinct

/-- The change moves the rows it is made to. -/
def Changes (ids : List JsString) (change : Invitation → Invitation) (rows : List Invitation) :
    Prop :=
  ∀ row ∈ rows, row.id ∈ ids → Moves row (change row)

section

variable {ids : List JsString} {change : Invitation → Invitation} {rows : List Invitation}

theorem Changes.each (changes : Changes ids change rows) {row : Invitation} (inside : row ∈ rows) :
    Moves row (if row.id ∈ ids then change row else row) := by
  split
  · rename_i locked
    exact changes row inside locked
  · exact .refl row

theorem Changes.forward (changes : Changes ids change rows) {row : Invitation}
    (inside : row ∈ rows) : ∃ next ∈ updateRows ids change rows, Moves row next :=
  ⟨_, List.mem_map_of_mem inside, changes.each inside⟩

theorem Changes.backward (changes : Changes ids change rows) {next : Invitation}
    (inside : next ∈ updateRows ids change rows) : ∃ row ∈ rows, Moves row next := by
  obtain ⟨row, member, rfl⟩ := List.mem_map.mp inside
  exact ⟨row, member, changes.each member⟩

/-- A row that is not updated stays. -/
theorem mem_updateRows {row : Invitation} (inside : row ∈ rows) (free : row.id ∉ ids) :
    row ∈ updateRows ids change rows := by
  have same : (if row.id ∈ ids then change row else row) = row := if_neg free
  rw [← same]
  exact List.mem_map_of_mem inside

theorem Changes.distinct (changes : Changes ids change rows)
    (distinct : rows.Pairwise (Distinct platform)) :
    (updateRows ids change rows).Pairwise (Distinct platform) := by
  rw [updateRows, List.pairwise_map]
  refine distinct.imp_of_mem fun {first second} firstIn secondIn apart => ?_
  exact ((apart.moves (changes.each firstIn)).symm.moves (changes.each secondIn)).symm

end

/-- Some row has this identifier and this property. -/
def Has (rows : List Invitation) (id : JsString) (holds : Invitation → Prop) : Prop :=
  ∃ row ∈ rows, row.id = id ∧ holds row

/-- No row is bound to the command of the call. -/
def Unbound (call : Call) (rows : List Invitation) : Prop :=
  ∀ command, call.commandId = some command → ∀ row ∈ rows, row.sourceCommandId ≠ some command

/-! ## Sessions -/

/-- What a session has read and still finds so. -/
def Current (platform : Platform) (rows : List Invitation) (mails : List Mail) : Session → Prop
  | .creating call .checking => Unbound call rows
  | .creating call (.selected _ _) => Unbound call rows
  | .creating call (.revoked _ ids) => Unbound call rows ∧ ∀ id ∈ ids, Has rows id Invitation.Live
  | .creating call (.inserted began ids row) =>
      Unbound call rows ∧ (∀ id ∈ ids, Has rows id Invitation.Live) ∧ Created row ∧
        row.sourceCommandId = call.commandId ∧
        ∀ stored ∈ updateRows ids (Invitation.revoke began) rows, Distinct platform stored row
  | .creating call (.sending row) => (∀ mail ∈ mails, mail.invitationId ≠ row.id) ∧
      Has rows row.id fun stored => stored.sourceCommandId = call.commandId
  | .creating _ (.recorded _ row outcome) => Has rows row.id fun stored =>
      stored.deliveryStatus = .pending ∧ (outcome.status = .failed → stored.acceptedAt = none)
  | .accepting _ (.accepted began id) => Has rows id fun stored =>
      stored.Live ∧ began < stored.expiresAt
  | _ => True

/-- Two sessions do not get in each other's way. -/
structure Apart (platform : Platform) (one other : Session) : Prop where
  locks : ∀ row ∈ one.locks, row ∉ other.locks
  staged : ∀ first ∈ one.staged, ∀ second ∈ other.staged, Distinct platform first second
  holds : ∀ command, one.Holds command → ¬ other.Holds command
  sends : ∀ id ∈ one.sends, id ∉ other.sends

theorem Apart.symm {one other : Session} (apart : Apart platform one other) :
    Apart platform other one :=
  ⟨fun row locked lockedToo => apart.locks row lockedToo locked,
    fun first one second other => (apart.staged second other first one).symm,
    fun command held heldToo => apart.holds command heldToo held,
    fun id sent sentToo => apart.sends id sentToo sent⟩

/-- The invariant of a run. -/
structure Sound (platform : Platform) (state : State) : Prop where
  rows : state.rows.Pairwise (Distinct platform)
  current : ∀ id session, state.sessions id = some session →
    Current platform state.rows state.mails session
  apart : ∀ id other one two, id ≠ other → state.sessions id = some one →
    state.sessions other = some two → Apart platform one two
  mailed : ∀ mail ∈ state.mails, Has state.rows mail.invitationId fun stored =>
    stored.sourceCommandId = mail.sourceCommandId
  once : (state.mails.map Mail.invitationId).Nodup

/-! ## Steps that leave the rows -/

section

variable {state : State} {id : ℕ}

/-- A session goes on to a phase that is apart from all other sessions. -/
theorem Sound.set (sound : Sound platform state) {session : Session}
    (current : Current platform state.rows state.mails session)
    (apart : ∀ other two, other ≠ id → state.sessions other = some two →
      Apart platform session two) :
    Sound platform (state.set id (some session)) := by
  refine ⟨sound.rows, each_update (fun one isMine => ?_) fun other two _ => sound.current other two,
    pairs_update (fun _ _ => Apart.symm) (fun one isMine => ?_) sound.apart, sound.mailed, sound.once⟩
  · cases isMine
    exact current
  · cases isMine
    exact apart

/-- A session ends. -/
theorem Sound.drop (sound : Sound platform state) (id : ℕ) :
    Sound platform (state.set id none) :=
  ⟨sound.rows, each_update (fun _ => nofun) fun other two _ => sound.current other two,
    pairs_update (fun _ _ => Apart.symm) (fun _ => nofun) sound.apart, sound.mailed, sound.once⟩

/-- A creation ends with an answer. -/
theorem Sound.answer (sound : Sound platform state) (id : ℕ) (call : Call)
    (outcome : Checked Receipt) : Sound platform (state.answer id call outcome) :=
  have dropped := sound.drop id
  ⟨dropped.rows, dropped.current, dropped.apart, dropped.mailed, dropped.once⟩

/-- A session goes on after it has changed the rows or the mails. -/
theorem Sound.resume {rows : List Invitation} {mails : List Mail}
    (sound : Sound platform { state.set id none with rows, mails }) {session : Session}
    (current : Current platform rows mails session)
    (apart : ∀ other two, other ≠ id → state.sessions other = some two →
      Apart platform session two) :
    Sound platform { state.set id (some session) with rows, mails } := by
  have resumed := sound.set current fun other two different found => by
    rcases update_cases found with ⟨same, _⟩ | ⟨_, isOther⟩
    · exact absurd same different
    · exact apart other two different isOther
  have same : ({ state.set id none with rows, mails } : State).set id (some session) =
      { state.set id (some session) with rows, mails } := by
    unfold State.set
    dsimp only
    rw [Function.update_idem]
  rw [← same]
  exact resumed

/-- The later phase has no more locks, rows and rights than the earlier one. -/
structure Within (later earlier : Session) : Prop where
  locks : ∀ row ∈ later.locks, row ∈ earlier.locks
  staged : ∀ row ∈ later.staged, row ∈ earlier.staged
  holds : ∀ command, later.Holds command → earlier.Holds command
  sends : ∀ row ∈ later.sends, row ∈ earlier.sends

theorem Apart.within {later earlier other : Session} (apart : Apart platform earlier other)
    (within : Within later earlier) : Apart platform later other :=
  ⟨fun row locked => apart.locks row (within.locks row locked),
    fun first isFirst => apart.staged first (within.staged first isFirst),
    fun command held => apart.holds command (within.holds command held),
    fun row sent => apart.sends row (within.sends row sent)⟩

/-- A session goes on without new locks, rows and rights. -/
theorem Sound.advance (sound : Sound platform state) {earlier later : Session}
    (found : state.sessions id = some earlier) (within : Within later earlier)
    (current : Current platform state.rows state.mails later) :
    Sound platform (state.set id (some later)) :=
  sound.set current fun other two different isTwo =>
    (sound.apart id other earlier two different.symm found isTwo).within within

end

/-! ## Steps that change the rows -/

/-- What else a session knows after rows that it has not locked have changed. -/
theorem Current.change {rows : List Invitation} {mails : List Mail} {session : Session}
    (current : Current platform rows mails session) {ids : List JsString}
    {change : Invitation → Invitation} (changes : Changes ids change rows)
    (free : ∀ row ∈ session.locks, row ∉ ids) {added : List Invitation}
    (unstaged : ∀ row ∈ added, ∀ other ∈ session.staged, Distinct platform row other)
    (unheld : ∀ row ∈ added, ∀ command, row.sourceCommandId = some command →
      ¬ session.Holds command) :
    Current platform (updateRows ids change rows ++ added) mails session := by
  have has {id : JsString} {holds : Invitation → Prop} (locked : id ∈ session.locks)
      (there : Has rows id holds) : Has (updateRows ids change rows ++ added) id holds := by
    obtain ⟨row, inside, rfl, property⟩ := there
    exact ⟨row, List.mem_append_left _ (mem_updateRows inside (free _ locked)), rfl, property⟩
  have unbound {call : Call} (holds : ∀ command, call.commandId = some command →
      session.Holds command) (unbound : Unbound call rows) :
      Unbound call (updateRows ids change rows ++ added) := by
    intro command bound row inside
    rcases List.mem_append.mp inside with old | new
    · obtain ⟨before, member, moves⟩ := changes.backward old
      rw [moves.command]
      exact unbound command bound before member
    · exact fun mine => unheld row new command mine (holds command bound)
  cases session with
  | creating call phase =>
      cases phase with
      | checking => exact unbound (fun _ bound => bound) current
      | selected began chosen => exact unbound (fun _ bound => bound) current
      | revoked began chosen =>
          exact ⟨unbound (fun _ bound => bound) current.1,
            fun id member => has member (current.2 id member)⟩
      | inserted began chosen row =>
          obtain ⟨free', live, created, bound, distinct⟩ := current
          refine ⟨unbound (fun _ bound => bound) free', fun id member => has member (live id member),
            created, bound, fun stored inside => ?_⟩
          rw [updateRows, List.mem_map] at inside
          obtain ⟨now, inside, rfl⟩ := inside
          rcases List.mem_append.mp inside with old | new
          · obtain ⟨before, member, rfl⟩ := List.mem_map.mp old
            have wasDistinct := distinct _ (List.mem_map_of_mem member)
            by_cases mine : before.id ∈ chosen
            · have apart : before.id ∉ ids := free before.id mine
              rw [if_neg apart]
              exact wasDistinct
            · rw [if_neg mine] at wasDistinct
              have moves := changes.each member
              have notMine : (if before.id ∈ ids then change before else before).id ∉ chosen := by
                rw [moves.id]
                exact mine
              rw [if_neg notMine]
              exact wasDistinct.moves moves
          · exact (unstaged now new row rfl).revoke chosen began
      | sending row =>
          refine ⟨current.1, ?_⟩
          obtain ⟨stored, inside, same, bound⟩ := current.2
          obtain ⟨next, there, moves⟩ := changes.forward inside
          exact ⟨next, List.mem_append_left _ there, moves.id.trans same,
            moves.command.trans bound⟩
      | recorded began row outcome => exact has List.mem_cons_self current
      | _ => trivial
  | accepting user phase =>
      cases phase with
      | accepted began id => exact has List.mem_cons_self current
      | _ => trivial

/-- A commit changes the rows its session has locked, and may add the row it has staged. -/
theorem Sound.commit {state : State} (sound : Sound platform state) {id : ℕ} {session : Session}
    (found : state.sessions id = some session) {change : Invitation → Invitation}
    (changes : Changes session.locks change state.rows) (added : List Invitation)
    (staged : ∀ row ∈ added, row ∈ session.staged ∧
      (∀ command, row.sourceCommandId = some command → session.Holds command) ∧
      ∀ stored ∈ updateRows session.locks change state.rows, Distinct platform stored row)
    (few : added.Pairwise (Distinct platform)) :
    Sound platform { state.set id none with
      rows := updateRows session.locks change state.rows ++ added } := by
  have dropped := sound.drop id
  refine ⟨?_, fun other two isTwo => ?_, dropped.apart, fun mail sent => ?_, sound.once⟩
  · refine List.pairwise_append.mpr ⟨changes.distinct sound.rows, few, fun old isOld new isNew => ?_⟩
    exact (staged new isNew).2.2 old isOld
  · rcases update_cases isTwo with ⟨_, isNone⟩ | ⟨different, isTwo⟩
    · cases isNone
    have apart := sound.apart id other session two different.symm found isTwo
    refine (sound.current other two isTwo).change changes (fun row locked => ?_)
      (fun row isAdded first isFirst => ?_) (fun row isAdded command bound => ?_)
    · exact fun mine => apart.locks row mine locked
    · exact apart.staged row (staged row isAdded).1 first isFirst
    · exact apart.holds command ((staged row isAdded).2.1 command bound)
  · obtain ⟨stored, inside, same, bound⟩ := sound.mailed mail sent
    obtain ⟨next, there, moves⟩ := changes.forward inside
    exact ⟨next, List.mem_append_left _ there, moves.id.trans same, moves.command.trans bound⟩

/-- A mail goes out. -/
theorem Sound.mail {state : State} (sound : Sound platform state) {id : ℕ} {call : Call}
    {row : Invitation} (sending : state.sessions id = some (.creating call (.sending row))) :
    Sound platform { state.set id none with
      mails := state.mails ++ [⟨row.id, call.commandId⟩] } := by
  have dropped := sound.drop id
  obtain ⟨unsent, bound⟩ := sound.current id _ sending
  refine ⟨sound.rows, fun other two isTwo => ?_, dropped.apart, fun mail sent => ?_, ?_⟩
  · rcases update_cases isTwo with ⟨_, isNone⟩ | ⟨different, isTwo⟩
    · cases isNone
    have apart := sound.apart id other _ two different.symm sending isTwo
    have current := sound.current other two isTwo
    rcases two with ⟨_, phase⟩ | ⟨_, phase⟩
    · cases phase with
      | sending later =>
          refine ⟨fun mail sent => ?_, current.2⟩
          rcases List.mem_append.mp sent with old | new
          · exact current.1 mail old
          · rw [List.mem_singleton.mp new]
            exact fun same => apart.sends row.id rfl (congrArg some same.symm)
      | _ => exact current
    · cases phase <;> exact current
  · rcases List.mem_append.mp sent with old | new
    · exact sound.mailed mail old
    · rw [List.mem_singleton.mp new]
      exact bound
  · rw [List.map_append, List.map_singleton]
    refine List.nodup_append.mpr ⟨sound.once, List.nodup_singleton _, fun one old other new => ?_⟩
    rw [List.mem_singleton.mp new]
    obtain ⟨mail, sent, rfl⟩ := List.mem_map.mp old
    exact unsent mail sent

/-! ## Commits move rows as they may -/

theorem Has.of_id {rows : List Invitation} (distinct : rows.Pairwise (Distinct platform))
    {row : Invitation} (inside : row ∈ rows) {holds : Invitation → Prop}
    (there : Has rows row.id holds) : holds row := by
  obtain ⟨stored, member, same, property⟩ := there
  rw [eq_of_label (distinct.imp fun pair => pair.id) inside member same.symm]
  exact property

theorem changes_revoke {rows : List Invitation} (distinct : rows.Pairwise (Distinct platform))
    {ids : List JsString} (live : ∀ id ∈ ids, Has rows id Invitation.Live) (began : ℕ) :
    Changes ids (Invitation.revoke began) rows := by
  intro row inside locked
  obtain ⟨unaccepted, unrevoked⟩ := Has.of_id distinct inside (live row.id locked)
  exact ⟨rfl, .inl rfl, .inl ⟨rfl, rfl⟩, fun _ => nofun, fun accepted => absurd unaccepted accepted⟩

theorem changes_record {rows : List Invitation} (distinct : rows.Pairwise (Distinct platform))
    {id : JsString} {outcome : Outcome}
    (pending : Has rows id fun stored => stored.deliveryStatus = .pending ∧
      (outcome.status = .failed → stored.acceptedAt = none)) (began : ℕ) :
    Changes [id] (Invitation.record began outcome) rows := by
  intro row inside locked
  cases List.mem_singleton.mp locked
  obtain ⟨isPending, unaccepted⟩ := Has.of_id distinct inside pending
  refine ⟨rfl, .inr ⟨isPending, ?_⟩, .inl ⟨rfl, rfl⟩, fun revoked => ?_, fun accepted => ?_⟩
  · cases outcome <;>
    · intro pending
      cases pending
  · dsimp only [Invitation.record]
    split
    · intro sent
      cases sent
    · exact revoked
  · dsimp only [Invitation.record]
    rw [if_neg fun failed => accepted (unaccepted failed)]

theorem changes_accept {rows : List Invitation} (distinct : rows.Pairwise (Distinct platform))
    {id : JsString} {began : ℕ}
    (live : Has rows id fun stored => stored.Live ∧ began < stored.expiresAt) (user : User) :
    Changes [id] (Invitation.accept began user) rows := by
  intro row inside locked
  cases List.mem_singleton.mp locked
  obtain ⟨isLive, unexpired⟩ := Has.of_id distinct inside live
  exact ⟨rfl, .inl rfl, .inr ⟨isLive, isLive.2, began, rfl, unexpired⟩, fun revoked => revoked,
    fun _ => rfl⟩

/-! ## Steps -/

/-- A lookup that finds nothing says so of every row. -/
theorem unbound_of_find? {call : Call} {command : JsString} {rows : List Invitation}
    (bound : call.commandId = some command)
    (absent : rows.find? (fun row => row.sourceCommandId = some command) = none) :
    Unbound call rows := by
  intro other isOther row inside
  rw [bound] at isOther
  cases isOther
  simpa using List.find?_eq_none.mp absent row inside

/-- A session without locks, rows and rights is apart from every other. -/
theorem apart_idle {session other : Session} (locks : session.locks = [])
    (staged : session.staged = none) (holds : ∀ command, ¬ session.Holds command)
    (sends : session.sends = none) : Apart platform session other := by
  refine ⟨?_, ?_, fun command held => absurd held (holds command), ?_⟩
  · rw [locks]
    nofun
  · rw [staged]
    nofun
  · rw [sends]
    nofun

theorem within_set {later earlier : Session} (locks : later.locks = [])
    (staged : later.staged = none) (holds : ∀ command, later.Holds command → earlier.Holds command)
    (sends : later.sends = none) : Within later earlier := by
  refine ⟨?_, ?_, holds, ?_⟩
  · rw [locks]
    nofun
  · rw [staged]
    nofun
  · rw [sends]
    nofun

theorem Sound.step {before after : State} (sound : Sound platform before)
    (step : Step platform True before after) : Sound platform after := by
  cases step with
  | tick forward => exact ⟨sound.rows, sound.current, sound.apart, sound.mailed, sound.once⟩
  | @call id emailValue actorUserId sourceCommandId call idle accepted =>
      refine sound.set ?_ fun other two _ _ => ?_
      · unfold Call.start
        split
        · rename_i unbound
          intro command bound
          rw [unbound] at bound
          cases bound
        · trivial
      · unfold Call.start
        split
        · rename_i unbound
          refine apart_idle rfl rfl (fun command bound => ?_) rfl
          exact absurd (unbound.symm.trans bound) nofun
        · exact apart_idle rfl rfl (fun _ held => held) rfl
  | lock waits bound free =>
      refine sound.set trivial fun other two _ found => ⟨nofun, nofun, fun command held => ?_, nofun⟩
      cases bound.symm.trans held
      exact free other two found
  | replay locked bound prior => exact sound.answer _ _ _
  | proceed locked bound absent =>
      exact sound.advance locked (within_set rfl rfl (fun _ held => held) rfl)
        (unbound_of_find? bound absent)
  | hasAccount checking => exact sound.answer _ _ _
  | select checking =>
      exact sound.advance checking (within_set rfl rfl (fun _ held => held) rfl)
        (show Unbound _ _ from sound.current _ _ checking)
  | @revoke id call began ids selected free =>
      refine sound.set ⟨sound.current _ _ selected, fun row member => ?_⟩
        fun other two different found => ?_
      · obtain ⟨_, live⟩ := List.mem_filter.mp member
        obtain ⟨stored, inside, same⟩ := List.any_eq_true.mp live
        rw [Bool.and_eq_true, decide_eq_true_iff, decide_eq_true_iff] at same
        exact ⟨stored, inside, same.1, same.2⟩
      · refine ⟨fun row locked => ?_, nofun, fun command held => ?_, nofun⟩
        · exact free row (List.mem_filter.mp locked).1 other two different found
        · exact (sound.apart id other _ two different.symm selected found).holds command held
  | @insert id call began ids newId token revoked unique others =>
      obtain ⟨unbound, live⟩ := sound.current _ _ revoked
      refine sound.set ⟨unbound, live, ⟨⟨rfl, rfl⟩, rfl⟩, rfl, unique⟩
        fun other two different found => ?_
      have apart := sound.apart id other _ two different.symm revoked found
      refine ⟨apart.locks, fun first isFirst second isSecond => ?_, apart.holds, nofun⟩
      cases isFirst
      exact (others other two different found second isSecond).symm
  | @commit id call began ids row inserted =>
      obtain ⟨unbound, live, created, bound, distinct⟩ := sound.current _ _ inserted
      have changes := changes_revoke sound.rows live began
      have committed := sound.commit inserted changes [row]
        (fun new isNew => by
          cases List.mem_singleton.mp isNew
          exact ⟨rfl, fun command mine => bound.symm.trans mine, distinct⟩)
        (List.pairwise_singleton _ _)
      refine committed.resume ⟨fun mail sent => ?_, row,
        List.mem_append_right _ (List.mem_singleton_self _), rfl, bound⟩
        fun other two different found => ?_
      · obtain ⟨stored, inside, same, _⟩ := sound.mailed mail sent
        obtain ⟨next, there, moves⟩ := changes.forward inside
        rw [← same, ← moves.id]
        exact (distinct next there).id
      · have apart := sound.apart id other _ two different.symm inserted found
        refine ⟨nofun, nofun, apart.holds, fun sent isSent yours => ?_⟩
        cases isSent
        have current := sound.current other two found
        rcases two with ⟨_, phase⟩ | ⟨_, phase⟩
        · cases phase with
          | sending later =>
              obtain ⟨_, stored, inside, same, _⟩ := current
              obtain ⟨next, there, moves⟩ := changes.forward inside
              refine (distinct next there).id ?_
              rw [moves.id, same]
              exact Option.some.inj yours
          | _ => cases yours
        · cases phase <;> cases yours
  | @send id call row outcome sending known =>
      refine (sound.mail sending).resume trivial fun other two different found => ?_
      have apart := sound.apart id other _ two different.symm sending found
      exact apart.within (within_set rfl rfl (fun _ held => held) rfl)
  | sendUnknown sending =>
      have mailed := sound.mail sending
      exact ⟨mailed.rows, mailed.current, mailed.apart, mailed.mailed, mailed.once⟩
  | sendNothing sending =>
      exact sound.advance sending (within_set rfl rfl (fun _ held => held) rfl) trivial
  | report reporting =>
      exact sound.advance reporting (within_set rfl rfl (fun _ held => held) rfl) trivial
  | @record id call began row stored outcome opened found same pending free guarded =>
      refine sound.set ⟨stored, found, same, pending, guarded trivial⟩
        fun other two different isTwo => ?_
      have apart := sound.apart id other _ two different.symm opened isTwo
      refine ⟨fun locked isLocked => ?_, nofun, apart.holds, nofun⟩
      cases List.mem_singleton.mp isLocked
      exact free other two different isTwo
  | recordFails opened => exact sound.answer _ _ _
  | @commitRecord id call began row outcome recorded =>
      have committed := sound.commit recorded
        (changes_record sound.rows (sound.current _ _ recorded) began) [] nofun .nil
      rw [List.append_nil] at committed
      exact ⟨committed.rows, committed.current, committed.apart, committed.mailed, committed.once⟩
  | present idle found =>
      exact sound.set trivial fun other two _ _ => apart_idle rfl rfl (fun _ => id) rfl
  | openAcceptance found =>
      exact sound.advance found (within_set rfl rfl (fun _ => id) rfl) trivial
  | @accept id user began row stored opened found same live unexpired free =>
      refine sound.set ⟨stored, found, same, live, unexpired⟩ fun other two different isTwo => ?_
      refine ⟨fun locked isLocked => ?_, nofun, fun _ => False.elim, nofun⟩
      cases List.mem_singleton.mp isLocked
      exact free other two different isTwo
  | @commitAcceptance id user began row accepted =>
      have committed := sound.commit accepted
        (changes_accept sound.rows (sound.current _ _ accepted) user) [] nofun .nil
      rw [List.append_nil] at committed
      exact committed
  | crash id => exact sound.drop id

theorem rowsMove_same {before after : State} (same : after.rows = before.rows) :
    RowsMove before after := by
  refine ⟨fun row inside => ⟨row, ?_, .refl row⟩, fun next inside => .inl ⟨next, ?_, .refl next⟩⟩
  · rwa [same]
  · rwa [← same]

theorem rowsMove_changes {before after : State} {ids : List JsString}
    {change : Invitation → Invitation} (changes : Changes ids change before.rows)
    (added : List Invitation) (created : ∀ row ∈ added, Created row)
    (rows : after.rows = updateRows ids change before.rows ++ added) : RowsMove before after := by
  refine ⟨fun row inside => ?_, fun next inside => ?_⟩
  · obtain ⟨next, there, moves⟩ := changes.forward inside
    exact ⟨next, rows ▸ List.mem_append_left _ there, moves⟩
  · rw [rows] at inside
    rcases List.mem_append.mp inside with old | new
    · exact .inl (changes.backward old)
    · exact .inr (created next new)

/-- From a sound state every step moves the rows as they may. -/
theorem Sound.moves {before after : State} (sound : Sound platform before)
    (step : Step platform True before after) : RowsMove before after := by
  cases step with
  | commit inserted =>
      obtain ⟨_, live, created, _⟩ := sound.current _ _ inserted
      refine rowsMove_changes (changes_revoke sound.rows live _) [_] (fun row isRow => ?_) rfl
      cases List.mem_singleton.mp isRow
      exact created
  | commitRecord recorded =>
      exact rowsMove_changes (changes_record sound.rows (sound.current _ _ recorded) _) []
        nofun (List.append_nil _).symm
  | commitAcceptance accepted =>
      exact rowsMove_changes (changes_accept sound.rows (sound.current _ _ accepted) _) []
        nofun (List.append_nil _).symm
  | _ => exact rowsMove_same rfl

theorem Sound.consistent {state : State} (sound : Sound platform state) :
    Consistent platform state := by
  refine ⟨fun command => ?_, fun command => ?_, fun email => ?_⟩
  · refine filter_length_le_one (sound.rows.imp fun {first second} distinct both => ?_)
    rw [decide_eq_true_iff, decide_eq_true_iff] at both
    exact distinct.command command both.1 both.2
  · have apart : state.mails.Pairwise fun first second => first.invitationId ≠ second.invitationId :=
      List.pairwise_map.mp sound.once
    refine filter_length_le_one (apart.imp_of_mem fun {first second} firstIn secondIn other both => ?_)
    rw [decide_eq_true_iff, decide_eq_true_iff] at both
    obtain ⟨one, oneIn, oneSame, oneBound⟩ := sound.mailed first firstIn
    obtain ⟨two, twoIn, twoSame, twoBound⟩ := sound.mailed second secondIn
    refine other ?_
    have same : one = two := by
      by_contra different
      have symmetric : Std.Symm (Distinct platform) := ⟨fun _ _ distinct => distinct.symm⟩
      exact (sound.rows.forall oneIn twoIn different).command command (oneBound.trans both.1)
        (twoBound.trans both.2)
    rw [← oneSame, ← twoSame, same]
  · refine filter_length_le_one (sound.rows.imp fun {first second} distinct both => ?_)
    rw [decide_eq_true_iff, decide_eq_true_iff] at both
    exact distinct.email both.1.2 both.2.2 (both.1.1.trans both.2.1.symm)

/-- Without a failed delivery recorded for an accepted invitation, invitations stay consistent. -/
theorem invitations_consistent (platform : Platform) : StaysConsistent platform True := by
  intro start state initial run
  have sound : Sound platform state := by
    induction run with
    | refl =>
        refine ⟨?_, fun id session found => ?_, fun id other one two _ found => ?_, ?_, ?_⟩
        · rw [initial.rows]
          exact .nil
        · rw [initial.sessions id] at found
          cases found
        · rw [initial.sessions id] at found
          cases found
        · rw [initial.mails]
          nofun
        · rw [initial.mails]
          exact .nil
    | tail _ step inductionHypothesis => exact inductionHypothesis.step step
  exact ⟨sound.consistent, fun next step => sound.moves step⟩

end

/-! ## A mail that arrives and is reported as failed -/

/-- A platform whose texts are in lower case. -/
def plainPlatform : Platform where
  toLowerCase := fun text => text
  lower := fun text => text
  emailDomain := fun _ => some (js "example.com")
  sha256 := fun text => text

def guest : User := ⟨js "guest@example.com", js "guest"⟩

def guestCall : Call := ⟨js "guest@example.com", js "admin", none⟩

def guestToken : JsString := List.replicate 43 65

def guestInvitation : Invitation :=
  newInvitation plainPlatform guestCall (js "invitation") guestToken 0

def untouched : State := ⟨[], fun _ => none, 0, [], []⟩

/-- The provider answers that the mail failed, the guest accepts from it all the same, and then
the failure is written. -/
theorem failure_after_acceptance :
    ∃ state, Relation.ReflTransGen (Step plainPlatform False) untouched state ∧
      state.sessions 0 = some (.creating guestCall (.recorded 0 guestInvitation .failed)) ∧
      state.rows = [guestInvitation.accept 0 guest] := by
  have called : Relation.ReflTransGen (Step plainPlatform False) untouched _ :=
    .single (.call (show untouched.sessions 0 = none from rfl)
      (show acceptCall plainPlatform (js "guest@example.com") (js "admin") none = .ok guestCall
        by rfl))
  have selected := called.tail (.select
    (show State.sessions _ 0 = some (.creating guestCall .checking) from rfl))
  have revoked := selected.tail (.revoke
    (show State.sessions _ 0 = some (.creating guestCall (.selected 0 [])) from rfl) nofun)
  have inserted : Relation.ReflTransGen (Step plainPlatform False) untouched
      (State.set _ 0 (some (.creating guestCall (.inserted 0 [] guestInvitation)))) :=
    revoked.tail (.insert
      (show State.sessions _ 0 = some (.creating guestCall (.revoked 0 [])) from rfl) nofun
      fun other session different found => by
        simp [State.set, untouched, different] at found)
  have committed := inserted.tail (.commit
    (show State.sessions _ 0 = some (.creating guestCall (.inserted 0 [] guestInvitation)) from rfl))
  have sent := committed.tail (.send
    (show State.sessions _ 0 = some (.creating guestCall (.sending guestInvitation)) from rfl)
    (show Outcome.failed ≠ .unknown from nofun))
  have presented := sent.tail (.present (show State.sessions _ 1 = none from rfl)
    (show presented plainPlatform guestToken guest 0 [guestInvitation] = some guestInvitation
      by decide +kernel))
  have opened := presented.tail (.openAcceptance
    (show State.sessions _ 1 = some (.accepting guest (.found guestInvitation.id)) from rfl))
  have accepted := opened.tail (.accept
    (show State.sessions _ 1 = some (.accepting guest (.opened 0 guestInvitation.id)) from rfl)
    (show guestInvitation ∈ [guestInvitation] from List.mem_cons_self) rfl
    (show guestInvitation.Live from ⟨rfl, rfl⟩) (by decide +kernel) fun other session different found => by
        by_cases first : other = 0
        · subst first
          cases found
          exact List.not_mem_nil
        · simp [State.set, untouched, different, first] at found)
  have kept := accepted.tail (.commitAcceptance
    (show State.sessions _ 1 = some (.accepting guest (.accepted 0 guestInvitation.id)) from rfl))
  have reported := kept.tail (.report
    (show State.sessions _ 0 = some (.creating guestCall (.reporting guestInvitation .failed))
      from rfl))
  have recorded := reported.tail (.record
    (show State.sessions _ 0 = some (.creating guestCall (.opened 0 guestInvitation .failed))
      from rfl)
    (show guestInvitation.accept 0 guest ∈ [guestInvitation.accept 0 guest] from
      List.mem_cons_self) rfl rfl (fun other session different found => by
        by_cases second : other = 1
        · subst second
          cases found
        · simp [State.set, untouched, different, second] at found) False.elim)
  exact ⟨_, recorded, rfl, rfl⟩

/-- An accepted invitation is revoked. -/
theorem accepted_then_revoked : ¬ ∀ platform, StaysConsistent platform False := by
  intro always
  obtain ⟨state, run, found, rows⟩ := failure_after_acceptance
  obtain ⟨_, moves⟩ := always plainPlatform untouched state ⟨rfl, fun _ => rfl, rfl⟩ run
  obtain ⟨next, inside, moved⟩ := (moves _ (.commitRecord found)).kept
    (guestInvitation.accept 0 guest) (rows ▸ List.mem_cons_self)
  rw [rows] at inside
  have revoked := moved.accepted nofun
  cases List.mem_singleton.mp inside
  cases revoked

end Vasi.Invitations
