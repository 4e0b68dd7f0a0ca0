import Vasi.ReadCommitted

/-!
# Commits as atomic steps

A contract says what the commits of a system do to the rows they find, which
property of the rows they keep and how rows may move while a session is not
looking. A script meets the contract when every commit it can reach has its
declared effect, given that the rows it locked are still as it read them. If
every program of the system meets the contract, then each run of interleaved
sessions is, on the committed rows, a run of the atomic steps the contract
describes: rows are locked when a transaction reads what it rests on, so they
are still the committed rows when it commits.

The rule for a statement gives what the session may assume there: the rows may
have moved since its last statement, but not those it holds a lock on, and only
in ways open to sessions that cannot lock the rows it holds for update.
-/
namespace Vasi.ReadCommitted

section

variable {Key : Type} [DecidableEq Key] {Row : Key → Type} {Input Point Result Operation : Type}

/-- Rows that are committed as they were read. -/
def Current (known : List (Sigma Row)) (store : Store Row) : Prop :=
  ∀ row ∈ known, store.lookup row.1 = some row.2

/-- The rows a statement finds and locks. -/
def rowsAt (store : Store Row) (locks : List (Key × LockMode)) : List (Sigma Row) :=
  locks.filterMap fun lock => (store.lookup lock.1).map (Sigma.mk lock.1)

theorem mem_rowsAt {store : Store Row} {locks : List (Key × LockMode)} {row : Sigma Row} :
    row ∈ rowsAt store locks ↔
      row.1 ∈ locks.map Prod.fst ∧ store.lookup row.1 = some row.2 := by
  simp only [rowsAt, List.mem_filterMap, Option.map_eq_some_iff, List.mem_map]
  constructor
  · rintro ⟨lock, member, value, found, rfl⟩
    exact ⟨⟨lock, member, rfl⟩, found⟩
  · obtain ⟨key, value⟩ := row
    rintro ⟨⟨lock, member, rfl⟩, found⟩
    exact ⟨lock, member, value, found, rfl⟩

/-- What a commit checks of its changes: an inserted row was absent, an updated
or deleted row was there. -/
structure Admissible (store : Store Row) (changes : Changes Row) : Prop where
  inserted : ∀ key row, changes.lookup key = some (.insert row) → store.lookup key = none
  updated : ∀ key row, changes.lookup key = some (.update row) → (store.lookup key).isSome
  deleted : ∀ key, changes.lookup key = some .delete → (store.lookup key).isSome

variable (Row Input Point Result) in
/-- What the programs of a system promise: the effect of each commit on the rows
it finds, given the rows its transaction has locked, the property of the rows
that commits keep, how rows move through the commits of sessions that hold no
lock on some keys, and what a statement asks to lock and how the session goes on
after it. Rows move less the more keys are held. -/
structure Contract where
  guard : Guard Row Input Point
  invariant : Store Row → Prop
  moves : (Key → Prop) → Store Row → Store Row → Prop
  effect : Point → List (Sigma Row) → Store Row → Store Row → Prop
  promise : Point → Input → Store Row → List (Key × LockMode) →
    Script Row Input Point Result → Prop
  moves_refl : ∀ held store, moves held store store
  moves_trans : ∀ held first second third, moves held first second → moves held second third →
    moves held first third
  moves_anti : ∀ fewer more first second, (∀ key, fewer key → more key) →
    moves more first second → moves fewer first second

/-- The keys of the rows that a statement finds and locks for update. -/
def keysAt (store : Store Row) (locks : List (Key × LockMode)) : List Key :=
  ((present store locks).filter fun lock => lock.2 = .update).map Prod.fst

theorem mem_keysAt {store : Store Row} {locks : List (Key × LockMode)} {key : Key} :
    key ∈ keysAt store locks ↔ (key, LockMode.update) ∈ locks ∧ (store.lookup key).isSome := by
  simp only [keysAt, present, List.mem_map, List.mem_filter, decide_eq_true_eq]
  constructor
  · rintro ⟨⟨found, mode⟩, ⟨⟨member, there⟩, rfl⟩, rfl⟩
    exact ⟨member, there⟩
  · rintro ⟨member, there⟩
    exact ⟨(key, .update), ⟨⟨member, there⟩, rfl⟩, rfl⟩

variable (Row) in
/-- What a session knows: the rows it has locked, the keys it holds for update,
and the rows as its last statement found them. -/
structure Knowledge where
  known : List (Sigma Row)
  mine : List Key
  past : Store Row

/-- A session that has read nothing yet. -/
def Knowledge.start (store : Store Row) : Knowledge Row := ⟨[], [], store⟩

/-- What a session knows after a statement. -/
def Knowledge.after (knowledge : Knowledge Row) (store : Store Row)
    (locks : List (Key × LockMode)) : Knowledge Row :=
  ⟨rowsAt store locks ++ knowledge.known, keysAt store locks ++ knowledge.mine, store⟩

/-- The committed rows agree with what a session knows. -/
structure Knowledge.Allows (knowledge : Knowledge Row)
    (contract : Contract Row Input Point Result) (store : Store Row) : Prop where
  moved : contract.moves (· ∈ knowledge.mine) knowledge.past store
  kept : contract.invariant store
  current : Current knowledge.known store

/-- A session has come to know more. -/
structure Knowledge.Later (first second : Knowledge Row)
    (contract : Contract Row Input Point Result) : Prop where
  known : first.known ⊆ second.known
  mine : first.mine ⊆ second.mine
  moved : contract.moves (· ∈ first.mine) first.past second.past

/-- The rest of a script keeps the contract, given what its session knows. -/
def Script.Meets (contract : Contract Row Input Point Result) :
    Script Row Input Point Result → Knowledge Row → Prop
  | .abandon, _ => True
  | .stop _, _ => True
  | .statement point locks next, knowledge => ∀ input store wanted,
      knowledge.Allows contract store → contract.guard.statement point input store →
      locks input store = some wanted →
      contract.promise point input store wanted (next input store) ∧
        (next input store).Meets contract (knowledge.after store wanted)
  | .commit point changes next, knowledge => ∀ store,
      knowledge.Allows contract store → contract.guard.commit point store →
      Admissible store changes →
      contract.effect point knowledge.known store (applyChanges store changes) ∧
        next.Meets contract (.start (applyChanges store changes))

/-! ## Rules for the parts of a transaction -/

section

variable {contract : Contract Row Input Point Result} {α : Type}
  {continuation : α → Changes Row → Script Row Input Point Result} {changes : Changes Row}
  {knowledge next : Knowledge Row}

omit [DecidableEq Key] in
theorem Knowledge.Later.refl : knowledge.Later knowledge contract :=
  ⟨fun _ member => member, fun _ member => member, contract.moves_refl _ _⟩

omit [DecidableEq Key] in
theorem Knowledge.Later.trans {last : Knowledge Row} (first : knowledge.Later next contract)
    (second : next.Later last contract) : knowledge.Later last contract where
  known := fun _ member => second.known (first.known member)
  mine := fun _ member => second.mine (first.mine member)
  moved := contract.moves_trans _ _ _ _ first.moved
    (contract.moves_anti _ _ _ _ (fun _ member => first.mine member) second.moved)

/-- Rows that agree with later knowledge agree with the earlier one. -/
theorem Knowledge.Later.allows {store : Store Row} (first : knowledge.Later next contract)
    (allowed : next.Allows contract store) : knowledge.Allows contract store where
  moved := contract.moves_trans _ _ _ _ first.moved
    (contract.moves_anti _ _ _ _ (fun _ member => first.mine member) allowed.moved)
  kept := allowed.kept
  current := fun row member => allowed.current row (first.known member)

/-- A statement adds to what is known. -/
theorem Knowledge.Allows.later {store : Store Row} (allowed : knowledge.Allows contract store)
    (locks : List (Key × LockMode)) : knowledge.Later (knowledge.after store locks) contract where
  known := fun _ member => List.mem_append_right _ member
  mine := fun _ member => List.mem_append_right _ member
  moved := allowed.moved

/-- A row that is locked where it is found is known. -/
theorem Knowledge.mem_after {store : Store Row} {locks : List (Key × LockMode)} {key : Key}
    {mode : LockMode} {row : Row key} (locked : (key, mode) ∈ locks)
    (found : store.lookup key = some row) :
    ⟨key, row⟩ ∈ (knowledge.after store locks).known :=
  List.mem_append_left _ (mem_rowsAt.mpr ⟨List.mem_map.mpr ⟨_, locked, rfl⟩, found⟩)

/-- A row that a statement sees and locks is seen alike by the rest of the transaction. -/
theorem Knowledge.Allows.sees {store later : Store Row} {locks : List (Key × LockMode)} {key : Key}
    {mode : LockMode} {row : Row key} (locked : (key, mode) ∈ locks)
    (seen : (applyChanges store changes).lookup key = some row)
    (allowed : (knowledge.after store locks).Allows contract later) :
    (applyChanges later changes).lookup key = some row := by
  rw [lookup_applyChanges] at seen ⊢
  cases changed : changes.lookup key with
  | some change => rwa [changed] at seen
  | none =>
      rw [changed] at seen
      exact allowed.current _ (Knowledge.mem_after locked seen)

/-- After a statement the rows it locked are known. -/
theorem meets_query {point : Point} {body : Input → Store Row → Option (List (Key × LockMode) × α)}
    (rest : ∀ input store locks value, knowledge.Allows contract store →
      contract.guard.statement point input store →
      body input (applyChanges store changes) = some (locks, value) →
      contract.promise point input store locks (continuation value changes) ∧
        (continuation value changes).Meets contract (knowledge.after store locks)) :
    (query point body continuation changes).Meets contract knowledge := by
  intro input store wanted allowed guarded asked
  obtain ⟨⟨locks, value⟩, answered, rfl⟩ := Option.map_eq_some_iff.mp asked
  have continued := rest input store locks value allowed guarded answered
  simpa [answered] using continued

/-- What a commit of the changes would make of the rows, now or after later statements. -/
def Contract.Pending (contract : Contract Row Input Point Result) (knowledge : Knowledge Row)
    (changes : Changes Row) (effect : Store Row → Store Row → Prop) : Prop :=
  ∀ store, knowledge.Allows contract store → Admissible store changes →
    effect store (applyChanges store changes)

/-- Later statements do not change what a commit would do. -/
theorem Contract.Pending.later {effect : Store Row → Store Row → Prop}
    (pending : contract.Pending knowledge changes effect)
    (moreKnown : knowledge.Later next contract) : contract.Pending next changes effect :=
  fun store allowed admissible => pending store (moreKnown.allows allowed) admissible

/-- Without changes a commit changes nothing. -/
theorem Contract.Pending.empty {effect : Store Row → Store Row → Prop}
    (reflexive : ∀ store, effect store store) : contract.Pending knowledge ∅ effect :=
  fun store _ _ => reflexive store

/-- A fact that holds of all rows that agree with what a session knows. -/
def Contract.Assures (contract : Contract Row Input Point Result) (knowledge : Knowledge Row)
    (fact : Store Row → Prop) : Prop :=
  ∀ store, knowledge.Allows contract store → fact store

/-- Later statements leave what is assured. -/
theorem Contract.Assures.later {fact : Store Row → Prop}
    (assured : contract.Assures knowledge fact) (moreKnown : knowledge.Later next contract) :
    contract.Assures next fact :=
  fun store allowed => assured store (moreKnown.allows allowed)

/-- The statements of the contract promise nothing. -/
structure Unpromising (contract : Contract Row Input Point Result) : Prop where
  promise : ∀ point input store wanted next, contract.promise point input store wanted next

/-- A statement that reads adds no row to what is known. -/
theorem meets_readRows (unpromising : Unpromising contract) {point : Point}
    {body : Input → Store Row → α}
    (rest : ∀ input store, knowledge.Allows contract store →
      (continuation (body input (applyChanges store changes)) changes).Meets contract
        (knowledge.after store [])) :
    (readRows point body continuation changes).Meets contract knowledge := by
  apply meets_query
  intro input store locks value allowed _ answered
  obtain ⟨rfl, rfl⟩ := Prod.mk.inj (Option.some.inj answered)
  exact ⟨unpromising.promise _ _ _ _ _, rest input store allowed⟩

theorem meets_fromOutside (unpromising : Unpromising contract) {point : Point}
    {body : Input → α}
    (rest : ∀ value later, knowledge.Later later contract →
      (continuation value changes).Meets contract later) :
    (fromOutside point body continuation changes).Meets contract knowledge := by
  apply meets_readRows unpromising
  intro input store allowed
  exact rest _ _ (allowed.later [])

/-- A commit does what is pending. -/
theorem meets_commitChanges {point : Point}
    {continuation : Unit → Changes Row → Script Row Input Point Result}
    (pending : contract.Pending knowledge changes (contract.effect point knowledge.known))
    (rest : ∀ store, knowledge.Allows contract store → contract.guard.commit point store →
      Admissible store changes →
      (continuation () ∅).Meets contract (.start (applyChanges store changes))) :
    (commitChanges point continuation changes).Meets contract knowledge :=
  fun store allowed guarded admissible =>
    ⟨pending store allowed admissible, rest store allowed guarded admissible⟩

omit [DecidableEq Key] in
/-- Changes without the last new image are admissible where all of them are. -/
theorem Admissible.of_updateRow [DecidableEq Key] {store : Store Row} {key : Key} {row : Row key}
    (kept : changes.lookup key ≠ some .delete)
    (admissible : Admissible store (changes.updateRow key row)) : Admissible store changes := by
  have other : ∀ found, found ≠ key →
      AList.lookup found (changes.updateRow key row) = changes.lookup found :=
    fun found apart => Changes.lookup_updateRow_other changes key found row apart
  refine ⟨fun found image changed => ?_, fun found image changed => ?_, fun found changed => ?_⟩
  · by_cases same : found = key
    · subst same
      refine admissible.inserted found row ?_
      rw [Changes.updateRow, changed]
      exact AList.lookup_insert _
    · exact admissible.inserted found image ((other found same).trans changed)
  · by_cases same : found = key
    · subst same
      refine admissible.updated found row ?_
      rw [Changes.updateRow, changed]
      exact AList.lookup_insert _
    · exact admissible.updated found image ((other found same).trans changed)
  · by_cases same : found = key
    · subst same
      exact absurd changed kept
    · exact admissible.deleted found ((other found same).trans changed)

omit [DecidableEq Key] in
/-- Changes without an insertion at a key they had not touched are admissible
where all of them are. -/
theorem Admissible.of_insertRow [DecidableEq Key] {store : Store Row} {key : Key} {row : Row key}
    (fresh : changes.lookup key = none)
    (admissible : Admissible store (changes.insertRow key row)) : Admissible store changes := by
  have other : ∀ found change, changes.lookup found = some change →
      AList.lookup found (changes.insertRow key row) = some change := by
    intro found change changed
    refine (AList.lookup_insert_ne ?_).trans changed
    rintro rfl
    rw [fresh] at changed
    cases changed
  exact ⟨fun found image changed => admissible.inserted found image (other found _ changed),
    fun found image changed => admissible.updated found image (other found _ changed),
    fun found changed => admissible.deleted found (other found _ changed)⟩

end

/-! ## Locked rows are current -/

/-- No two sessions hold one row in incompatible modes. -/
def Exclusive (state : State Row Input Point Result) : Prop :=
  ∀ first second firstSession secondSession,
    state.sessions.lookup first = some firstSession →
    state.sessions.lookup second = some secondSession → first ≠ second →
    ∀ taken ∈ firstSession.held, ∀ other ∈ secondSession.held,
      taken.1 = other.1 → taken.2.compatible other.2 = true

omit [DecidableEq Key] in
/-- A session found after one was opened or went on is that one or was there before. -/
theorem lookup_insert_cases {sessions : AList fun _ : SessionId => Session Row Input Point Result}
    {id other : SessionId} {session found : Session Row Input Point Result}
    (present : (sessions.insert id session).lookup other = some found) :
    (other = id ∧ found = session) ∨ (other ≠ id ∧ sessions.lookup other = some found) := by
  by_cases same : other = id
  · subst same
    exact .inl ⟨rfl, (Option.some.inj ((AList.lookup_insert sessions).symm.trans present)).symm⟩
  · exact .inr ⟨same, (AList.lookup_insert_ne same).symm.trans present⟩

omit [DecidableEq Key] in
/-- A session found after one ended is another one that was there before. -/
theorem lookup_erase_cases {sessions : AList fun _ : SessionId => Session Row Input Point Result}
    {id other : SessionId} {found : Session Row Input Point Result}
    (present : (sessions.erase id).lookup other = some found) :
    other ≠ id ∧ sessions.lookup other = some found := by
  by_cases same : other = id
  · subst same
    rw [AList.lookup_erase] at present
    cases present
  · exact ⟨same, (AList.lookup_erase_ne same).symm.trans present⟩

/-- Granted locks are compatible with those of every other session. -/
theorem grantable_compatible {state : State Row Input Point Result} {id other : SessionId}
    {locks : List (Key × LockMode)} {otherSession : Session Row Input Point Result}
    (granted : grantable state id locks = true)
    (found : state.sessions.lookup other = some otherSession) (apart : other ≠ id)
    (taken : Key × LockMode) (held : taken ∈ otherSession.held)
    (wanted : Key × LockMode) (member : wanted ∈ locks) (same : taken.1 = wanted.1) :
    taken.2.compatible wanted.2 = true := by
  have entry := AList.mem_lookup_iff.mp (Option.mem_def.mpr found)
  have checked := List.all_eq_true.mp granted _ entry
  simp only [apart, decide_false, Bool.false_or, List.all_eq_true] at checked
  simpa [same] using checked taken held wanted member

variable {start : Operation → Script Row Input Point Result}

/-- Locks stay exclusive in every step. -/
theorem exclusive_step {guard : Guard Row Input Point}
    {before after : State Row Input Point Result} (stepped : Step start guard before after)
    (exclusive : Exclusive before) : Exclusive after := by
  intro first second firstSession secondSession firstFound secondFound apart taken held
    other otherHeld same
  cases step_cases start stepped with
  | opened id operation free result =>
      subst result
      rcases lookup_insert_cases firstFound with ⟨rfl, rfl⟩ | ⟨_, firstBefore⟩
      · cases held
      rcases lookup_insert_cases secondFound with ⟨rfl, rfl⟩ | ⟨_, secondBefore⟩
      · cases otherHeld
      exact exclusive first second _ _ firstBefore secondBefore apart taken held other otherHeld
        same
  | ran id point locks next held' input wanted found asked guarded granted result =>
      subst result
      have asked' : ∀ lock ∈ present before.store wanted, lock ∈ wanted := fun lock member =>
        List.mem_of_mem_filter member
      rcases lookup_insert_cases firstFound with ⟨rfl, rfl⟩ | ⟨firstApart, firstBefore⟩
      · obtain ⟨_, secondBefore⟩ :=
          (lookup_insert_cases secondFound).resolve_left fun both => apart both.1.symm
        rcases List.mem_append.mp held with new | old
        · rw [LockMode.compatible_symm]
          exact grantable_compatible granted secondBefore apart.symm other otherHeld taken
            (asked' taken new) same.symm
        · exact exclusive first second _ _ found secondBefore apart taken old other otherHeld same
      · rcases lookup_insert_cases secondFound with ⟨rfl, rfl⟩ | ⟨_, secondBefore⟩
        · rcases List.mem_append.mp otherHeld with new | old
          · exact grantable_compatible granted firstBefore firstApart taken held other
              (asked' other new) same
          · exact exclusive first second _ _ firstBefore found apart taken held other old same
        · exact exclusive first second _ _ firstBefore secondBefore apart taken held other
            otherHeld same
  | committed id point changes next held' found guarded allowed result =>
      subst result
      rcases lookup_insert_cases firstFound with ⟨_, rfl⟩ | ⟨_, firstBefore⟩
      · cases held
      rcases lookup_insert_cases secondFound with ⟨_, rfl⟩ | ⟨_, secondBefore⟩
      · cases otherHeld
      exact exclusive first second _ _ firstBefore secondBefore apart taken held other otherHeld
        same
  | rolledBack id result =>
      subst result
      exact exclusive first second _ _ (lookup_erase_cases firstFound).2
        (lookup_erase_cases secondFound).2 apart taken held other otherHeld same

/-- Permitted changes leave every row alone that another session has locked. -/
theorem applyChanges_locked {state : State Row Input Point Result} {id other : SessionId}
    {committing locking : Session Row Input Point Result} {changes : Changes Row} {key : Key}
    {row : Row key} (exclusive : Exclusive state)
    (found : state.sessions.lookup id = some committing)
    (otherFound : state.sessions.lookup other = some locking) (apart : id ≠ other)
    (allowed : changes.entries.all (permitted state.store committing.held) = true)
    (held : key ∈ locking.held.map Prod.fst) (there : state.store.lookup key = some row) :
    (applyChanges state.store changes).lookup key = some row := by
  rw [lookup_applyChanges]
  cases changed : changes.lookup key with
  | none => exact there
  | some change =>
      have entry := AList.mem_lookup_iff.mp (Option.mem_def.mpr changed)
      have checked := List.all_eq_true.mp allowed _ entry
      obtain ⟨lock, lockHeld, lockKey⟩ := List.mem_map.mp held
      cases change with
      | insert image => simp [permitted, there] at checked
      | update image | delete =>
          have mine : (key, LockMode.update) ∈ committing.held := by simpa [permitted] using checked
          have clash := exclusive id other committing locking found otherFound apart _ mine lock
            lockHeld lockKey.symm
          simp [LockMode.compatible] at clash

/-! ## Interleaved sessions refine atomic commits -/

/-- One commit, seen as a step of the committed rows. -/
structure Contract.Commits (contract : Contract Row Input Point Result) (point : Point)
    (known : List (Sigma Row)) (before after : Store Row) : Prop where
  kept : contract.invariant before
  current : Current known before
  guarded : contract.guard.commit point before
  effect : contract.effect point known before after

/-- The contract speaks of every program, and its effects keep the invariant and are moves. -/
structure Contract.Valid (contract : Contract Row Input Point Result)
    (start : Operation → Script Row Input Point Result) : Prop where
  keeps : ∀ point known before after, contract.Commits point known before after →
    contract.invariant after ∧
      ∀ held, (∀ row ∈ known, ¬ held row.1) → contract.moves held before after
  meets : ∀ operation store, contract.invariant store →
    (start operation).Meets contract (.start store)

/-- A step of the atomic system. -/
def Contract.Atomic (contract : Contract Row Input Point Result) (before after : Store Row) :
    Prop :=
  ∃ point known, contract.Commits point known before after

/-- A session stands by what it has locked and keeps the contract. -/
structure Session.Follows (session : Session Row Input Point Result)
    (contract : Contract Row Input Point Result) (store : Store Row)
    (knowledge : Knowledge Row) : Prop where
  current : Current knowledge.known store
  knownHeld : ∀ row ∈ knowledge.known, row.1 ∈ session.held.map Prod.fst
  mineHeld : ∀ key ∈ knowledge.mine, (key, LockMode.update) ∈ session.held
  moved : contract.moves (· ∈ knowledge.mine) knowledge.past store
  meets : session.script.Meets contract knowledge

/-- What holds in every state of a run. -/
structure Holds (contract : Contract Row Input Point Result)
    (state : State Row Input Point Result) : Prop where
  kept : contract.invariant state.store
  exclusive : Exclusive state
  locked : ∀ id session, state.sessions.lookup id = some session →
    ∀ lock ∈ session.held, (state.store.lookup lock.1).isSome
  follows : ∀ id session, state.sessions.lookup id = some session →
    ∃ knowledge, session.Follows contract state.store knowledge

variable {contract : Contract Row Input Point Result}

/-- Rows with no session open satisfy everything as soon as the rows satisfy the invariant. -/
theorem Holds.idle {store : Store Row} (initial : contract.invariant store) :
    Holds contract (State.idle Row Input Point Result store) where
  kept := initial
  exclusive := by intro first _ _ _ found; simp [State.idle] at found
  locked := by intro id session found; simp [State.idle] at found
  follows := by intro id session found; simp [State.idle] at found

/-- A session that has read nothing follows a script that keeps the contract. -/
theorem Session.follows_start {store : Store Row} {script : Script Row Input Point Result}
    (meets : script.Meets contract (.start store)) :
    Session.Follows ⟨script, []⟩ contract store (.start store) where
  current := by intro row member; cases member
  knownHeld := by intro row member; cases member
  mineHeld := by intro key member; cases member
  moved := contract.moves_refl _ _
  meets := meets

/-- Rows that agree with what a following session knows. -/
theorem Session.Follows.allows {session : Session Row Input Point Result} {store : Store Row}
    {knowledge : Knowledge Row} (follows : session.Follows contract store knowledge)
    (kept : contract.invariant store) : knowledge.Allows contract store :=
  ⟨follows.moved, kept, follows.current⟩

/-- A session that commits has the effect the contract declares, and it holds
a lock on each row it knows. -/
theorem Holds.commits {state : State Row Input Point Result} (holds : Holds contract state)
    {id : SessionId} {point : Point} {changes : Changes Row}
    {next : Script Row Input Point Result} {held : List (Key × LockMode)}
    (found : state.sessions.lookup id = some ⟨.commit point changes next, held⟩)
    (guarded : contract.guard.commit point state.store)
    (allowed : changes.entries.all (permitted state.store held) = true) :
    ∃ known, contract.Commits point known state.store (applyChanges state.store changes) ∧
      (∀ row ∈ known, row.1 ∈ held.map Prod.fst) ∧
      next.Meets contract (.start (applyChanges state.store changes)) := by
  have locked := holds.locked id _ found
  obtain ⟨knowledge, follows⟩ := holds.follows id _ found
  have checked : ∀ key change, changes.lookup key = some change →
      permitted state.store held ⟨key, change⟩ = true := fun key change changed =>
    List.all_eq_true.mp allowed _ (AList.mem_lookup_iff.mp (Option.mem_def.mpr changed))
  have admissible : Admissible state.store changes := by
    refine ⟨fun key row changed => ?_, fun key row changed => ?_, fun key changed => ?_⟩
    · simpa [permitted] using checked key _ changed
    · exact locked (key, .update) (by simpa [permitted] using checked key _ changed)
    · exact locked (key, .update) (by simpa [permitted] using checked key _ changed)
  obtain ⟨effect, continued⟩ :=
    follows.meets state.store (follows.allows holds.kept) guarded admissible
  exact ⟨knowledge.known, ⟨holds.kept, follows.current, guarded, effect⟩, follows.knownHeld,
    continued⟩

/-- A statement keeps its promise, and the session follows the contract on. -/
theorem Holds.ran {state : State Row Input Point Result} (holds : Holds contract state)
    {id : SessionId} {point : Point}
    {locks : Input → Store Row → Option (List (Key × LockMode))}
    {next : Input → Store Row → Script Row Input Point Result} {held : List (Key × LockMode)}
    {input : Input} {wanted : List (Key × LockMode)}
    (found : state.sessions.lookup id = some ⟨.statement point locks next, held⟩)
    (asked : locks input state.store = some wanted)
    (guarded : contract.guard.statement point input state.store) :
    contract.promise point input state.store wanted (next input state.store) ∧
      ∃ knowledge, Session.Follows ⟨next input state.store, present state.store wanted ++ held⟩
        contract state.store knowledge := by
  obtain ⟨knowledge, follows⟩ := holds.follows id _ found
  obtain ⟨promised, meets⟩ :=
    follows.meets input state.store wanted (follows.allows holds.kept) guarded asked
  refine ⟨promised, knowledge.after state.store wanted, ?_, ?_, ?_, contract.moves_refl _ _,
    meets⟩
  · intro row member
    rcases List.mem_append.mp member with new | old
    · exact (mem_rowsAt.mp new).2
    · exact follows.current row old
  · intro row member
    rw [List.map_append, List.mem_append]
    rcases List.mem_append.mp member with new | old
    · obtain ⟨asked, there⟩ := mem_rowsAt.mp new
      obtain ⟨lock, lockMember, same⟩ := List.mem_map.mp asked
      refine .inl (List.mem_map.mpr ⟨lock, List.mem_filter.mpr ⟨lockMember, ?_⟩, same⟩)
      have found : (state.store.lookup row.1).isSome := Option.isSome_of_eq_some there
      exact same ▸ found
    · exact .inr (follows.knownHeld row old)
  · intro key member
    rcases List.mem_append.mp member with new | old
    · obtain ⟨lockMember, there⟩ := mem_keysAt.mp new
      exact List.mem_append_left _ (List.mem_filter.mpr ⟨lockMember, there⟩)
    · exact List.mem_append_right _ (follows.mineHeld key old)

/-- What another session knows survives a commit. -/
theorem Holds.committed (valid : contract.Valid start) {state : State Row Input Point Result}
    (holds : Holds contract state) {id other : SessionId} {point : Point} {changes : Changes Row}
    {next : Script Row Input Point Result} {held : List (Key × LockMode)}
    {session : Session Row Input Point Result}
    (found : state.sessions.lookup id = some ⟨.commit point changes next, held⟩)
    (guarded : contract.guard.commit point state.store)
    (allowed : changes.entries.all (permitted state.store held) = true)
    (otherFound : state.sessions.lookup other = some session) (apart : other ≠ id) :
    (∀ lock ∈ session.held, ((applyChanges state.store changes).lookup lock.1).isSome) ∧
      ∃ knowledge, session.Follows contract (applyChanges state.store changes) knowledge := by
  obtain ⟨rests, commits, restsLocked, _⟩ := holds.commits found guarded allowed
  have locked := holds.locked other session otherFound
  obtain ⟨knowledge, follows⟩ := holds.follows other session otherFound
  refine ⟨?_, knowledge, ?_, follows.knownHeld, follows.mineHeld, ?_, follows.meets⟩
  · intro lock member
    obtain ⟨row, there⟩ := Option.isSome_iff_exists.mp (locked lock member)
    have untouched := applyChanges_locked holds.exclusive found otherFound apart.symm allowed
      (List.mem_map.mpr ⟨lock, member, rfl⟩) there
    exact Option.isSome_of_eq_some untouched
  · intro row member
    exact applyChanges_locked holds.exclusive found otherFound apart.symm allowed
      (follows.knownHeld row member) (follows.current row member)
  · refine contract.moves_trans _ _ _ _ follows.moved
      ((valid.keeps point rests _ _ commits).2 _ fun row member protectedKey => ?_)
    obtain ⟨lock, lockHeld, same⟩ := List.mem_map.mp (restsLocked row member)
    have clash := holds.exclusive other id _ _ otherFound found apart _
      (follows.mineHeld row.1 protectedKey) lock lockHeld same.symm
    simp [LockMode.compatible] at clash

/-- One step keeps everything that holds, and is an atomic step on the rows or
leaves them as they are. -/
theorem Holds.step (valid : contract.Valid start) {before after : State Row Input Point Result}
    (holds : Holds contract before) (stepped : Step start contract.guard before after) :
    Holds contract after ∧
      (after.store = before.store ∨ contract.Atomic before.store after.store) := by
  have exclusive := exclusive_step stepped holds.exclusive
  cases step_cases start stepped with
  | opened id operation free result =>
      subst result
      have fresh := Session.follows_start (valid.meets operation before.store holds.kept)
      refine ⟨⟨holds.kept, exclusive, fun other session there => ?_, fun other session there => ?_⟩,
        .inl rfl⟩
      · rcases lookup_insert_cases there with ⟨_, rfl⟩ | ⟨_, old⟩
        · simp
        · exact holds.locked other session old
      · rcases lookup_insert_cases there with ⟨_, rfl⟩ | ⟨_, old⟩
        · exact ⟨_, fresh⟩
        · exact holds.follows other session old
  | ran id point locks next held input wanted found asked guarded granted result =>
      subst result
      refine ⟨⟨holds.kept, exclusive, fun other session there => ?_, fun other session there => ?_⟩,
        .inl rfl⟩
      · rcases lookup_insert_cases there with ⟨_, rfl⟩ | ⟨_, old⟩
        · intro lock member
          rcases List.mem_append.mp member with new | old
          · exact (List.mem_filter.mp new).2
          · exact holds.locked id _ found lock old
        · exact holds.locked other session old
      · rcases lookup_insert_cases there with ⟨_, rfl⟩ | ⟨_, old⟩
        · exact (holds.ran found asked guarded).2
        · exact holds.follows other session old
  | committed id point changes next held found guarded allowed result =>
      subst result
      obtain ⟨rests, commits, _, continued⟩ := holds.commits found guarded allowed
      have kept := (valid.keeps point rests _ _ commits).1
      refine ⟨⟨kept, exclusive, fun other session there => ?_, fun other session there => ?_⟩,
        .inr ⟨point, rests, commits⟩⟩
      · rcases lookup_insert_cases there with ⟨_, rfl⟩ | ⟨apart, old⟩
        · simp
        · exact (holds.committed valid found guarded allowed old apart).1
      · rcases lookup_insert_cases there with ⟨_, rfl⟩ | ⟨apart, old⟩
        · exact ⟨_, Session.follows_start continued⟩
        · exact (holds.committed valid found guarded allowed old apart).2
  | rolledBack id result =>
      subst result
      exact ⟨⟨holds.kept, exclusive,
        fun other session there => holds.locked other session (lookup_erase_cases there).2,
        fun other session there => holds.follows other session (lookup_erase_cases there).2⟩,
        .inl rfl⟩

/-- Every run of interleaved sessions is a run of atomic commits. -/
theorem Holds.runs (valid : contract.Valid start) {before after : State Row Input Point Result}
    (holds : Holds contract before) (run : Runs start contract.guard before after) :
    Holds contract after ∧ Relation.ReflTransGen contract.Atomic before.store after.store := by
  induction run with
  | refl => exact ⟨holds, .refl⟩
  | tail _ stepped inductionHypothesis =>
      obtain ⟨middle, earlier⟩ := inductionHypothesis
      obtain ⟨later, same | atomic⟩ := middle.step valid stepped
      · exact ⟨later, same ▸ earlier⟩
      · exact ⟨later, earlier.tail atomic⟩

/-- A property that every atomic commit keeps holds throughout a run. -/
theorem Holds.keeps (valid : contract.Valid start) (property : Store Row → Prop)
    (commit : ∀ point known store next, property store →
      contract.Commits point known store next → property next)
    {before after : State Row Input Point Result} (holds : Holds contract before)
    (initial : property before.store) (run : Runs start contract.guard before after) :
    property after.store := by
  obtain ⟨_, atomic⟩ := holds.runs valid run
  generalize after.store = last at atomic ⊢
  induction atomic with
  | refl => exact initial
  | tail _ committed inductionHypothesis =>
      obtain ⟨point, known, commits⟩ := committed
      exact commit point known _ _ inductionHypothesis commits

end

end Vasi.ReadCommitted
