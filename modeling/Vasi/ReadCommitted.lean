import Mathlib.Data.List.AList
import Mathlib.Logic.Relation

/-!
# Transactions at read committed isolation

A store of keyed rows shared by sessions that run scripts of SQL statements. A
statement reads the rows that are committed when it runs, together with the
uncommitted changes of its own transaction, and may lock rows for share or for
update; the locks are kept until the transaction commits or rolls back. Changes
are held back until the commit, which applies them in one step and releases the
locks. An update or delete needs the update lock of its row and an insert needs
the row to be absent. After a commit a session may go on with another
transaction, as a worker does with a job it has claimed.

A statement that would wait for a lock is simply not enabled until the lock is
free, and every session may roll back at any time, so waiting, deadlock, a
crash and a constraint violation need no rules of their own. Each statement
acts at one instant. Fairness and real time are not modelled.
-/
namespace Vasi.ReadCommitted

/-! ## Rows and changes -/

/-- The strength of a row lock. -/
inductive LockMode where
  | share
  | update
deriving DecidableEq

/-- Two sessions may hold the same row only if both share it. -/
def LockMode.compatible : LockMode → LockMode → Bool
  | share, share => true
  | _, _ => false

theorem LockMode.compatible_symm (left right : LockMode) :
    left.compatible right = right.compatible left := by
  cases left <;> cases right <;> rfl

/-- What a transaction does to one row. -/
inductive Change (α : Type) where
  | insert (row : α)
  | update (row : α)
  | delete

/-- The row after a change. -/
def Change.image {α : Type} : Change α → Option α
  | .insert row | .update row => some row
  | .delete => none

@[simp] theorem Change.image_insert {α : Type} (row : α) : (Change.insert row).image = some row :=
  rfl

@[simp] theorem Change.image_update {α : Type} (row : α) : (Change.update row).image = some row :=
  rfl

@[simp] theorem Change.image_delete {α : Type} : (Change.delete : Change α).image = none := rfl

section

variable {Key : Type} (Row : Key → Type)

/-- The committed rows, at most one for each key. -/
abbrev Store := AList Row

/-- The changes of a transaction, at most one for each key. -/
abbrev Changes := AList fun key => Change (Row key)

end

section

variable {Key : Type} [DecidableEq Key] {Row : Key → Type}

/-- Carry out one change. -/
def applyChange (store : Store Row) (entry : Sigma fun key => Change (Row key)) : Store Row :=
  match entry.2.image with
  | some row => store.insert entry.1 row
  | none => store.erase entry.1

/-- The rows as a transaction with these changes sees them, and as its commit leaves them. -/
def applyChanges (store : Store Row) (changes : Changes Row) : Store Row :=
  changes.entries.foldl applyChange store

/-- The changed row has the image of its change. -/
theorem lookup_applyChange_same (store : Store Row)
    (entry : Sigma fun key => Change (Row key)) :
    (applyChange store entry).lookup entry.1 = entry.2.image := by
  unfold applyChange
  cases entry.2.image with
  | some row => exact AList.lookup_insert store
  | none => exact AList.lookup_erase entry.1 store

/-- A change leaves every other row as it is. -/
theorem lookup_applyChange_other (store : Store Row)
    (entry : Sigma fun key => Change (Row key)) (key : Key) (other : key ≠ entry.1) :
    (applyChange store entry).lookup key = store.lookup key := by
  unfold applyChange
  cases entry.2.image with
  | some row => exact AList.lookup_insert_ne other
  | none => exact AList.lookup_erase_ne other

/-- After a list of changes a row has the image of its change, if it has one. -/
theorem lookup_foldl_applyChange (entries : List (Sigma fun key => Change (Row key)))
    (distinct : entries.NodupKeys) (store : Store Row) (key : Key) :
    (entries.foldl applyChange store).lookup key =
      (entries.dlookup key).elim (store.lookup key) Change.image := by
  induction entries generalizing store with
  | nil => rfl
  | cons entry rest inductionHypothesis =>
      obtain ⟨fresh, distinctRest⟩ := List.nodupKeys_cons.mp distinct
      rw [List.foldl_cons, inductionHypothesis distinctRest]
      by_cases same : key = entry.1
      · subst same
        have later : rest.dlookup entry.1 = none := List.dlookup_eq_none.mpr fresh
        have first : (entry :: rest).dlookup entry.1 = some entry.2 := List.dlookup_cons_eq ..
        rw [later, first]
        exact lookup_applyChange_same store entry
      · have first : (entry :: rest).dlookup key = rest.dlookup key :=
          List.dlookup_cons_ne rest entry same
        rw [first, lookup_applyChange_other store entry key same]

/-- After a transaction a row has the image of its change, and is untouched
when it has none. -/
theorem lookup_applyChanges (store : Store Row) (changes : Changes Row) (key : Key) :
    (applyChanges store changes).lookup key =
      (changes.lookup key).elim (store.lookup key) Change.image :=
  lookup_foldl_applyChange changes.entries changes.nodupKeys store key

@[simp] theorem applyChanges_empty (store : Store Row) :
    applyChanges store (∅ : Changes Row) = store := rfl

/-- Record the insertion of a row. -/
def Changes.insertRow (changes : Changes Row) (key : Key) (row : Row key) : Changes Row :=
  AList.insert key (.insert row) changes

/-- Record a new image of a row; a row inserted by the same transaction stays an insertion. -/
def Changes.updateRow (changes : Changes Row) (key : Key) (row : Row key) : Changes Row :=
  match changes.lookup key with
  | some (.insert _) => AList.insert key (.insert row) changes
  | _ => AList.insert key (.update row) changes

/-- Record the deletion of a row. -/
def Changes.deleteRow (changes : Changes Row) (key : Key) : Changes Row :=
  AList.insert key .delete changes

/-- The change that a new image of a row makes of the change there was. -/
def Change.renew {α : Type} : Option (Change α) → α → Change α
  | some (.insert _), row => .insert row
  | _, row => .update row

@[simp] theorem Change.image_renew {α : Type} (change : Option (Change α)) (row : α) :
    (Change.renew change row).image = some row := by
  unfold Change.renew
  split <;> rfl

theorem Changes.lookup_updateRow_same (changes : Changes Row) (key : Key) (row : Row key) :
    AList.lookup key (changes.updateRow key row) =
      some (Change.renew (changes.lookup key) row) := by
  unfold Changes.updateRow Change.renew
  split
  · rename_i found change
    rw [change]
    exact AList.lookup_insert _
  · rename_i other
    refine (AList.lookup_insert _).trans (congrArg some ?_)
    split
    · rename_i found change
      exact absurd change (other found)
    · rfl

theorem Changes.lookup_updateRow_other (changes : Changes Row) (key other : Key) (row : Row key)
    (apart : other ≠ key) : AList.lookup other (changes.updateRow key row) =
      changes.lookup other := by
  unfold Changes.updateRow
  split <;> exact AList.lookup_insert_ne apart

/-- An update deletes no row. -/
theorem Changes.updateRow_undeleted {changes : Changes Row} {key : Key} {row : Row key}
    (undeleted : ∀ found, changes.lookup found ≠ some .delete) (found : Key) :
    AList.lookup found (changes.updateRow key row) ≠ some .delete := by
  by_cases same : found = key
  · subst same
    rw [Changes.lookup_updateRow_same]
    unfold Change.renew
    split <;> simp
  · rw [Changes.lookup_updateRow_other changes key found row same]
    exact undeleted found

/-- An insertion deletes no row. -/
theorem Changes.insertRow_undeleted {changes : Changes Row} {key : Key} {row : Row key}
    (undeleted : ∀ found, changes.lookup found ≠ some .delete) (found : Key) :
    AList.lookup found (changes.insertRow key row) ≠ some .delete := by
  unfold Changes.insertRow
  by_cases same : found = key
  · subst same
    rw [AList.lookup_insert]
    simp
  · rw [AList.lookup_insert_ne same]
    exact undeleted found

/-- A row whose new image is recorded has that image in the end. -/
theorem lookup_applyChanges_updateRow (store : Store Row) (changes : Changes Row) (key : Key)
    (row : Row key) : (applyChanges store (changes.updateRow key row)).lookup key = some row := by
  rw [lookup_applyChanges, Changes.lookup_updateRow_same]
  exact Change.image_renew _ row

end

/-! ## Scripts -/

section

variable {Key : Type} (Row : Key → Type) (Input Point Result : Type)

/-- What is left of a session's program. A statement names its point in the
program, the locks it takes on the committed rows (none when it does not apply)
and how the session goes on; a commit carries the changes of the transaction;
an abandoned script can only be rolled back. -/
inductive Script where
  | abandon
  | stop (result : Result)
  | statement (point : Point) (locks : Input → Store Row → Option (List (Key × LockMode)))
      (next : Input → Store Row → Script)
  | commit (point : Point) (changes : Changes Row) (next : Script)

/-- A part of a transaction that gives a value: it continues a script that has
recorded some changes. -/
def Transaction (α : Type) : Type :=
  (α → Changes Row → Script Row Input Point Result) → Changes Row →
    Script Row Input Point Result

end

section

variable {Key : Type} [DecidableEq Key] {Row : Key → Type} {Input Point Result : Type} {α : Type}

instance : Monad (Transaction Row Input Point Result) where
  pure value := fun continuation changes => continuation value changes
  bind first second := fun continuation changes =>
    first (fun value => second value continuation) changes

omit [DecidableEq Key] in
@[simp] theorem Transaction.pure_apply (value : α)
    (continuation : α → Changes Row → Script Row Input Point Result) (changes : Changes Row) :
    (pure value : Transaction Row Input Point Result α) continuation changes =
      continuation value changes := rfl

omit [DecidableEq Key] in
@[simp] theorem Transaction.bind_apply {β : Type} (first : Transaction Row Input Point Result α)
    (second : α → Transaction Row Input Point Result β)
    (continuation : β → Changes Row → Script Row Input Point Result) (changes : Changes Row) :
    (first >>= second) continuation changes =
      first (fun value => second value continuation) changes := rfl

/-- One statement: from outside values and the rows as the transaction sees
them, the rows it locks and the value it gives. -/
def query (point : Point) (body : Input → Store Row → Option (List (Key × LockMode) × α)) :
    Transaction Row Input Point Result α := fun continuation changes =>
  .statement point
    (fun input store => (body input (applyChanges store changes)).map Prod.fst)
    fun input store => (body input (applyChanges store changes)).elim .abandon fun answer =>
      continuation answer.2 changes

/-- A statement that reads without locking. -/
def readRows (point : Point) (body : Input → Store Row → α) :
    Transaction Row Input Point Result α :=
  query point fun input store => some ([], body input store)

/-- A value from outside the store: a clock reading, a generated identifier. -/
def fromOutside (point : Point) (body : Input → α) : Transaction Row Input Point Result α :=
  readRows point fun input _ => body input

/-- End the transaction with a result, leaving nothing behind. -/
def finish (result : Result) : Transaction Row Input Point Result α := fun _ _ => .stop result

/-- Stage changes for the commit. -/
def stageChanges (change : Changes Row → Changes Row) : Transaction Row Input Point Result Unit :=
  fun continuation changes => continuation () (change changes)

/-- Commit what is recorded and go on with a new transaction. -/
def commitChanges (point : Point) : Transaction Row Input Point Result Unit :=
  fun continuation changes => .commit point changes (continuation () ∅)

/-- The script of a whole program. -/
def Transaction.script (program : Transaction Row Input Point Result Result) :
    Script Row Input Point Result := program (fun result _ => .stop result) ∅

end

/-! ## Sessions and steps -/

/-- Sessions are numbered in any way. -/
abbrev SessionId := ℕ

section

variable {Key : Type} (Row : Key → Type) (Input Point Result Operation : Type)

/-- An open session: the rest of its script, and the locks of its transaction. -/
structure Session where
  script : Script Row Input Point Result
  held : List (Key × LockMode)

/-- The committed rows and the open sessions. -/
structure State where
  store : Store Row
  sessions : AList fun _ : SessionId => Session Row Input Point Result

/-- Committed rows with no session open. -/
def State.idle (store : Store Row) : State Row Input Point Result := ⟨store, ∅⟩

/-- One event of a run. -/
inductive Label where
  | openSession (session : SessionId) (operation : Operation)
  | statement (session : SessionId) (input : Input)
  | commit (session : SessionId)
  | rollback (session : SessionId)

/-- A condition on the statements and the commits of a run, each judged on the
committed rows before it. -/
structure Guard where
  statement : Point → Input → Store Row → Bool
  commit : Point → Store Row → Bool

/-- The condition that every run meets. -/
def Guard.none : Guard Row Input Point := ⟨fun _ _ _ => true, fun _ _ => true⟩

end

section

variable {Key : Type} [DecidableEq Key] {Row : Key → Type} {Input Point Result Operation : Type}

/-- No other session holds one of the rows in an incompatible mode. -/
def grantable (state : State Row Input Point Result) (session : SessionId)
    (locks : List (Key × LockMode)) : Bool :=
  state.sessions.entries.all fun entry => entry.1 = session ||
    entry.2.held.all fun taken => locks.all fun wanted =>
      taken.1 ≠ wanted.1 || taken.2.compatible wanted.2

/-- The locks on rows that are there: a statement locks the rows it finds. -/
def present (store : Store Row) (locks : List (Key × LockMode)) : List (Key × LockMode) :=
  locks.filter fun lock => (store.lookup lock.1).isSome

/-- The change is allowed by the row it is about and the locks held. -/
def permitted (store : Store Row) (held : List (Key × LockMode))
    (entry : Sigma fun key => Change (Row key)) : Bool :=
  match entry.2 with
  | .insert _ => (store.lookup entry.1).isNone
  | .update _ | .delete => (entry.1, .update) ∈ held

/-- Run the next statement of a session, if its locks can be granted. -/
def runStatement (state : State Row Input Point Result) (id : SessionId) (input : Input) :
    Session Row Input Point Result → Option (State Row Input Point Result)
  | ⟨.statement _ locks next, held⟩ =>
      (locks input state.store).bind fun wanted =>
        if grantable state id wanted then
          some ⟨state.store, state.sessions.insert id
            ⟨next input state.store, present state.store wanted ++ held⟩⟩
        else none
  | _ => none

/-- Commit a session, if its changes are permitted. -/
def commitSession (state : State Row Input Point Result) (id : SessionId) :
    Session Row Input Point Result → Option (State Row Input Point Result)
  | ⟨.commit _ changes next, held⟩ =>
      if changes.entries.all (permitted state.store held) then
        some ⟨applyChanges state.store changes, state.sessions.insert id ⟨next, []⟩⟩
      else none
  | _ => none

variable (start : Operation → Script Row Input Point Result)

/-- One step of the system; none when the event is not possible now. -/
def step (state : State Row Input Point Result) :
    Label Input Operation → Option (State Row Input Point Result)
  | .openSession id operation =>
      if (state.sessions.lookup id).isNone then
        some ⟨state.store, state.sessions.insert id ⟨start operation, []⟩⟩
      else none
  | .statement id input => (state.sessions.lookup id).bind (runStatement state id input)
  | .commit id => (state.sessions.lookup id).bind (commitSession state id)
  | .rollback id => some ⟨state.store, state.sessions.erase id⟩

/-- The guard's condition on one event. -/
def Guard.admits (guard : Guard Row Input Point) (state : State Row Input Point Result) :
    Label Input Operation → Bool
  | .statement id input => (state.sessions.lookup id).all fun session =>
      match session.script with
      | .statement point _ _ => guard.statement point input state.store
      | _ => true
  | .commit id => (state.sessions.lookup id).all fun session =>
      match session.script with
      | .commit point _ _ => guard.commit point state.store
      | _ => true
  | _ => true

/-- Follow a list of events that meet the guard. -/
def execute (guard : Guard Row Input Point) (state : State Row Input Point Result) :
    List (Label Input Operation) → Option (State Row Input Point Result)
  | [] => some state
  | label :: rest =>
      if guard.admits state label then
        (step start state label).bind fun next => execute guard next rest
      else none

/-- A step that meets the guard. -/
def Step (guard : Guard Row Input Point) (before after : State Row Input Point Result) : Prop :=
  ∃ label, guard.admits before label = true ∧ step start before label = some after

/-- A run all of whose steps meet the guard. -/
abbrev Runs (guard : Guard Row Input Point) :
    State Row Input Point Result → State Row Input Point Result → Prop :=
  Relation.ReflTransGen (Step start guard)

/-- A list of events that can be followed is a run. -/
theorem execute_runs {guard : Guard Row Input Point} (labels : List (Label Input Operation))
    (before after : State Row Input Point Result)
    (followed : execute start guard before labels = some after) :
    Runs start guard before after := by
  induction labels generalizing before with
  | nil =>
      obtain rfl : before = after := Option.some.inj followed
      exact .refl
  | cons label rest inductionHypothesis =>
      rw [execute, Option.ite_none_right_eq_some, Option.bind_eq_some_iff] at followed
      obtain ⟨admitted, middle, stepped, continued⟩ := followed
      exact .head ⟨label, admitted, stepped⟩ (inductionHypothesis middle continued)

omit [DecidableEq Key] in
/-- Without a condition every event is admitted. -/
theorem Guard.none_admits (state : State Row Input Point Result)
    (label : Label Input Operation) : (Guard.none Row Input Point).admits state label = true := by
  cases label with
  | openSession | rollback => rfl
  | statement id | commit id =>
      simp only [Guard.admits]
      cases state.sessions.lookup id with
      | none => rfl
      | some session =>
          obtain ⟨script, held⟩ := session
          cases script <;> rfl

/-- A run that meets a guard is a run. -/
theorem Runs.unguarded {guard : Guard Row Input Point} {before after : State Row Input Point Result}
    (run : Runs start guard before after) :
    Runs start (Guard.none Row Input Point) before after := by
  induction run with
  | refl => exact .refl
  | tail _ stepped inductionHypothesis =>
      obtain ⟨label, _, result⟩ := stepped
      exact inductionHypothesis.tail ⟨label, Guard.none_admits _ label, result⟩

/-- Every step opens a session, runs a statement, commits or rolls back, with
all that each of these checks. -/
inductive StepCases (guard : Guard Row Input Point) (before after : State Row Input Point Result) :
    Prop where
  | opened (id : SessionId) (operation : Operation)
      (free : before.sessions.lookup id = none)
      (result : after = ⟨before.store, before.sessions.insert id ⟨start operation, []⟩⟩)
  | ran (id : SessionId) (point : Point)
      (locks : Input → Store Row → Option (List (Key × LockMode)))
      (next : Input → Store Row → Script Row Input Point Result) (held : List (Key × LockMode))
      (input : Input) (wanted : List (Key × LockMode))
      (found : before.sessions.lookup id = some ⟨.statement point locks next, held⟩)
      (asked : locks input before.store = some wanted)
      (guarded : guard.statement point input before.store)
      (granted : grantable before id wanted = true)
      (result : after = ⟨before.store, before.sessions.insert id
        ⟨next input before.store, present before.store wanted ++ held⟩⟩)
  | committed (id : SessionId) (point : Point) (changes : Changes Row)
      (next : Script Row Input Point Result) (held : List (Key × LockMode))
      (found : before.sessions.lookup id = some ⟨.commit point changes next, held⟩)
      (guarded : guard.commit point before.store)
      (allowed : changes.entries.all (permitted before.store held) = true)
      (result : after = ⟨applyChanges before.store changes,
        before.sessions.insert id ⟨next, []⟩⟩)
  | rolledBack (id : SessionId) (result : after = ⟨before.store, before.sessions.erase id⟩)

theorem step_cases {guard : Guard Row Input Point} {before after : State Row Input Point Result}
    (stepped : Step start guard before after) : StepCases start guard before after := by
  obtain ⟨label, admitted, result⟩ := stepped
  cases label with
  | openSession id operation =>
      simp only [step, Option.ite_none_right_eq_some, Option.isNone_iff_eq_none,
        Option.some.injEq] at result
      exact .opened id operation result.1 result.2.symm
  | statement id input =>
      simp only [step, Option.bind_eq_some_iff] at result
      obtain ⟨⟨script, held⟩, found, ran⟩ := result
      cases script with
      | abandon | stop | commit => simp [runStatement] at ran
      | statement point locks next =>
          simp only [runStatement, Option.bind_eq_some_iff] at ran
          obtain ⟨wanted, asked, granted⟩ := ran
          simp only [Option.ite_none_right_eq_some, Option.some.injEq] at granted
          have guarded : guard.statement point input before.store = true := by
            simpa [Guard.admits, found] using admitted
          exact .ran id point locks next held input wanted found asked guarded granted.1
            granted.2.symm
  | commit id =>
      simp only [step, Option.bind_eq_some_iff] at result
      obtain ⟨⟨script, held⟩, found, committed⟩ := result
      cases script with
      | abandon | stop | statement => simp [commitSession] at committed
      | commit point changes next =>
          simp only [commitSession, Option.ite_none_right_eq_some, Option.some.injEq] at committed
          have guarded : guard.commit point before.store = true := by
            simpa [Guard.admits, found] using admitted
          exact .committed id point changes next held found guarded committed.1 committed.2.symm
  | rollback id => exact .rolledBack id (Option.some.inj result).symm

end

end Vasi.ReadCommitted
