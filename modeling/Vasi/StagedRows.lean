import Vasi.AtomicCommits

/-!
# Rows with staged changes

A transaction sees the committed rows with the changes it has staged on them. A row that it has
changed is seen as it was left, every other row as it is committed; a row that it has locked is
seen alike until it commits. The statements about one row that programs are made of follow, each
with the rule for it.
-/
namespace Vasi.ReadCommitted

section

variable {Key : Type} [DecidableEq Key] {Row : Key → Type}

/-- A row without a staged change is as it is committed. -/
theorem lookup_untouched (store : Store Row) {changes : Changes Row} {key : Key}
    (untouched : changes.lookup key = none) :
    (applyChanges store changes).lookup key = store.lookup key := by
  rw [lookup_applyChanges, untouched]
  rfl

theorem lookup_insertRow_same (store : Store Row) (changes : Changes Row) (key : Key)
    (row : Row key) : (applyChanges store (changes.insertRow key row)).lookup key = some row := by
  rw [lookup_applyChanges, Changes.insertRow, AList.lookup_insert]
  rfl

theorem lookup_insertRow_other (store : Store Row) (changes : Changes Row) {key other : Key}
    (row : Row key) (apart : other ≠ key) :
    (applyChanges store (changes.insertRow key row)).lookup other =
      (applyChanges store changes).lookup other := by
  rw [lookup_applyChanges, lookup_applyChanges, Changes.insertRow, AList.lookup_insert_ne apart]

theorem lookup_updateRow_other (store : Store Row) (changes : Changes Row) {key other : Key}
    (row : Row key) (apart : other ≠ key) :
    (applyChanges store (changes.updateRow key row)).lookup other =
      (applyChanges store changes).lookup other := by
  rw [lookup_applyChanges, lookup_applyChanges, Changes.lookup_updateRow_other _ _ _ _ apart]

theorem lookup_deleteRow_same (store : Store Row) (changes : Changes Row) (key : Key) :
    (applyChanges store (changes.deleteRow key)).lookup key = none := by
  rw [lookup_applyChanges, Changes.deleteRow, AList.lookup_insert]
  rfl

theorem lookup_deleteRow_other (store : Store Row) (changes : Changes Row) {key other : Key}
    (apart : other ≠ key) : (applyChanges store (changes.deleteRow key)).lookup other =
      (applyChanges store changes).lookup other := by
  rw [lookup_applyChanges, lookup_applyChanges, Changes.deleteRow, AList.lookup_insert_ne apart]

/-- An insertion leaves the other changes. -/
theorem Changes.lookup_insertRow_other {changes : Changes Row} {key other : Key} {row : Row key}
    (apart : other ≠ key) : AList.lookup other (changes.insertRow key row) = changes.lookup other :=
  AList.lookup_insert_ne apart

end

section

variable {Key : Type} [DecidableEq Key] {Row : Key → Type} {Input Point Result : Type} {α : Type}
  {contract : Contract Row Input Point Result} {knowledge next : Knowledge Row}
  {changes : Changes Row} {key : Key} {row : Row key}

/-- The transaction sees the row: it staged it, or it has locked it. -/
def Knowledge.Sees (knowledge : Knowledge Row) (changes : Changes Row) (key : Key)
    (row : Row key) : Prop :=
  match changes.lookup key with
  | some change => change.image = some row
  | none => ⟨key, row⟩ ∈ knowledge.known

theorem Knowledge.Sees.later (sees : knowledge.Sees changes key row)
    (moreKnown : knowledge.Later next contract) : next.Sees changes key row := by
  unfold Knowledge.Sees at sees ⊢
  split
  · rename_i change staged
    rwa [staged] at sees
  · rename_i staged
    rw [staged] at sees
    exact moreKnown.known sees

/-- What is seen is there whenever the rows agree with what is known. -/
theorem Knowledge.Sees.lookup (sees : knowledge.Sees changes key row) {store : Store Row}
    (allowed : knowledge.Allows contract store) :
    (applyChanges store changes).lookup key = some row := by
  unfold Knowledge.Sees at sees
  rw [lookup_applyChanges]
  cases staged : changes.lookup key with
  | some change => simpa [staged] using sees
  | none =>
      rw [staged] at sees
      exact allowed.current _ sees

/-- A row without a staged change is known. -/
theorem Knowledge.Sees.known (sees : knowledge.Sees changes key row)
    (untouched : changes.lookup key = none) : ⟨key, row⟩ ∈ knowledge.known := by
  unfold Knowledge.Sees at sees
  rwa [untouched] at sees

/-- A row with a staged change is as the change leaves it. -/
theorem Knowledge.Sees.staged (sees : knowledge.Sees changes key row) {change : Change (Row key)}
    (staged : changes.lookup key = some change) : change.image = some row := by
  unfold Knowledge.Sees at sees
  rwa [staged] at sees

/-- A row that is found and locked is seen. -/
theorem Knowledge.sees_after {store : Store Row} {locks : List (Key × LockMode)} {mode : LockMode}
    (locked : (key, mode) ∈ locks) (found : (applyChanges store changes).lookup key = some row) :
    (knowledge.after store locks).Sees changes key row := by
  unfold Knowledge.Sees
  rw [lookup_applyChanges] at found
  split
  · rename_i change staged
    simpa [staged] using found
  · rename_i staged
    rw [staged] at found
    exact Knowledge.mem_after locked found

/-- A row that is found without a staged change and locked for update is held. -/
theorem Knowledge.mine_after {store : Store Row} {locks : List (Key × LockMode)}
    (locked : (key, .update) ∈ locks) (found : (applyChanges store changes).lookup key = some row)
    (untouched : changes.lookup key = none) : key ∈ (knowledge.after store locks).mine := by
  rw [lookup_applyChanges, untouched] at found
  exact List.mem_append_left _ (mem_keysAt.mpr ⟨locked, Option.isSome_of_eq_some found⟩)

end

/-! ## Statements about one row -/

section

variable {Key : Type} [DecidableEq Key] {Row : Key → Type} {Input Point Result : Type}

/-- A row that must be there and meet a condition, locked for update. -/
def lockFound (point : Point) (key : Key) (condition : Row key → Bool) :
    Transaction Row Input Point Result (Row key) :=
  query point fun _ view => ((view.lookup key).filter condition).map
    fun row => ([(key, .update)], row)

/-- A row that must be new. -/
def insertFresh (point : Point) (key : Key) (row : Row key) :
    Transaction Row Input Point Result Unit := do
  query point fun _ view => if (view.lookup key).isNone then some ([], ()) else none
  stageChanges fun changes => changes.insertRow key row

/-- Delete a row, if it is there. -/
def deleteFound (point : Point) (key : Key) : Transaction Row Input Point Result Unit := do
  let found ← query point fun _ view =>
    some (if (view.lookup key).isSome then ([(key, .update)], true) else ([], false))
  stageChanges fun changes => if found then changes.deleteRow key else changes

/-- A row, whether it is there or new. -/
def putRow (point : Point) (key : Key) (row : Row key) :
    Transaction Row Input Point Result Unit := do
  let found ← query point fun _ view =>
    some (if (view.lookup key).isSome then ([(key, .update)], true) else ([], false))
  stageChanges fun changes => if found then changes.updateRow key row else changes.insertRow key row

variable {contract : Contract Row Input Point Result} {knowledge : Knowledge Row}
  {changes : Changes Row} {point : Point} {key : Key}

theorem meets_lockFound (unpromising : Unpromising contract) {condition : Row key → Bool}
    {continuation : Row key → Changes Row → Script Row Input Point Result}
    (rest : ∀ row next, knowledge.Later next contract → condition row = true →
      next.Sees changes key row → (changes.lookup key = none → key ∈ next.mine) →
      (continuation row changes).Meets contract next) :
    (lockFound point key condition continuation changes).Meets contract knowledge := by
  apply meets_query
  intro input store locks row allowed _ answered
  obtain ⟨found, selected, equal⟩ := Option.map_eq_some_iff.mp answered
  obtain ⟨rfl, rfl⟩ := Prod.mk.inj equal
  obtain ⟨there, holds⟩ := Option.filter_eq_some_iff.mp selected
  exact ⟨unpromising.promise _ _ _ _ _, rest found _ (allowed.later _) holds
    (Knowledge.sees_after (List.mem_singleton_self _) there)
    (Knowledge.mine_after (List.mem_singleton_self _) there)⟩

theorem meets_insertFresh (unpromising : Unpromising contract) {row : Row key}
    {continuation : Unit → Changes Row → Script Row Input Point Result}
    (rest : ∀ next, knowledge.Later next contract →
      (continuation () (changes.insertRow key row)).Meets contract next) :
    (insertFresh point key row continuation changes).Meets contract knowledge := by
  rw [insertFresh, Transaction.bind_apply]
  apply meets_query
  intro input store locks value allowed _ _
  exact ⟨unpromising.promise _ _ _ _ _, rest _ (allowed.later _)⟩

/-- A row that is there is deleted. -/
theorem meets_deleteFound (unpromising : Unpromising contract)
    {continuation : Unit → Changes Row → Script Row Input Point Result}
    (there : ∀ store, knowledge.Allows contract store →
      ((applyChanges store changes).lookup key).isSome = true)
    (rest : ∀ next, knowledge.Later next contract →
      (continuation () (changes.deleteRow key)).Meets contract next) :
    (deleteFound point key continuation changes).Meets contract knowledge := by
  rw [deleteFound, Transaction.bind_apply]
  apply meets_query
  intro input store locks found allowed _ answered
  rw [if_pos (there store allowed)] at answered
  obtain ⟨rfl, rfl⟩ := Prod.mk.inj (Option.some.inj answered)
  exact ⟨unpromising.promise _ _ _ _ _, rest _ (allowed.later _)⟩

theorem meets_putRow (unpromising : Unpromising contract) {row : Row key}
    {continuation : Unit → Changes Row → Script Row Input Point Result}
    (update : ∀ next, knowledge.Later next contract →
      (continuation () (changes.updateRow key row)).Meets contract next)
    (insert : ∀ next, knowledge.Later next contract →
      (continuation () (changes.insertRow key row)).Meets contract next) :
    (putRow point key row continuation changes).Meets contract knowledge := by
  rw [putRow, Transaction.bind_apply]
  apply meets_query
  intro input store locks found allowed _ answered
  refine ⟨unpromising.promise _ _ _ _ _, ?_⟩
  simp only [stageChanges]
  split
  · exact update _ (allowed.later _)
  · exact insert _ (allowed.later _)

end

end Vasi.ReadCommitted
