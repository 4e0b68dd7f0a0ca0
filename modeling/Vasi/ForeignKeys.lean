import Mathlib.Data.List.Basic

/-!
# Deletion under foreign keys

Rows of several tables with columns that refer to other rows, and SQL's delete
statement on them. A row whose foreign key cascades goes with the row it refers
to; any other row that refers to a deleted one makes the statement fail, as does
a trigger that refuses a deletion. A statement that fails deletes nothing.
-/
namespace Vasi.ForeignKeys

/-- A foreign key of a table: its column, the table it refers to, and whether
deletions cascade. -/
structure ForeignKey (Table Column : Type) where
  column : Column
  target : Table
  cascade : Bool

/-- A row: its table, its key there, and the values of the columns that refer to rows. -/
structure Row (Table Column Id : Type) where
  table : Table
  id : Id
  column : Column → Option Id

/-- The rows of all tables. -/
abbrev Database (Table Column Id : Type) := List (Row Table Column Id)

section

variable {Table Column Id : Type} [DecidableEq Table] [DecidableEq Id]
  (keys : Table → List (ForeignKey Table Column))

/-- A row refers to another one by a foreign key. -/
def refersTo (row target : Row Table Column Id) : Bool :=
  (keys row.table).any fun key => key.target = target.table && row.column key.column = some target.id

/-- A row is deleted with another one. -/
def cascadesTo (row target : Row Table Column Id) : Bool :=
  (keys row.table).any fun key =>
    key.cascade && key.target = target.table && row.column key.column = some target.id

/-- The rows that go with some others, after so many rounds of cascades. -/
def spread (database : Database Table Column Id) :
    ℕ → (Row Table Column Id → Bool) → Row Table Column Id → Bool
  | 0, gone => gone
  | rounds + 1, gone => spread database rounds fun row =>
      gone row || database.any fun target => gone target && cascadesTo keys row target

/-- The delete statement: the selected rows go, with the rows that cascade from
them, unless a trigger refuses one of them or a row that stays refers to one. -/
def deleteRows (allowed selected : Row Table Column Id → Bool)
    (database : Database Table Column Id) : Option (Database Table Column Id) :=
  let gone := spread keys database database.length selected
  if database.all (fun row => !gone row || allowed row) &&
      database.all (fun row => gone row ||
        database.all fun target => !(gone target && refersTo keys row target)) then
    some (database.filter fun row => !gone row)
  else none

/-- A delete statement: its table and the rows it selects there. -/
structure Deletion (Table Column Id : Type) where
  table : Table
  rows : Database Table Column Id → Row Table Column Id → Bool

def Deletion.selects (deletion : Deletion Table Column Id) (database : Database Table Column Id)
    (row : Row Table Column Id) : Bool :=
  row.table = deletion.table && deletion.rows database row

/-- Delete statements in order, under the same triggers. -/
def deleteAll (allowed : Database Table Column Id → Row Table Column Id → Bool) :
    List (Deletion Table Column Id) → Database Table Column Id →
      Option (Database Table Column Id)
  | [], database => some database
  | deletion :: rest, database => do
      let after ← deleteRows keys (allowed database) (deletion.selects database) database
      deleteAll allowed rest after

/-- Every reference of a row is to a row that is there. -/
def Integral (database : Database Table Column Id) : Prop :=
  ∀ row ∈ database, ∀ key ∈ keys row.table, ∀ id, row.column key.column = some id →
    ∃ target ∈ database, target.table = key.target ∧ target.id = id

end

section

variable {Table Column Id : Type} [DecidableEq Table] [DecidableEq Id]
  {keys : Table → List (ForeignKey Table Column)} {allowed selected : Row Table Column Id → Bool}
  {triggers : Database Table Column Id → Row Table Column Id → Bool}
  {deletions : List (Deletion Table Column Id)} {database after : Database Table Column Id}
  {kind : Row Table Column Id → Prop}

/-- Selected rows are among those that go. -/
theorem spread_selected (rounds : ℕ) (gone : Row Table Column Id → Bool)
    {row : Row Table Column Id} (member : gone row = true) :
    spread keys database rounds gone row = true := by
  induction rounds generalizing gone with
  | zero => exact member
  | succ rounds inductionHypothesis =>
      apply inductionHypothesis
      rw [member, Bool.true_or]

/-- Rows that go are of one kind if the selected ones are and cascades stay within it;
the induction is on the rounds. -/
theorem spread_kind (cascades : ∀ row target, target ∈ database →
      cascadesTo keys row target = true → kind target → kind row)
    (rounds : ℕ) (gone : Row Table Column Id → Bool)
    (initial : ∀ row ∈ database, gone row = true → kind row) {row : Row Table Column Id}
    (inside : row ∈ database) (member : spread keys database rounds gone row = true) :
    kind row := by
  induction rounds generalizing gone with
  | zero => exact initial row inside member
  | succ rounds inductionHypothesis =>
      refine inductionHypothesis _ ?_ member
      intro other there selected
      rw [Bool.or_eq_true, List.any_eq_true] at selected
      rcases selected with before | ⟨target, targetThere, cascaded⟩
      · exact initial other there before
      · rw [Bool.and_eq_true] at cascaded
        exact cascades other target targetThere cascaded.2
          (initial target targetThere cascaded.1)

/-! ## One statement -/

/-- Statements only take rows away. -/
theorem deleteRows_subset (deleted : deleteRows keys allowed selected database = some after) :
    after ⊆ database := by
  simp only [deleteRows, Option.ite_none_right_eq_some, Option.some.injEq] at deleted
  obtain ⟨_, rfl⟩ := deleted
  exact fun _ member => List.mem_of_mem_filter member

/-- The selected rows are gone. -/
theorem deleteRows_selected (deleted : deleteRows keys allowed selected database = some after)
    {row : Row Table Column Id} (stays : row ∈ after) : selected row = false := by
  simp only [deleteRows, Option.ite_none_right_eq_some, Option.some.injEq] at deleted
  obtain ⟨_, rfl⟩ := deleted
  have kept := List.of_mem_filter stays
  by_contra chosen
  rw [spread_selected _ selected ((Bool.not_eq_false _).mp chosen)] at kept
  cases kept

/-- Whatever goes is of a kind that the selected rows have and cascades keep. -/
theorem deleteRows_kind (deleted : deleteRows keys allowed selected database = some after)
    (cascades : ∀ row target, target ∈ database → cascadesTo keys row target = true →
      kind target → kind row)
    (initial : ∀ row ∈ database, selected row = true → kind row) {row : Row Table Column Id}
    (inside : row ∈ database) (gone : row ∉ after) : kind row := by
  simp only [deleteRows, Option.ite_none_right_eq_some, Option.some.injEq] at deleted
  obtain ⟨_, rfl⟩ := deleted
  refine spread_kind cascades database.length selected initial inside ?_
  by_contra stays
  exact gone (List.mem_filter.mpr ⟨inside, by simpa using stays⟩)

/-- A statement leaves no reference without its row. -/
theorem deleteRows_integral (deleted : deleteRows keys allowed selected database = some after)
    (integral : Integral keys database) : Integral keys after := by
  simp only [deleteRows, Option.ite_none_right_eq_some, Option.some.injEq] at deleted
  obtain ⟨checked, rfl⟩ := deleted
  rw [Bool.and_eq_true] at checked
  intro row stays key member id value
  obtain ⟨inside, kept⟩ := List.mem_filter.mp stays
  obtain ⟨target, there, table, same⟩ := integral row inside key member id value
  refine ⟨target, List.mem_filter.mpr ⟨there, ?_⟩, table, same⟩
  have free := List.all_eq_true.mp checked.2 row inside
  rw [Bool.or_eq_true] at free
  have rest := free.resolve_left (by simpa using kept)
  have apart := List.all_eq_true.mp rest target there
  have refers : refersTo keys row target = true := by
    refine List.any_eq_true.mpr ⟨key, member, ?_⟩
    simp [table, same, value]
  simpa [refers] using apart

/-! ## Statements in order -/

theorem deleteAll_subset (deleted : deleteAll keys triggers deletions database = some after) :
    after ⊆ database := by
  induction deletions generalizing database with
  | nil =>
      obtain rfl := Option.some.inj deleted
      exact List.Subset.refl _
  | cons deletion rest inductionHypothesis =>
      obtain ⟨middle, first, others⟩ := Option.bind_eq_some_iff.mp deleted
      exact List.Subset.trans (inductionHypothesis others) (deleteRows_subset first)

theorem deleteAll_integral (deleted : deleteAll keys triggers deletions database = some after)
    (integral : Integral keys database) : Integral keys after := by
  induction deletions generalizing database with
  | nil =>
      obtain rfl := Option.some.inj deleted
      exact integral
  | cons deletion rest inductionHypothesis =>
      obtain ⟨middle, first, others⟩ := Option.bind_eq_some_iff.mp deleted
      exact inductionHypothesis others (deleteRows_integral first integral)

/-- Whatever goes is of a kind that each statement selects and cascades keep. -/
theorem deleteAll_kind {whole : Database Table Column Id} (part : database ⊆ whole)
    (deleted : deleteAll keys triggers deletions database = some after)
    (cascades : ∀ row target, target ∈ whole → cascadesTo keys row target = true →
      kind target → kind row)
    (initial : ∀ deletion ∈ deletions, ∀ current : Database Table Column Id, current ⊆ whole →
      ∀ row ∈ current, deletion.selects current row = true → kind row)
    {row : Row Table Column Id} (inside : row ∈ database) (gone : row ∉ after) : kind row := by
  induction deletions generalizing database with
  | nil =>
      obtain rfl := Option.some.inj deleted
      exact absurd inside gone
  | cons deletion rest inductionHypothesis =>
      obtain ⟨middle, first, others⟩ := Option.bind_eq_some_iff.mp deleted
      by_cases stays : row ∈ middle
      · exact inductionHypothesis (List.Subset.trans (deleteRows_subset first) part) others
          (fun other member => initial other (List.mem_cons_of_mem _ member)) stays
      · exact deleteRows_kind first (fun row target there => cascades row target (part there))
          (initial deletion List.mem_cons_self database part) inside stays

/-- A statement's rows are gone in the end, when what it selects does not depend on other rows. -/
theorem deleteAll_selected (deleted : deleteAll keys triggers deletions database = some after)
    {deletion : Deletion Table Column Id} (member : deletion ∈ deletions)
    {row : Row Table Column Id} (chosen : ∀ current, deletion.selects current row = true) :
    row ∉ after := by
  induction deletions generalizing database with
  | nil => cases member
  | cons next rest inductionHypothesis =>
      obtain ⟨middle, first, others⟩ := Option.bind_eq_some_iff.mp deleted
      rcases List.mem_cons.mp member with rfl | later
      · intro stays
        have kept := deleteRows_selected first (deleteAll_subset others stays)
        rw [chosen] at kept
        cases kept
      · exact inductionHypothesis others later

end

end Vasi.ForeignKeys
