import Vasi.ReadCommitted
import Mathlib.Algebra.BigOperators.Group.List.Basic
import Mathlib.Algebra.Order.BigOperators.Group.List
import Mathlib.Algebra.Order.Ring.Nat
import Mathlib.Data.List.Dedup

/-!
# Sums and counts over committed rows

The sum of a weight over all rows and the number of distinct labels that rows
carry, and what the changes of a transaction make of them. Both depend on the
rows only, not on the order in which the store lists them.
-/
namespace Vasi.ReadCommitted

variable {Key : Type} [DecidableEq Key] {Row : Key → Type}

/-! ## Sums -/

/-- The sum of a weight over the rows. -/
def total (weight : Sigma Row → ℕ) (store : Store Row) : ℕ := (store.entries.map weight).sum

/-- The weight of the row with a key, zero when it is absent. -/
def weightAt (weight : Sigma Row → ℕ) (store : Store Row) (key : Key) : ℕ :=
  (store.lookup key).elim 0 fun row => weight ⟨key, row⟩

/-- The weight of the row that a change leaves. -/
def weightAfter (weight : Sigma Row → ℕ) (entry : Sigma fun key => Change (Row key)) : ℕ :=
  entry.2.image.elim 0 fun row => weight ⟨entry.1, row⟩

variable {weight : Sigma Row → ℕ} {store : Store Row}

/-- Without the row of one key the sum lacks that row's weight. -/
theorem sum_kerase (weight : Sigma Row → ℕ) (entries : List (Sigma Row)) (key : Key) :
    ((List.kerase key entries).map weight).sum +
      (entries.dlookup key).elim 0 (fun row => weight ⟨key, row⟩) = (entries.map weight).sum := by
  induction entries with
  | nil => rfl
  | cons entry rest inductionHypothesis =>
      obtain ⟨found, row⟩ := entry
      by_cases same : found = key
      · subst same
        rw [List.kerase_cons_eq (show found = (⟨found, row⟩ : Sigma Row).1 from rfl),
          List.dlookup_cons_eq, List.map_cons, List.sum_cons]
        exact Nat.add_comm _ _
      · rw [List.kerase_cons_ne (Ne.symm same), List.dlookup_cons_ne rest _ (Ne.symm same)]
        simp only [List.map_cons, List.sum_cons]
        omega

theorem total_erase (weight : Sigma Row → ℕ) (store : Store Row) (key : Key) :
    total weight (store.erase key) + weightAt weight store key = total weight store :=
  sum_kerase weight store.entries key

theorem total_insert (weight : Sigma Row → ℕ) (store : Store Row) (key : Key) (row : Row key) :
    total weight (AList.insert key row store) + weightAt weight store key =
      total weight store + weight ⟨key, row⟩ := by
  have erased := sum_kerase weight store.entries key
  unfold total weightAt
  rw [AList.entries_insert, List.map_cons, List.sum_cons]
  change _ + (List.dlookup key store.entries).elim 0 _ = _
  omega

/-- One change takes the weight of the old row and adds that of the new one. -/
theorem total_applyChange (weight : Sigma Row → ℕ) (store : Store Row) (entry : Sigma fun key => Change (Row key)) :
    total weight (applyChange store entry) + weightAt weight store entry.1 =
      total weight store + weightAfter weight entry := by
  unfold applyChange weightAfter
  cases entry.2.image with
  | some row => exact total_insert weight store entry.1 row
  | none => exact total_erase weight store entry.1

/-- Every change takes the weight of its old row and adds that of its new one;
the induction is on the changes, whose keys differ. -/
theorem total_applyChanges (weight : Sigma Row → ℕ) (store : Store Row) (changes : Changes Row) :
    total weight (applyChanges store changes) +
        (changes.entries.map fun entry => weightAt weight store entry.1).sum =
      total weight store + (changes.entries.map (weightAfter weight)).sum := by
  unfold applyChanges
  have distinct := changes.nodupKeys
  generalize changes.entries = entries at distinct ⊢
  induction entries generalizing store with
  | nil => rfl
  | cons entry rest inductionHypothesis =>
      obtain ⟨fresh, distinctRest⟩ := List.nodupKeys_cons.mp distinct
      have later := inductionHypothesis (applyChange store entry) distinctRest
      have first := total_applyChange weight store entry
      have untouched : rest.map (fun other => weightAt weight (applyChange store entry) other.1) =
          rest.map fun other => weightAt weight store other.1 := by
        apply List.map_congr_left
        intro other member
        have apart : other.1 ≠ entry.1 := by
          rintro same
          exact fresh (same ▸ List.mem_keys_of_mem member)
        unfold weightAt
        rw [lookup_applyChange_other store entry other.1 apart]
      rw [untouched] at later
      simp only [List.foldl_cons, List.map_cons, List.sum_cons]
      omega

/-- Changes that leave rows without weight do not add to the sum. -/
theorem total_le {changes : Changes Row}
    (weightless : ∀ key change row, changes.lookup key = some change → change.image = some row →
      weight ⟨key, row⟩ = 0) :
    total weight (applyChanges store changes) ≤ total weight store := by
  have balance := total_applyChanges weight store changes
  have after : (changes.entries.map (weightAfter weight)).sum = 0 := by
    apply List.sum_eq_zero
    intro value member
    obtain ⟨⟨key, change⟩, there, rfl⟩ := List.mem_map.mp member
    unfold weightAfter
    cases image : change.image with
    | none => rfl
    | some row => exact weightless key change row (AList.mem_lookup_iff.mpr there) image
  omega

/-- Changes that leave no more weight than one of the changed rows had do not add to the sum. -/
theorem total_le_replaced {changes : Changes Row} {key : Key}
    (changed : (changes.lookup key).isSome)
    (balance : (changes.entries.map (weightAfter weight)).sum ≤ weightAt weight store key) :
    total weight (applyChanges store changes) ≤ total weight store := by
  obtain ⟨change, found⟩ := Option.isSome_iff_exists.mp changed
  have member : weightAt weight store key ∈
      changes.entries.map fun entry => weightAt weight store entry.1 :=
    List.mem_map.mpr ⟨⟨key, change⟩, AList.mem_lookup_iff.mp found, rfl⟩
  have removed := List.le_sum_of_mem member
  have whole := total_applyChanges weight store changes
  omega

/-- The one change of a transaction. -/
theorem lookup_single {key found : Key} {change : Change (Row key)} {other : Change (Row found)}
    (changed : AList.lookup found (AList.insert key change (∅ : Changes Row)) = some other) :
    (⟨found, other⟩ : Sigma fun key => Change (Row key)) = ⟨key, change⟩ := by
  by_cases same : found = key
  · subst same
    rw [AList.lookup_insert] at changed
    rw [Option.some.inj changed]
  · have absent : AList.lookup found (AList.insert key change (∅ : Changes Row)) =
        AList.lookup found (∅ : Changes Row) := AList.lookup_insert_ne same
    rw [absent] at changed
    cases changed

/-- A single change of a row. -/
theorem total_single (weight : Sigma Row → ℕ) (store : Store Row) (key : Key) (change : Change (Row key)) :
    total weight (applyChanges store (AList.insert key change (∅ : Changes Row))) +
        weightAt weight store key = total weight store + weightAfter weight ⟨key, change⟩ := by
  have balance := total_applyChanges weight store
    (AList.insert key change (∅ : Changes Row))
  have single : (AList.insert key change (∅ : Changes Row)).entries = [⟨key, change⟩] := rfl
  rw [single] at balance
  simpa using balance

/-! ## Distinct labels -/

section

variable {Label : Type} [DecidableEq Label]

/-- The labels that rows carry. -/
def labels (label : Sigma Row → Option Label) (store : Store Row) : List Label :=
  store.entries.filterMap label

/-- The number of distinct labels. -/
def distinctLabels (label : Sigma Row → Option Label) (store : Store Row) : ℕ :=
  (labels label store).dedup.length

variable {label : Sigma Row → Option Label} {before after : Store Row}

omit [DecidableEq Label] in
theorem mem_labels {value : Label} :
    value ∈ labels label store ↔
      ∃ key row, store.lookup key = some row ∧ label ⟨key, row⟩ = some value := by
  unfold labels
  rw [List.mem_filterMap]
  constructor
  · rintro ⟨⟨key, row⟩, member, carried⟩
    exact ⟨key, row, AList.mem_lookup_iff.mpr member, carried⟩
  · rintro ⟨key, row, found, carried⟩
    exact ⟨⟨key, row⟩, AList.mem_lookup_iff.mp found, carried⟩

omit [DecidableEq Label] in
/-- A label after a transaction is one of a row it leaves, or was there before. -/
theorem labels_applyChanges {changes : Changes Row} {value : Label}
    (member : value ∈ labels label (applyChanges store changes)) :
    (∃ key change row, changes.lookup key = some change ∧ change.image = some row ∧
      label ⟨key, row⟩ = some value) ∨ value ∈ labels label store := by
  obtain ⟨key, row, found, carried⟩ := mem_labels.mp member
  rw [lookup_applyChanges] at found
  cases changed : changes.lookup key with
  | none =>
      rw [changed] at found
      exact .inr (mem_labels.mpr ⟨key, row, found, carried⟩)
  | some change =>
      rw [changed] at found
      exact .inl ⟨key, change, row, changed, found, carried⟩

omit [DecidableEq Key] in
/-- Rows whose labels all occurred before have no more distinct ones. -/
theorem distinctLabels_le (old : ∀ value ∈ labels label after, value ∈ labels label before) :
    distinctLabels label after ≤ distinctLabels label before := by
  apply (List.nodup_dedup _).length_le_of_subset
  intro value member
  exact List.mem_dedup.mpr (old value (List.mem_dedup.mp member))

omit [DecidableEq Key] in
/-- Rows with some new labels have at most as many more distinct ones. -/
theorem distinctLabels_le_add (fresh : List Label)
    (old : ∀ value ∈ labels label after, value ∈ fresh ∨ value ∈ labels label before) :
    distinctLabels label after ≤ distinctLabels label before + fresh.length := by
  have bound : distinctLabels label after ≤
      (fresh ++ (labels label before).dedup).length := by
    apply (List.nodup_dedup _).length_le_of_subset
    intro value member
    rcases old value (List.mem_dedup.mp member) with new | there
    · exact List.mem_append_left _ new
    · exact List.mem_append_right _ (List.mem_dedup.mpr there)
  rw [List.length_append] at bound
  unfold distinctLabels at bound ⊢
  omega

end

end Vasi.ReadCommitted
