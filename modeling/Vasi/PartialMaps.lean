import Mathlib.Data.List.Forall2

/-!
# Mappings that can fail

A mapping over a list that fails with its first failing item gives its results side by
side with the items.
-/
namespace Vasi.PartialMaps

variable {α β : Type}

/-- Every element of paired lists has its partner. -/
theorem forall₂_partners {relation : α → β → Prop} {left : List α} {right : List β}
    (related : List.Forall₂ relation left right) :
    (∀ first ∈ left, ∃ second ∈ right, relation first second) ∧
      ∀ second ∈ right, ∃ first ∈ left, relation first second := by
  induction related with
  | nil => simp
  | cons same _ inductionHypothesis =>
      refine ⟨List.forall_mem_cons.mpr ⟨⟨_, List.mem_cons_self, same⟩, ?_⟩,
        List.forall_mem_cons.mpr ⟨⟨_, List.mem_cons_self, same⟩, ?_⟩⟩
      · intro first member
        obtain ⟨second, listed, holds⟩ := inductionHypothesis.1 first member
        exact ⟨second, List.mem_cons_of_mem _ listed, holds⟩
      · intro second member
        obtain ⟨first, listed, holds⟩ := inductionHypothesis.2 second member
        exact ⟨first, List.mem_cons_of_mem _ listed, holds⟩

variable {convert : α → Option β} {items : List α} {results : List β}

theorem mapM_forall₂ (converted : items.mapM convert = some results) :
    List.Forall₂ (fun item result => convert item = some result) items results := by
  induction items generalizing results with
  | nil =>
      obtain rfl := Option.some.inj converted
      exact .nil
  | cons item rest inductionHypothesis =>
      rw [List.mapM_cons] at converted
      obtain ⟨result, first, converted⟩ := Option.bind_eq_some_iff.mp converted
      obtain ⟨others, later, converted⟩ := Option.bind_eq_some_iff.mp converted
      obtain rfl := Option.some.inj converted
      exact .cons first (inductionHypothesis later)

theorem mapM_length (converted : items.mapM convert = some results) :
    results.length = items.length :=
  (mapM_forall₂ converted).length_eq.symm

/-- Each result is that of an item. -/
theorem mapM_source (converted : items.mapM convert = some results) {result : β}
    (inside : result ∈ results) : ∃ item ∈ items, convert item = some result :=
  (forall₂_partners (mapM_forall₂ converted)).2 result inside

theorem mapM_isSome (each : ∀ item ∈ items, (convert item).isSome = true) :
    ∃ results, items.mapM convert = some results := by
  induction items with
  | nil => exact ⟨[], rfl⟩
  | cons item rest inductionHypothesis =>
      rw [List.forall_mem_cons] at each
      obtain ⟨head, first⟩ := Option.isSome_iff_exists.mp each.1
      obtain ⟨tail, others⟩ := inductionHypothesis each.2
      exact ⟨head :: tail, by rw [List.mapM_cons, first, others]; rfl⟩

end Vasi.PartialMaps
