import Mathlib.Data.List.Basic
import Mathlib.Data.List.Pairwise
import Mathlib.Logic.Function.Basic

/-!
# Sessions side by side

Sessions are numbered, and a number may have none. What holds of every session, and
between any two of them, is kept when one session goes on or ends, given that it holds of
that session and between it and the others.
-/
namespace Vasi.Sessions

variable {Session : Type}

/-- The sessions with one of them replaced. -/
theorem update_cases {sessions : ℕ → Option Session} {id other : ℕ} {session : Option Session}
    {two : Session} (found : Function.update sessions id session other = some two) :
    other = id ∧ session = some two ∨ other ≠ id ∧ sessions other = some two := by
  by_cases same : other = id
  · subst same
    rw [Function.update_self] at found
    exact .inl ⟨rfl, found⟩
  · rw [Function.update_of_ne same] at found
    exact .inr ⟨same, found⟩

/-- What holds of every session. -/
theorem each_update {holds : Session → Prop} {sessions : ℕ → Option Session} {id : ℕ}
    {session : Option Session} (mine : ∀ one, session = some one → holds one)
    (others : ∀ other two, other ≠ id → sessions other = some two → holds two) (other : ℕ)
    (two : Session) (found : Function.update sessions id session other = some two) : holds two := by
  rcases update_cases found with ⟨_, isMine⟩ | ⟨different, isOther⟩
  · exact mine two isMine
  · exact others other two different isOther

/-- What holds between any two sessions. -/
theorem pairs_update {apart : Session → Session → Prop}
    (symmetric : ∀ one two, apart one two → apart two one) {sessions : ℕ → Option Session} {id : ℕ}
    {session : Option Session}
    (mine : ∀ one, session = some one → ∀ other two, other ≠ id → sessions other = some two →
      apart one two)
    (others : ∀ first second one two, first ≠ second → sessions first = some one →
      sessions second = some two → apart one two)
    (first second : ℕ) (one two : Session) (different : first ≠ second)
    (isOne : Function.update sessions id session first = some one)
    (isTwo : Function.update sessions id session second = some two) : apart one two := by
  rcases update_cases isOne with ⟨rfl, isMine⟩ | ⟨_, isFirst⟩
  · rcases update_cases isTwo with ⟨same, _⟩ | ⟨other, isSecond⟩
    · exact absurd same.symm different
    · exact mine one isMine second two other isSecond
  · rcases update_cases isTwo with ⟨rfl, isMine⟩ | ⟨_, isSecond⟩
    · exact symmetric two one (mine two isMine first one different isFirst)
    · exact others first second one two different isFirst isSecond

/-- A kind that no two items share has at most one item. -/
theorem filter_length_le_one {α : Type} {items : List α} {kind : α → Bool}
    (apart : items.Pairwise fun first second => ¬ (kind first = true ∧ kind second = true)) :
    (items.filter kind).length ≤ 1 := by
  have filtered := apart.filter kind
  have all : ∀ item ∈ items.filter kind, kind item = true :=
    fun item member => (List.mem_filter.mp member).2
  generalize items.filter kind = found at filtered all
  rcases found with _ | ⟨one, _ | ⟨other, rest⟩⟩
  · exact Nat.zero_le _
  · exact Nat.le_refl 1
  · have pair := (List.pairwise_cons.mp filtered).1 other List.mem_cons_self
    exact absurd ⟨all one List.mem_cons_self, all other (by simp)⟩ pair

/-- Items that are pairwise told apart by a label are determined by it. -/
theorem eq_of_label {α β : Type} {items : List α} {label : α → β}
    (distinct : items.Pairwise fun first second => label first ≠ label second) {one other : α}
    (first : one ∈ items) (second : other ∈ items) (same : label one = label other) :
    one = other := by
  by_contra apart
  have symmetric : Std.Symm fun left right : α => label left ≠ label right :=
    ⟨fun _ _ different => different.symm⟩
  exact distinct.forall first second apart same

end Vasi.Sessions
