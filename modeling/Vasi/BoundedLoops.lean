import Mathlib.Data.Nat.Init

/-!
# Loops with a measure

A loop is a round, taken again and again until one gives a result, together with a
measure that every round but the last lessens. Such a loop ends, and it can be run
as a function. What its rounds keep, it keeps; what holds between the rounds of two
runs holds between their results.
-/
namespace Vasi.BoundedLoops

/-- What one round leads to. -/
inductive Round (State Result : Type) where
  | again (state : State)
  | done (result : Result)

variable {State Result : Type}

/-- The result of a loop within a number of rounds. -/
def within (round : State → Round State Result) : ℕ → State → Option Result
  | 0, _ => none
  | allowed + 1, state =>
      match round state with
      | .again next => within round allowed next
      | .done result => some result

/-- A loop whose rounds lessen a measure. -/
structure Loop (State Result : Type) where
  round : State → Round State Result
  measure : State → ℕ
  lessens : ∀ {state next : State}, round state = .again next → measure next < measure state

namespace Loop

/-- A loop ends within more rounds than its measure. -/
theorem within_isSome (loop : Loop State Result) {allowed : ℕ} {state : State}
    (enough : loop.measure state < allowed) : (within loop.round allowed state).isSome := by
  induction allowed generalizing state with
  | zero => exact absurd enough (Nat.not_lt_zero _)
  | succ allowed inductionHypothesis =>
      rw [within]
      cases taken : loop.round state with
      | again next =>
          have less := loop.lessens taken
          exact inductionHypothesis (by omega)
      | done result => rfl

/-- The result of a loop. -/
def run (loop : Loop State Result) (state : State) : Result :=
  (within loop.round (loop.measure state + 1) state).get
    (loop.within_isSome (Nat.lt_succ_self _))

/-- More rounds than needed make no difference. -/
theorem within_mono {round : State → Round State Result} {fewer more : ℕ} {state : State}
    {result : Result} (enough : fewer ≤ more) (ended : within round fewer state = some result) :
    within round more state = some result := by
  induction fewer generalizing more state with
  | zero => cases ended
  | succ fewer inductionHypothesis =>
      obtain ⟨more, rfl⟩ : ∃ smaller, more = smaller + 1 := ⟨more - 1, by omega⟩
      rw [within] at ended ⊢
      cases taken : round state with
      | again next =>
          rw [taken] at ended
          exact inductionHypothesis (by omega) ended
      | done result =>
          rw [taken] at ended
          exact ended

/-- A loop has its result after as many rounds as its measure tells, and after any
larger number. -/
theorem within_run (loop : Loop State Result) {allowed : ℕ} {state : State}
    (enough : loop.measure state < allowed) :
    within loop.round allowed state = some (loop.run state) :=
  within_mono enough (Option.some_get _).symm

/-- A loop is its first round, followed by the loop. -/
theorem run_eq (loop : Loop State Result) (state : State) :
    loop.run state =
      match loop.round state with
      | .again next => loop.run next
      | .done result => result := by
  have ended := loop.within_run (Nat.lt_succ_self (loop.measure state))
  rw [within] at ended
  cases taken : loop.round state with
  | again next =>
      rw [taken] at ended
      exact Option.some.inj (ended.symm.trans (loop.within_run (loop.lessens taken)))
  | done result =>
      rw [taken] at ended
      exact (Option.some.inj ended).symm

/-- What holds at the start and is kept by every round holds at the last one. -/
theorem run_rule (loop : Loop State Result) (invariant : State → Prop) {post : Result → Prop}
    (keeps : ∀ state next, invariant state → loop.round state = .again next → invariant next)
    (ends : ∀ state result, invariant state → loop.round state = .done result → post result)
    {state : State} (start : invariant state) : post (loop.run state) := by
  generalize bound : loop.measure state = size
  induction size using Nat.strong_induction_on generalizing state with
  | h size inductionHypothesis =>
      rw [run_eq]
      cases taken : loop.round state with
      | again next =>
          have less : loop.measure next < size := bound ▸ loop.lessens taken
          exact inductionHypothesis _ less (keeps state next start taken) rfl
      | done result => exact ends state result start taken

/-- Two rounds end alike, or both go on. -/
inductive Alike (related : State → State → Prop) : Round State Result → Round State Result → Prop
  | again {first second : State} (between : related first second) :
      Alike related (.again first) (.again second)
  | done (result : Result) : Alike related (.done result) (.done result)

/-- Starts between which every round is alike lead to the same result. -/
theorem run_same (loop : Loop State Result) (related : State → State → Prop)
    (alike : ∀ first second, related first second →
      Alike related (loop.round first) (loop.round second))
    {first second : State} (start : related first second) : loop.run first = loop.run second := by
  generalize bound : loop.measure first = size
  induction size using Nat.strong_induction_on generalizing first second with
  | h size inductionHypothesis =>
      have rounds := alike first second start
      rw [run_eq loop first, run_eq loop second]
      cases taken : loop.round first with
      | again next =>
          rw [taken] at rounds
          cases other : loop.round second with
          | again otherNext =>
              rw [other] at rounds
              cases rounds with
              | again between =>
                  exact inductionHypothesis _ (bound ▸ loop.lessens taken) between rfl
          | done result =>
              rw [other] at rounds
              cases rounds
      | done result =>
          rw [taken] at rounds
          generalize loop.round second = answered at rounds
          cases rounds
          rfl

end Loop

end Vasi.BoundedLoops
