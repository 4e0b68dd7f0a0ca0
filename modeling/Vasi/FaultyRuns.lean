import Mathlib.Data.List.Basic

/-!
# Runs that can fail at every step

A program works on a state in single steps. Whatever befalls a step is chosen from outside:
it can be refused, it can take effect and be reported as failed all the same, or the whole
run can end right before it. A program can clean up behind itself whether it has returned or
thrown, but not when the run has ended. The rules below follow a program from step to step
and say in which states it can come to its end.
-/
namespace Vasi.FaultyRuns

/-- What befalls a step. -/
inductive Fault (Error : Type) where
  | refuses (error : Error)
  | breaks (error : Error)
  | crashes

/-- How a run ends: with a value, with an error, in the middle of a step, or not at all. -/
inductive Outcome (Error Value : Type) where
  | returned (value : Value)
  | threw (error : Error)
  | crashed
  | endless
deriving DecidableEq

variable {State Error Value Other : Type}

variable (State Error) in
/-- The state and what befalls the steps to come. -/
structure World where
  state : State
  faults : ℕ → Option (Fault Error)

variable (State Error Value) in
/-- A program. -/
def Run : Type := World State Error → Outcome Error Value × World State Error

namespace Run

def returns (value : Value) : Run State Error Value := fun world => (.returned value, world)

def throws (error : Error) : Run State Error Value := fun world => (.threw error, world)

def chain (run : Run State Error Value) (next : Value → Run State Error Other) :
    Run State Error Other := fun world =>
  match run world with
  | (.returned value, after) => next value after
  | (.threw error, after) => (.threw error, after)
  | (.crashed, after) => (.crashed, after)
  | (.endless, after) => (.endless, after)

instance : Monad (Run State Error) where
  pure := returns
  bind := chain

/-- A step, and what befalls it. -/
def perform (effect : State → Except Error Value × State) : Run State Error Value := fun world =>
  let later := fun place => world.faults (place + 1)
  match world.faults 0 with
  | none =>
      match effect world.state with
      | (.ok value, state) => (.returned value, ⟨state, later⟩)
      | (.error error, state) => (.threw error, ⟨state, later⟩)
  | some (.refuses error) => (.threw error, ⟨world.state, later⟩)
  | some (.breaks error) => (.threw error, ⟨(effect world.state).2, later⟩)
  | some .crashes => (.crashed, ⟨world.state, later⟩)

/-- A change of variables, which nothing befalls. -/
def assign (change : State → State) : Run State Error Unit := fun world =>
  (.returned (), ⟨change world.state, world.faults⟩)

/-- The state is looked at. -/
def look : Run State Error State := fun world => (.returned world.state, world)

/-- What has been computed. -/
def ofExcept (result : Except Error Value) : Run State Error Value :=
  match result with
  | .ok value => returns value
  | .error error => throws error

/-- A block with a final part, whose error replaces the result of the block. -/
def withFinally (body : Run State Error Value) (final : Run State Error Unit) :
    Run State Error Value := fun world =>
  match body world with
  | (.crashed, after) => (.crashed, after)
  | (.endless, after) => (.endless, after)
  | (outcome, after) =>
      match final after with
      | (.returned _, last) => (outcome, last)
      | (.threw error, last) => (.threw error, last)
      | (.crashed, last) => (.crashed, last)
      | (.endless, last) => (.endless, last)

/-- Errors are ignored. -/
def ignoring (run : Run State Error Unit) : Run State Error Unit := fun world =>
  match run world with
  | (.threw _, after) => (.returned (), after)
  | other => other

/-- No end within the rounds of a loop. -/
def neverEnds : Run State Error Value := fun world => (.endless, world)

/-! ## How runs end -/

/-- The end of a run lies in states that are told apart by how it is reached. -/
def Meets (post : Value → State → Prop) (thrown crashed : State → Prop) :
    Outcome Error Value × World State Error → Prop
  | (.returned value, after) => post value after.state
  | (.threw _, after) => thrown after.state
  | (.crashed, after) => crashed after.state
  | (.endless, _) => False

/-- From the states of a precondition a run ends as told, whatever befalls its steps. -/
def Ends (pre : State → Prop) (run : Run State Error Value) (post : Value → State → Prop)
    (thrown crashed : State → Prop) : Prop :=
  ∀ world, pre world.state → Meets post thrown crashed (run world)

variable {pre thrown crashed : State → Prop} {post : Value → State → Prop}

theorem ends_pure {value : Value} (holds : ∀ state, pre state → post value state) :
    Ends pre (pure value : Run State Error Value) post thrown crashed :=
  fun world start => holds world.state start

theorem ends_throws {error : Error} (holds : ∀ state, pre state → thrown state) :
    Ends pre (throws error : Run State Error Value) post thrown crashed :=
  fun world start => holds world.state start

theorem ends_look : Ends pre (look : Run State Error State)
    (fun found state => found = state ∧ pre state) thrown crashed :=
  fun _ start => ⟨rfl, start⟩

theorem ends_assign {change : State → State} {after : State → Prop}
    (holds : ∀ state, pre state → after (change state)) :
    Ends pre (assign change : Run State Error Unit) (fun _ => after) thrown crashed :=
  fun world start => holds world.state start

theorem ends_ofExcept {result : Except Error Value}
    (value : ∀ value, result = .ok value → ∀ state, pre state → post value state)
    (error : ∀ error, result = .error error → ∀ state, pre state → thrown state) :
    Ends pre (ofExcept result : Run State Error Value) post thrown crashed := by
  cases result with
  | ok own => exact fun world start => value own rfl world.state start
  | error own => exact fun world start => error own rfl world.state start

/-- One part of a program after the other. -/
theorem Ends.bind {run : Run State Error Value} {next : Value → Run State Error Other}
    {last : Other → State → Prop} (first : Ends pre run post thrown crashed)
    (second : ∀ value, Ends (post value) (next value) last thrown crashed) :
    Ends pre (run >>= next) last thrown crashed := by
  intro world start
  have ended := first world start
  change Meets last thrown crashed (chain run next world)
  unfold chain
  generalize run world = result at ended
  obtain ⟨outcome, after⟩ := result
  cases outcome with
  | returned value => exact second value after ended
  | threw error => exact ended
  | crashed => exact ended
  | endless => exact ended

/-- A step ends as it takes effect or fails, or before it. -/
theorem ends_perform {effect : State → Except Error Value × State}
    (refused : ∀ state, pre state → thrown state) (stopped : ∀ state, pre state → crashed state)
    (value : ∀ state value after, pre state → effect state = (.ok value, after) →
      post value after ∧ thrown after)
    (error : ∀ state error after, pre state → effect state = (.error error, after) →
      thrown after) :
    Ends pre (perform effect) post thrown crashed := by
  intro world start
  unfold perform
  dsimp only
  cases effected : effect world.state with
  | mk result after =>
      cases world.faults 0 with
      | none =>
          cases result with
          | ok own => exact (value _ own after start effected).1
          | error own => exact error _ own after start effected
      | some fault =>
          cases fault with
          | refuses own => exact refused world.state start
          | breaks own =>
              cases result with
              | ok found => exact (value _ found after start effected).2
              | error found => exact error _ found after start effected
          | crashes => exact stopped world.state start

/-- The final part runs after a value as after an error. -/
theorem Ends.withFinally {body : Run State Error Value} {final : Run State Error Unit}
    {last : Value → State → Prop} {failed between : State → Prop}
    (first : Ends pre body post between crashed)
    (returned : ∀ value, Ends (post value) final (fun _ => last value) failed crashed)
    (threw : Ends between final (fun _ => failed) failed crashed) :
    Ends pre (withFinally body final) last failed crashed := by
  intro world start
  have ended := first world start
  unfold Run.withFinally
  generalize body world = result at ended
  obtain ⟨outcome, after⟩ := result
  cases outcome with
  | returned value =>
      have cleaned := returned value after ended
      dsimp only
      generalize final after = result at cleaned
      obtain ⟨outcome, last⟩ := result
      cases outcome <;> exact cleaned
  | threw error =>
      have cleaned := threw after ended
      dsimp only
      generalize final after = result at cleaned
      obtain ⟨outcome, last⟩ := result
      cases outcome <;> exact cleaned
  | crashed => exact ended
  | endless => exact ended

theorem Ends.ignoring {run : Run State Error Unit} {after : State → Prop}
    (ends : Ends pre run (fun _ => after) after crashed) :
    Ends pre (ignoring run) (fun _ => after) thrown crashed := by
  intro world start
  have ended := ends world start
  unfold Run.ignoring
  generalize run world = result at ended
  obtain ⟨outcome, last⟩ := result
  cases outcome <;> exact ended

/-- Stronger before, weaker after. -/
theorem Ends.weaken {run : Run State Error Value} {before : State → Prop}
    {weaker : Value → State → Prop} {failed stopped : State → Prop}
    (ends : Ends pre run post thrown crashed) (starts : ∀ state, before state → pre state)
    (value : ∀ value state, post value state → weaker value state)
    (error : ∀ state, thrown state → failed state)
    (crash : ∀ state, crashed state → stopped state) :
    Ends before run weaker failed stopped := by
  intro world start
  have ended := ends world (starts world.state start)
  generalize run world = result at ended ⊢
  obtain ⟨outcome, after⟩ := result
  cases outcome with
  | returned own => exact value own _ ended
  | threw own => exact error _ ended
  | crashed => exact crash _ ended
  | endless => exact ended

/-- A fact that holds whenever a run starts may be assumed of it. -/
theorem Ends.assuming {run : Run State Error Value} {fact : Prop} {before : State → Prop}
    (known : ∀ state, before state → fact ∧ pre state)
    (ends : fact → Ends pre run post thrown crashed) : Ends before run post thrown crashed :=
  fun world start => ends (known world.state start).1 world (known world.state start).2

/-! ## Runs that return -/

/-- From the states of a precondition a run that returns ends as told. -/
def Returns (pre : State → Prop) (run : Run State Error Value) (post : Value → State → Prop) :
    Prop :=
  ∀ world value after, pre world.state → run world = (.returned value, after) →
    post value after.state

theorem returns_pure {value : Value} (holds : ∀ state, pre state → post value state) :
    Returns pre (pure value : Run State Error Value) post := by
  rintro world found after start done
  obtain ⟨same, rfl⟩ := Prod.mk.inj done
  exact Outcome.returned.inj same ▸ holds world.state start

theorem returns_throws {error : Error} : Returns pre (throws error : Run State Error Value) post := by
  rintro world found after start done
  cases (Prod.mk.inj done).1

theorem returns_neverEnds : Returns pre (neverEnds : Run State Error Value) post := by
  rintro world found after start done
  cases (Prod.mk.inj done).1

theorem returns_assign {change : State → State} {after : State → Prop}
    (holds : ∀ state, pre state → after (change state)) :
    Returns pre (assign change : Run State Error Unit) (fun _ => after) := by
  rintro world found last start done
  obtain ⟨-, rfl⟩ := Prod.mk.inj done
  exact holds world.state start

theorem returns_look : Returns pre (look : Run State Error State)
    (fun found state => found = state ∧ pre state) := by
  rintro world found after start done
  obtain ⟨same, rfl⟩ := Prod.mk.inj done
  exact ⟨(Outcome.returned.inj same).symm, start⟩

theorem returns_ofExcept {result : Except Error Value}
    (value : ∀ value, result = .ok value → ∀ state, pre state → post value state) :
    Returns pre (ofExcept result : Run State Error Value) post := by
  cases result with
  | ok own => exact returns_pure (value own rfl)
  | error own => exact returns_throws

theorem Returns.bind {run : Run State Error Value} {next : Value → Run State Error Other}
    {last : Other → State → Prop} (first : Returns pre run post)
    (second : ∀ value, Returns (post value) (next value) last) :
    Returns pre (run >>= next) last := by
  intro world found after start done
  change chain run next world = _ at done
  unfold chain at done
  split at done
  · rename_i value between ended
    exact second value _ found after (first world value between start ended) done
  all_goals cases (Prod.mk.inj done).1

/-- A step that returns has taken effect. -/
theorem returns_perform {effect : State → Except Error Value × State}
    (value : ∀ state value after, pre state → effect state = (.ok value, after) →
      post value after) :
    Returns pre (perform effect) post := by
  intro world found after start done
  unfold perform at done
  dsimp only at done
  split at done
  · split at done
    · rename_i own state effected
      obtain ⟨same, rfl⟩ := Prod.mk.inj done
      exact Outcome.returned.inj same ▸ value _ own state start effected
    · cases (Prod.mk.inj done).1
  all_goals cases (Prod.mk.inj done).1

/-- What a block has returned is returned when its final part has returned as well. -/
theorem Returns.withFinally {body : Run State Error Value} {final : Run State Error Unit}
    {last : Value → State → Prop} (first : Returns pre body post)
    (second : ∀ value, Returns (post value) final (fun _ => last value)) :
    Returns pre (withFinally body final) last := by
  intro world found after start done
  unfold Run.withFinally at done
  generalize ended : body world = result at done
  obtain ⟨outcome, between⟩ := result
  cases outcome with
  | returned value =>
      dsimp only at done
      generalize cleaned : final between = result at done
      obtain ⟨outcome, end'⟩ := result
      cases outcome with
      | returned _ =>
          obtain ⟨same, rfl⟩ := Prod.mk.inj done
          exact Outcome.returned.inj same ▸ second value _ _ _ (first world value _ start ended)
            cleaned
      | _ => cases (Prod.mk.inj done).1
  | threw error =>
      dsimp only at done
      generalize final between = result at done
      obtain ⟨outcome, last⟩ := result
      cases outcome <;> cases (Prod.mk.inj done).1
  | crashed => cases (Prod.mk.inj done).1
  | endless => cases (Prod.mk.inj done).1

/-- A fact that holds whenever a run starts may be assumed of it. -/
theorem Returns.assuming {run : Run State Error Value} {fact : Prop} {before : State → Prop}
    (known : ∀ state, before state → fact ∧ pre state) (returns : fact → Returns pre run post) :
    Returns before run post :=
  fun world value after start done =>
    returns (known world.state start).1 world value after (known world.state start).2 done

end Run

end Vasi.FaultyRuns
