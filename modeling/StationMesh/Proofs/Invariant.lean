import StationMesh.Action

/-!
# What an operation does to the state

An operation may end with an answer or with a cause, and in both cases it leaves a state behind.
`Moves step` says how that state is related to the one it started in, and `Keeps kept` that a
property of the state survives. Both pass from the parts of an operation to the whole.

`MovesUnless excused step` leaves out the operations that stop with an excused cause: nothing is
known of the state they leave. `Restores excused step` is what makes up for it: an operation after
which `step` holds whatever the state it started in.
-/

namespace StationMesh.Action

variable {σ τ ε η α β : Type} {step : σ → σ → Prop} {kept : σ → Prop}

/-- However the operation ends, it leaves a state that `step` relates to the one before. -/
def Moves (step : σ → σ → Prop) (action : Action σ ε α) : Prop :=
  ∀ state, step state (action.run state).2

/-- However the operation ends, a property of the state is kept. -/
def Keeps (kept : σ → Prop) (action : Action σ ε α) : Prop :=
  action.Moves fun state left => kept state → kept left

theorem moves_pure (refl : ∀ state, step state state) (value : α) :
    (pure value : Action σ ε α).Moves step := refl

theorem moves_throw (refl : ∀ state, step state state) (cause : ε) :
    (throw cause : Action σ ε α).Moves step := refl

theorem moves_get (refl : ∀ state, step state state) : (get : Action σ ε σ).Moves step := refl

theorem moves_modify {change : σ → σ} (moves : ∀ state, step state (change state)) :
    (modify change : Action σ ε PUnit).Moves step := moves

theorem Moves.bind {action : Action σ ε α} {next : α → Action σ ε β} (moves : action.Moves step)
    (trans : ∀ {first second third}, step first second → step second third → step first third)
    (nextMoves : ∀ value, (next value).Moves step) : (action >>= next).Moves step := by
  intro state
  have moved := moves state
  rw [run_bind]
  generalize action.run state = ended at moved
  rcases ended with ⟨cause | value, left⟩
  · exact moved
  · exact trans moved (nextMoves value left)

theorem Moves.imp {action : Action σ ε α} {wider : σ → σ → Prop} (moves : action.Moves step)
    (imp : ∀ {state left}, step state left → wider state left) : action.Moves wider :=
  fun state => imp (moves state)

/-- Two operations one after the other succeed if both do. -/
theorem exists_of_run_bind_eq_ok {action : Action σ ε α} {next : α → Action σ ε β}
    {state left : σ} {answer : β} (succeeded : (action >>= next).run state = (.ok answer, left)) :
    ∃ value middle, action.run state = (.ok value, middle) ∧
      (next value).run middle = (.ok answer, left) := by
  rw [run_bind] at succeeded
  generalize action.run state = ended at succeeded
  rcases ended with ⟨cause | value, middle⟩
  · simp at succeeded
  · exact ⟨value, middle, rfl, succeeded⟩

/-- Two operations one after the other fail if one of them does. -/
theorem error_of_run_bind {action : Action σ ε α} {next : α → Action σ ε β} {state : σ} {cause : ε}
    (failed : ((action >>= next).run state).1 = .error cause) :
    (action.run state).1 = .error cause ∨
      ∃ value middle, ((next value).run middle).1 = .error cause := by
  rw [run_bind] at failed
  generalize action.run state = ended at failed ⊢
  rcases ended with ⟨other | value, middle⟩
  · left
    simpa using failed
  · exact .inr ⟨value, middle, failed⟩

theorem keeps_pure (value : α) : (pure value : Action σ ε α).Keeps kept :=
  moves_pure (fun _ => id) value

theorem keeps_get : (get : Action σ ε σ).Keeps kept := moves_get fun _ => id

theorem Keeps.bind {action : Action σ ε α} {next : α → Action σ ε β}
    (keeps : action.Keeps kept) (nextKeeps : ∀ value, (next value).Keeps kept) :
    (action >>= next).Keeps kept :=
  Moves.bind keeps (fun first second holds => second (first holds)) nextKeeps

theorem Keeps.get_bind {next : σ → Action σ ε α} (keeps : ∀ state, (next state).Keeps kept) :
    (get >>= next).Keeps kept :=
  keeps_get.bind keeps

/-- After `get`, the state in hand is the state of the operation. -/
theorem keeps_get_bind {next : σ → Action σ ε α}
    (keeps : ∀ state, kept state → kept ((next state).run state).2) :
    (get >>= next).Keeps kept := by
  intro state holds
  rw [run_bind, run_get]
  exact keeps state holds

theorem Keeps.attempt {action : Action σ ε α} (keeps : action.Keeps kept) :
    (action.attempt : Action σ η _).Keeps kept := keeps

theorem Keeps.ite {condition : Prop} [Decidable condition] {action other : Action σ ε α}
    (keeps : action.Keeps kept) (otherKeeps : other.Keeps kept) :
    (if condition then action else other).Keeps kept := by
  split
  · exact keeps
  · exact otherKeeps

/-! ### Excused causes -/

variable {excused : ε → Prop}

/-- Started in this state, the operation stops with an excused cause. -/
def StopsExcused (excused : ε → Prop) (action : Action σ ε α) (state : σ) : Prop :=
  ∃ cause, (action.run state).1 = .error cause ∧ excused cause

/-- Unless it stops with an excused cause, the operation leaves a state that `step` relates to the
one before. -/
def MovesUnless (excused : ε → Prop) (step : σ → σ → Prop) (action : Action σ ε α) : Prop :=
  ∀ state, action.StopsExcused excused state ∨ step state (action.run state).2

/-- Unless it stops with an excused cause, the operation leaves a state that `step` relates to every
state, and so to the one before something went wrong. -/
def Restores (excused : ε → Prop) (step : σ → σ → Prop) (action : Action σ ε α) : Prop :=
  ∀ before, action.MovesUnless excused fun _ left => step before left

theorem Moves.unless {action : Action σ ε α} (moves : action.Moves step) :
    action.MovesUnless excused step :=
  fun state => .inr (moves state)

/-- With nothing excused, the operation leaves such a state however it ends. -/
theorem MovesUnless.moves {action : Action σ ε α}
    (moves : action.MovesUnless (fun _ => False) step) : action.Moves step := by
  intro state
  rcases moves state with ⟨_, _, isExcused⟩ | moved
  · exact isExcused.elim
  · exact moved

theorem restores_throw {cause : ε} (isExcused : excused cause) :
    (throw cause : Action σ ε α).Restores excused step :=
  fun _ _ => .inl ⟨cause, rfl, isExcused⟩

/-- An operation that succeeds did not stop. -/
theorem MovesUnless.of_ok {action : Action σ ε α} (moves : action.MovesUnless excused step)
    {state left : σ} {answer : α} (succeeded : action.run state = (.ok answer, left)) :
    step state left := by
  have moved := moves state
  rw [StopsExcused, succeeded] at moved
  rcases moved with ⟨_, stopped, _⟩ | moved
  · contradiction
  · exact moved

theorem MovesUnless.bind {action : Action σ ε α} {next : α → Action σ ε β}
    {former latter : σ → σ → Prop} (moves : action.MovesUnless excused former)
    (trans : ∀ {first second third}, former first second → latter second third → former first third)
    (nextMoves : ∀ value, (next value).MovesUnless excused latter) :
    (action >>= next).MovesUnless excused former := by
  intro state
  have moved := moves state
  unfold StopsExcused at moved ⊢
  rw [run_bind]
  generalize action.run state = ended at moved
  rcases ended with ⟨cause | value, left⟩
  · simpa using moved
  · rcases moved with ⟨cause, stopped, _⟩ | moved
    · contradiction
    · exact (nextMoves value left).imp id (trans moved)

theorem Restores.bind {action : Action σ ε α} {next : α → Action σ ε β}
    (restores : action.Restores excused step)
    (trans : ∀ {first second third}, step first second → step second third → step first third)
    (nextMoves : ∀ value, (next value).MovesUnless excused step) :
    (action >>= next).Restores excused step :=
  fun before => (restores before).bind trans nextMoves

/-- A caller that goes on after an excused cause has to restore the state. -/
theorem MovesUnless.attempt_bind {action : Action σ η α} {excusedFirst : η → Prop}
    {next : Except η α → Action σ ε β} (moves : action.MovesUnless excusedFirst step)
    (trans : ∀ {first second third}, step first second → step second third → step first third)
    (afterOk : ∀ value, (next (.ok value)).MovesUnless excused step)
    (afterError : ∀ cause, ¬excusedFirst cause → (next (.error cause)).MovesUnless excused step)
    (afterExcused : ∀ cause, excusedFirst cause → (next (.error cause)).Restores excused step) :
    (action.attempt >>= next).MovesUnless excused step := by
  intro state
  have moved := moves state
  unfold StopsExcused at moved ⊢
  rw [run_bind, run_attempt]
  generalize action.run state = ended at moved
  rcases ended with ⟨cause | value, left⟩
  · by_cases isExcused : excusedFirst cause
    · exact afterExcused cause isExcused state left
    · rcases moved with ⟨other, stopped, otherExcused⟩ | moved
      · cases stopped
        contradiction
      · exact (afterError cause isExcused left).imp id (trans moved)
  · rcases moved with ⟨cause, stopped, _⟩ | moved
    · contradiction
    · exact (afterOk value left).imp id (trans moved)

/-- After `get`, the state in hand is the state of the operation. -/
theorem movesUnless_get_bind {next : σ → Action σ ε α}
    (moves : ∀ state, (next state).StopsExcused excused state ∨
      step state ((next state).run state).2) :
    (get >>= next).MovesUnless excused step := by
  intro state
  rw [StopsExcused, run_bind, run_get]
  exact moves state

theorem moved_of_set_bind {state changed : σ} {next : PUnit → Action σ ε α}
    (trans : ∀ {first second third}, step first second → step second third → step first third)
    (moved : step state changed) (nextMoves : (next ⟨⟩).MovesUnless excused step) :
    (set changed >>= next).StopsExcused excused state ∨
      step state ((set changed >>= next).run state).2 := by
  rw [StopsExcused, run_bind, run_set]
  exact (nextMoves changed).imp id (trans moved)

/-- What an operation does to a part of the state, it does to the whole. -/
theorem MovesUnless.zoom {action : Action τ η α} {part : σ → τ} {replace : σ → τ → σ}
    {wrap : η → ε} {excusedPart : η → Prop} {stepPart : τ → τ → Prop}
    (moves : action.MovesUnless excusedPart stepPart)
    (wraps : ∀ cause, excusedPart cause → excused (wrap cause))
    (replaced : ∀ state left, stepPart (part state) left → step state (replace state left)) :
    (action.zoom part replace wrap).MovesUnless excused step := by
  intro state
  rw [StopsExcused, run_zoom]
  rcases moves (part state) with ⟨cause, stopped, isExcused⟩ | moved
  · left
    rw [stopped]
    exact ⟨wrap cause, rfl, wraps cause isExcused⟩
  · right
    exact replaced state _ moved

theorem MovesUnless.ite {condition : Prop} [Decidable condition] {action other : Action σ ε α}
    (moves : action.MovesUnless excused step) (otherMoves : other.MovesUnless excused step) :
    (if condition then action else other).MovesUnless excused step := by
  split
  · exact moves
  · exact otherMoves

end StationMesh.Action
