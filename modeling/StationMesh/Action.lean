/-!
# Fallible computations over a state

Radios, controllers and stations are long-lived values on which operations are carried out
one after the other. An operation may stop with a cause, and what it did to the state up to
that point stays done: a frame taken from a queue is gone even if sending it fails.

`Action σ ε α` is such an operation. `Action.run` opens it, and the lemmas below say what the
building blocks do to the answer and to the state, so that a proof follows an operation line by
line without looking inside the monad.
-/

namespace StationMesh

/-- An operation on a state of type `σ` that answers an `α` or stops with a cause `ε`. -/
abbrev Action (σ ε α : Type) := ExceptT ε (StateM σ) α

namespace Action

variable {σ τ ε η α β : Type}

/-- The operation given by a function from the state to an answer and the next state. -/
@[inline]
def of (step : σ → Except ε α × σ) : Action σ ε α :=
  ExceptT.mk (fun state => step state)

/-- The answer of an operation started in `state`, and the state it leaves. -/
@[inline]
def run (action : Action σ ε α) (state : σ) : Except ε α × σ :=
  StateT.run (ExceptT.run action) state

/-- Carries out an operation and answers how it ended, so that the caller decides what follows. -/
@[inline]
def attempt (action : Action σ ε α) : Action σ η (Except ε α) :=
  of fun state => ((.ok (action.run state).1), (action.run state).2)

/-- An operation on a part of the state; `wrap` names its causes in terms of the whole. -/
@[inline]
def zoom (part : σ → τ) (replace : σ → τ → σ) (wrap : ε → η) (action : Action τ ε α) :
    Action σ η α :=
  of fun state =>
    let (answer, left) := action.run (part state)
    (answer.mapError wrap, replace state left)

@[simp]
theorem run_of (step : σ → Except ε α × σ) (state : σ) :
    (of step).run state = step state := rfl

@[simp]
theorem run_pure (value : α) (state : σ) :
    (pure value : Action σ ε α).run state = (.ok value, state) := rfl

@[simp]
theorem run_throw (cause : ε) (state : σ) :
    (throw cause : Action σ ε α).run state = (.error cause, state) := rfl

theorem run_bind (action : Action σ ε α) (next : α → Action σ ε β) (state : σ) :
    (action >>= next).run state =
      match action.run state with
      | (.ok value, left) => (next value).run left
      | (.error cause, left) => (.error cause, left) := by
  change (match action.run state with
    | (answer, left) => (ExceptT.bindCont next answer : StateM σ _) left) = _
  rcases action.run state with ⟨_ | _, _⟩ <;> rfl

theorem run_bind_ok {action : Action σ ε α} {next : α → Action σ ε β} {state left : σ}
    {value : α} (answered : action.run state = (.ok value, left)) :
    (action >>= next).run state = (next value).run left := by
  rw [run_bind, answered]

theorem run_bind_error {action : Action σ ε α} {next : α → Action σ ε β} {state left : σ}
    {cause : ε} (stopped : action.run state = (.error cause, left)) :
    (action >>= next).run state = (.error cause, left) := by
  rw [run_bind, stopped]

theorem run_map (answer : α → β) (action : Action σ ε α) (state : σ) :
    (answer <$> action).run state = ((action.run state).1.map answer, (action.run state).2) := by
  rw [map_eq_pure_bind, run_bind]
  rcases action.run state with ⟨_ | _, _⟩ <;> rfl

@[simp]
theorem run_get (state : σ) : (get : Action σ ε σ).run state = (.ok state, state) := rfl

@[simp]
theorem run_set (next state : σ) : (set next : Action σ ε PUnit).run state = (.ok ⟨⟩, next) := rfl

@[simp]
theorem run_modify (change : σ → σ) (state : σ) :
    (modify change : Action σ ε PUnit).run state = (.ok ⟨⟩, change state) := rfl

@[simp]
theorem run_attempt (action : Action σ ε α) (state : σ) :
    (action.attempt : Action σ η _).run state =
      (.ok (action.run state).1, (action.run state).2) := rfl

@[simp]
theorem run_zoom (part : σ → τ) (replace : σ → τ → σ) (wrap : ε → η) (action : Action τ ε α)
    (state : σ) :
    (action.zoom part replace wrap).run state =
      ((action.run (part state)).1.mapError wrap, replace state (action.run (part state)).2) := rfl

end Action

end StationMesh
