import StationMesh.Action

/-!
# Operations that do the same on two kinds of state

An operation mirrors another one along a function between their states if it answers the same and
leaves the image of what the other leaves. A state that holds more, such as a record of what was
done, is related to the state without it in this way.
-/

namespace StationMesh.Action

variable {σ τ σ' τ' ε η α β : Type} {image : σ → τ}

/-- Started in the image of a state, `other` answers the same and leaves the image of the state that
is left. -/
def Mirrors (image : σ → τ) (action : Action σ ε α) (other : Action τ ε α) : Prop :=
  ∀ state, other.run (image state) = ((action.run state).1, image (action.run state).2)

theorem mirrors_pure (value : α) :
    Mirrors image (pure value : Action σ ε α) (pure value) :=
  fun _ => rfl

theorem mirrors_throw (cause : ε) :
    Mirrors image (throw cause : Action σ ε α) (throw cause) :=
  fun _ => rfl

theorem mirrors_set (state : σ) :
    Mirrors image (set state : Action σ ε PUnit) (set (image state)) :=
  fun _ => rfl

theorem mirrors_modify {change : σ → σ} {other : τ → τ}
    (commutes : ∀ state, other (image state) = image (change state)) :
    Mirrors image (modify change : Action σ ε PUnit) (modify other) := by
  intro state
  simp [commutes]

theorem Mirrors.bind {action : Action σ ε α} {other : Action τ ε α} {next : α → Action σ ε β}
    {otherNext : α → Action τ ε β} (mirrors : Mirrors image action other)
    (nextMirrors : ∀ value, Mirrors image (next value) (otherNext value)) :
    Mirrors image (action >>= next) (other >>= otherNext) := by
  intro state
  rw [run_bind, run_bind, mirrors state]
  rcases action.run state with ⟨cause | value, left⟩
  · rfl
  · exact nextMirrors value left

/-- What is read off the two states is a state and its image. -/
theorem mirrors_get_bind {next : σ → Action σ ε α} {otherNext : τ → Action τ ε α}
    (mirrors : ∀ state, Mirrors image (next state) (otherNext (image state))) :
    Mirrors image (get >>= next) (get >>= otherNext) := by
  intro state
  rw [run_bind, run_bind, run_get, run_get]
  exact mirrors state state

theorem Mirrors.attempt {action : Action σ ε α} {other : Action τ ε α}
    (mirrors : Mirrors image action other) :
    Mirrors image (action.attempt : Action σ η _) other.attempt := by
  intro state
  rw [run_attempt, run_attempt, mirrors state]

theorem Mirrors.ite {condition : Prop} [Decidable condition] {first second : Action σ ε α}
    {otherFirst otherSecond : Action τ ε α} (mirrors : Mirrors image first otherFirst)
    (otherwise : Mirrors image second otherSecond) :
    Mirrors image (if condition then first else second)
      (if condition then otherFirst else otherSecond) := by
  split
  · exact mirrors
  · exact otherwise

/-- What an operation mirrors on a part of the state, it mirrors on the whole. -/
theorem Mirrors.zoom {action : Action σ' ε α} {other : Action τ' ε α} {imagePart : σ' → τ'}
    {part : σ → σ'} {replace : σ → σ' → σ} {otherPart : τ → τ'} {otherReplace : τ → τ' → τ}
    {wrap : ε → η} (mirrors : Mirrors imagePart action other)
    (parts : ∀ state, otherPart (image state) = imagePart (part state))
    (replaces : ∀ state left,
      otherReplace (image state) (imagePart left) = image (replace state left)) :
    Mirrors image (action.zoom part replace wrap) (other.zoom otherPart otherReplace wrap) := by
  intro state
  rw [run_zoom, run_zoom, parts, mirrors (part state), replaces]

end StationMesh.Action
