import StationMesh.Radio.Bench

/-!
# Radios whose calls are written down

Around any radio one can put a radio that does the same and writes down each call that can fail,
with how it ended. What was on air is read off that record: a frame was if the call that sends it
succeeded. After a frame was sent the radio is put back into its idle state, and this can fail when
the frame is already on air.
-/

namespace StationMesh.Radio

/-- A call that can fail, and how it ended. -/
structure Entry where
  kind : CallKind
  succeeded : Bool
deriving DecidableEq, Repr

/-- The call puts a radio into an idle state. -/
def CallKind.arms : CallKind → Bool
  | listen | dutyCycle | sleep => true
  | bringUp | transmit | read | probe => false

namespace Entry

/-- A frame went on air. -/
def aired : Entry := { kind := .transmit, succeeded := true }

/-- The radio could not be put into an idle state. -/
def Unarmed (entry : Entry) : Prop := entry.kind.arms ∧ ¬entry.succeeded

instance (entry : Entry) : Decidable entry.Unarmed := inferInstanceAs (Decidable (_ ∧ _))

theorem ne_aired {kind : CallKind} (ne : kind ≠ .transmit) (succeeded : Bool) :
    { kind, succeeded } ≠ aired := by
  rintro ⟨⟩
  contradiction

end Entry

/-- How many frames went on air. -/
def airings (calls : List Entry) : Nat := calls.count .aired

/-- How many frames went on air of a radio that could not be put back into its idle state. -/
def lapses : List Entry → Nat
  | first :: second :: rest =>
      (if first = .aired ∧ second.Unarmed then 1 else 0) + lapses (second :: rest)
  | [_] | [] => 0

/-! ### Counting -/

@[simp]
theorem airings_nil : airings [] = 0 := rfl

@[simp]
theorem lapses_nil : lapses [] = 0 := rfl

@[simp]
theorem airings_append (former latter : List Entry) :
    airings (former ++ latter) = airings former + airings latter :=
  List.count_append

theorem lapses_cons_of_ne {entry : Entry} (ne : entry ≠ .aired) (calls : List Entry) :
    lapses (entry :: calls) = lapses calls := by
  cases calls with
  | nil => rfl
  | cons second rest => simp [lapses, ne]

/-- The first call, if there is one, does not fail to put the radio into an idle state. -/
def Opens (calls : List Entry) : Prop := ∀ entry ∈ calls.head?, ¬entry.Unarmed

theorem opens_nil : Opens [] := by simp [Opens]

theorem opens_cons_iff {entry : Entry} {calls : List Entry} :
    Opens (entry :: calls) ↔ ¬entry.Unarmed := by
  simp [Opens]

theorem Opens.append {former latter : List Entry} (opens : Opens former) (others : Opens latter) :
    Opens (former ++ latter) := by
  cases former with
  | nil => exact others
  | cons entry former => exact opens

/-- No frame lapses between two records of which the latter does not open with a failure. -/
theorem lapses_append {latter : List Entry} (opens : Opens latter) (former : List Entry) :
    lapses (former ++ latter) = lapses former + lapses latter := by
  induction former with
  | nil => simp
  | cons first former ih =>
      cases former with
      | nil =>
          cases latter with
          | nil => rfl
          | cons entry latter => simp [lapses, opens_cons_iff.mp opens]
      | cons second former =>
          simp only [List.cons_append, lapses] at ih ⊢
          omega

/-- No frame went on air. -/
def Unaired (calls : List Entry) : Prop := .aired ∉ calls

theorem unaired_nil : Unaired [] := by simp [Unaired]

theorem unaired_singleton {entry : Entry} (ne : entry ≠ .aired) : Unaired [entry] := by
  simpa [Unaired] using ne.symm

theorem Unaired.append {former latter : List Entry} (unaired : Unaired former)
    (others : Unaired latter) : Unaired (former ++ latter) := by
  intro mem
  rcases List.mem_append.mp mem with mem | mem
  · exact unaired mem
  · exact others mem

theorem Unaired.airings_eq_zero {calls : List Entry} (unaired : Unaired calls) :
    airings calls = 0 :=
  List.count_eq_zero.mpr unaired

theorem lapses_append_of_unaired {former : List Entry} (unaired : Unaired former)
    (latter : List Entry) : lapses (former ++ latter) = lapses latter := by
  induction former with
  | nil => rfl
  | cons entry former ih =>
      have apart : entry ≠ .aired ∧ Unaired former := by
        simpa [Unaired, eq_comm] using unaired
      rw [List.cons_append, lapses_cons_of_ne apart.1]
      exact ih apart.2

theorem Unaired.lapses_eq_zero {calls : List Entry} (unaired : Unaired calls) :
    lapses calls = 0 := by
  have counted := lapses_append_of_unaired unaired []
  rwa [List.append_nil, lapses_nil] at counted

/-! ### The radio -/

/-- A radio with the record of its calls, the oldest first. -/
structure Traced (ρ : Type) where
  radio : ρ
  trace : List Entry := []

namespace Traced

variable {ρ α : Type}

/-- Carries out a call and writes down how it ended. -/
def record (kind : CallKind) (operation : Operation ρ α) : Operation (Traced ρ) α :=
  .of fun traced =>
    let (answer, radio) := operation.run traced.radio
    (answer, { radio, trace := traced.trace ++ [{ kind, succeeded := answer.isOk }] })

/-- Changes the radio by what cannot fail. -/
def adjust (change : ρ → ρ) (traced : Traced ρ) : Traced ρ :=
  { traced with radio := change traced.radio }

instance [Timed ρ] : Timed (Traced ρ) where
  bringUp := record .bringUp Device.bringUp
  transmit data := record .transmit (Device.transmit data)
  read room := record .read (Device.read room)
  probe := record .probe Device.probe
  listen := record .listen Device.listen
  dutyCycle := record .dutyCycle Device.dutyCycle
  sleep := record .sleep Device.sleep
  setPreamble side length := adjust (Device.setPreamble side length)
  attend := adjust Device.attend
  signal traced := Device.signal traced.radio
  acknowledge := adjust Device.acknowledge
  now traced := Timed.now traced.radio
  waitUntil time := adjust (Timed.waitUntil time)
  horizon traced := Timed.horizon traced.radio

theorem run_record (kind : CallKind) (operation : Operation ρ α) (traced : Traced ρ) :
    (record kind operation).run traced =
      ((operation.run traced.radio).1,
        { radio := (operation.run traced.radio).2
          trace :=
            traced.trace ++ [{ kind, succeeded := (operation.run traced.radio).1.isOk }] }) :=
  rfl

end Traced

end StationMesh.Radio
