import StationMesh.Proofs.Channel.Servicing
import StationMesh.Proofs.Radio.Traced

/-!
# What a transmission leaves in the record of the calls

While the controller waits for the channel nothing is sent, and the first it does is to probe. So a
transmission shows as at most one frame on air. It fails either with no frame on air, or because
the radio could not be put back into its idle state behind the frame.
-/

namespace StationMesh.Channel.Controller

open Radio StationMesh.Action

variable {ρ α β : Type} {first second third : Controller (Traced ρ)}

/-- The controller made these calls in between. -/
def Makes (made : List Entry → Prop) (before after : Controller (Traced ρ)) : Prop :=
  ∃ calls, after.radio.trace = before.radio.trace ++ calls ∧ made calls

/-- Nothing was sent in between. -/
abbrev SendsNothing : Controller (Traced ρ) → Controller (Traced ρ) → Prop := Makes Unaired

/-- Nothing was sent in between, and the first call was no failure to put the radio into its idle
state. -/
abbrev Prepares : Controller (Traced ρ) → Controller (Traced ρ) → Prop :=
  Makes fun calls => Unaired calls ∧ Opens calls

theorem makes_of_trace_eq {made : List Entry → Prop} (none : made [])
    (trace_eq : second.radio.trace = first.radio.trace) : Makes made first second :=
  ⟨[], by rw [trace_eq, List.append_nil], none⟩

theorem Makes.trans {made others all : List Entry → Prop} (former : Makes made first second)
    (latter : Makes others second third)
    (append : ∀ {calls rest}, made calls → others rest → all (calls ++ rest)) :
    Makes all first third := by
  rcases former with ⟨calls, trace_eq, isMade⟩
  rcases latter with ⟨rest, rest_eq, isOther⟩
  refine ⟨calls ++ rest, ?_, append isMade isOther⟩
  rw [rest_eq, trace_eq, List.append_assoc]

theorem SendsNothing.trans (former : SendsNothing first second)
    (latter : SendsNothing second third) : SendsNothing first third :=
  Makes.trans former latter Unaired.append

theorem Prepares.trans (former : Prepares first second) (latter : Prepares second third) :
    Prepares first third :=
  Makes.trans former latter fun made others =>
    ⟨made.1.append others.1, made.2.append others.2⟩

/-! ### Calls that send nothing -/

theorem makes_record (kind : CallKind) (operation : Radio.Operation ρ α)
    (controller : Controller (Traced ρ)) :
    Makes (fun calls => ∃ succeeded, calls = [{ kind, succeeded }]) controller
      ((onRadio (Traced.record kind operation)).run controller).2 :=
  ⟨_, rfl, _, rfl⟩

variable [Timed ρ]

omit [Timed ρ] in
theorem sendsNothing_record {kind : CallKind} (ne : kind ≠ .transmit)
    (operation : Radio.Operation ρ α) :
    (onRadio (Traced.record kind operation)).Moves SendsNothing := by
  intro controller
  rcases makes_record kind operation controller with ⟨calls, trace_eq, succeeded, rfl⟩
  exact ⟨_, trace_eq, unaired_singleton (Entry.ne_aired ne _)⟩

theorem enters_sendsNothing : Enters (SendsNothing (ρ := ρ)) where
  refl _ := makes_of_trace_eq unaired_nil rfl
  trans := SendsNothing.trans
  note _ _ := makes_of_trace_eq unaired_nil rfl
  preset _ _ := makes_of_trace_eq unaired_nil rfl
  bringUp := sendsNothing_record (by decide) Device.bringUp
  listen := sendsNothing_record (by decide) Device.listen
  dutyCycle := sendsNothing_record (by decide) Device.dutyCycle
  sleep := sendsNothing_record (by decide) Device.sleep

theorem trace_heeded (traced : Traced ρ) : (heeded traced).trace = traced.trace := by
  simp only [heeded]
  split
  · rfl
  · rfl

theorem sendsNothing_read {room : Nat} {before after : Controller (Traced ρ)}
    {answer : Except DeviceError Reception} {radio : Traced ρ}
    (read : (Device.read room : Radio.Operation (Traced ρ) _).run
      (Device.attend before.radio) = (answer, radio))
    (trace_eq : after.radio.trace = radio.trace) : SendsNothing before after := by
  have silent : CallKind.read ≠ .transmit := by decide
  refine ⟨_, ?_, unaired_singleton (Entry.ne_aired silent answer.isOk)⟩
  rw [trace_eq]
  cases read
  rfl

theorem takes_sendsNothing : Takes (fun _ => False) (SendsNothing (ρ := ρ)) where
  refl := enters_sendsNothing.refl
  trans := SendsNothing.trans
  isFault := False.elim
  enterIdle := enters_sendsNothing.enterIdle.unless
  attend _ := makes_of_trace_eq unaired_nil rfl
  refused _ read := sendsNothing_read read rfl
  failed _ read _ _ := sendsNothing_read read (trace_heeded _)
  taken _ read _ _ := sendsNothing_read read (trace_heeded _)

theorem waits_sendsNothing : Waits (fun _ => False) (SendsNothing (ρ := ρ)) where
  toServes := takes_sendsNothing.serves
  wait _ _ := makes_of_trace_eq unaired_nil rfl
  draw _ _ := makes_of_trace_eq unaired_nil rfl
  record _ _ := makes_of_trace_eq unaired_nil rfl
  probe := (sendsNothing_record (by decide) Device.probe).unless

/-! ### The first call -/

omit [Timed ρ] in
/-- The first call is the one that the operation begins with. -/
theorem prepares_record_bind {kind : CallKind} (ne : kind ≠ .transmit) (armed : kind.arms = false)
    (operation : Radio.Operation ρ α) {next : α → Operation (Traced ρ) β}
    (nextSends : ∀ value, (next value).Moves SendsNothing) :
    (onRadio (Traced.record kind operation) >>= next).Moves Prepares := by
  intro controller
  have opens {succeeded : Bool} {rest : List Entry} :
      Opens ({ kind, succeeded } :: rest) := by
    simp [opens_cons_iff, Entry.Unarmed, armed]
  have made := makes_record kind operation controller
  rw [run_bind]
  generalize (onRadio (Traced.record kind operation)).run controller = ended at made ⊢
  rcases made with ⟨calls, trace_eq, succeeded, rfl⟩
  rcases ended with ⟨cause | value, left⟩
  · exact ⟨_, trace_eq, unaired_singleton (Entry.ne_aired ne _), opens⟩
  · refine Makes.trans ⟨_, trace_eq, rfl⟩ (nextSends value left) ?_
    rintro _ rest rfl unaired
    exact ⟨(unaired_singleton (Entry.ne_aired ne _)).append unaired, opens⟩

theorem prepares_reinitialize :
    (Controller.reinitialize : Operation (Traced ρ) Unit).Moves Prepares :=
  prepares_record_bind (by decide) rfl Device.bringUp fun _ => enters_sendsNothing.enterIdle

theorem prepares_contend (deadline fuel : Nat) :
    (contend deadline fuel false : Operation (Traced ρ) Unit).Moves Prepares := by
  cases fuel with
  | zero => exact fun _ => makes_of_trace_eq ⟨unaired_nil, opens_nil⟩ rfl
  | succ fuel =>
      simp only [contend, Bool.false_eq_true, if_false]
      apply prepares_record_bind (by decide) rfl Device.probe
      intro activity
      cases activity with
      | free => exact moves_pure enters_sendsNothing.refl ()
      | busy =>
          have now : (now : Operation (Traced ρ) Nat).Moves SendsNothing :=
            fun _ => makes_of_trace_eq unaired_nil rfl
          apply now.bind SendsNothing.trans
          intro time
          exact (waits_sendsNothing.awaitFree _ _).moves.bind SendsNothing.trans
            fun _ => (waits_sendsNothing.contend _ _ true).moves

theorem prepares_senseCarrier : (senseCarrier : Operation (Traced ρ) Nat).Moves Prepares := by
  have follows : Follows (fun _ => False) (Prepares (ρ := ρ)) :=
    { refl := fun _ => makes_of_trace_eq ⟨unaired_nil, opens_nil⟩ rfl
      trans := Prepares.trans
      isFault := False.elim }
  exact (follows.senseCarrier (fun _ _ => makes_of_trace_eq ⟨unaired_nil, opens_nil⟩ rfl)
    fun deadline fuel => (prepares_contend deadline fuel).unless).moves

/-! ### A transmission -/

theorem isOk_mapError {ε η : Type} (wrap : ε → η) (answer : Except ε α) :
    (answer.mapError wrap).isOk = answer.isOk := by
  cases answer with
  | ok _ => rfl
  | error _ => rfl

/-- The operation makes one call at most, which puts the radio into an idle state, and fails if that
call does. -/
def ArmsOnce (operation : Operation (Traced ρ) Unit) : Prop :=
  ∀ controller, Makes
    (fun calls => calls = [] ∧ (operation.run controller).1 = .ok () ∨
      ∃ kind, kind.arms = true ∧
        calls = [{ kind, succeeded := (operation.run controller).1.isOk }])
    controller (operation.run controller).2

omit [Timed ρ] in
theorem armsOnce_record {kind : CallKind} (arms : kind.arms = true)
    (operation : Radio.Operation ρ Unit) : ArmsOnce (onRadio (Traced.record kind operation)) := by
  intro controller
  refine ⟨[{ kind, succeeded := (operation.run controller.radio.radio).1.isOk }], rfl,
    .inr ⟨kind, arms, ?_⟩⟩
  rw [onRadio, run_zoom, isOk_mapError, Traced.run_record]

theorem armsOnce_enterIdle : ArmsOnce (enterIdle : Operation (Traced ρ) Unit) := by
  intro controller
  cases idle_eq : controller.idle with
  | uninitialized =>
      simp only [enterIdle, run_bind, run_get, idle_eq]
      exact makes_of_trace_eq (.inl ⟨rfl, rfl⟩) rfl
  | continuousReceive =>
      simp only [enterIdle, run_bind, run_get, idle_eq, adjust, run_modify]
      exact armsOnce_record rfl Device.listen { controller with radio := _ }
  | intermittentReceive =>
      simp only [enterIdle, run_bind, run_get, idle_eq, adjust, run_modify]
      exact armsOnce_record rfl Device.dutyCycle { controller with radio := _ }
  | sleep =>
      simp only [enterIdle, run_bind, run_get, idle_eq]
      exact armsOnce_record rfl Device.sleep controller

/-- How a transmission shows in the record: a frame went on air if it succeeded, and otherwise only
if the radio could not be put back into its idle state. -/
structure Shows (succeeded : Bool) (calls : List Entry) : Prop where
  opens : Opens calls
  airings_eq : airings calls = (if succeeded then 1 else 0) + lapses calls
  airings_le : airings calls ≤ 1

/-- Nothing went on air before the transmission failed. -/
theorem shows_of_unaired {calls : List Entry} (unaired : Unaired calls) (opens : Opens calls) :
    Shows false calls where
  opens := opens
  airings_eq := by simp [unaired.airings_eq_zero, unaired.lapses_eq_zero]
  airings_le := by simp [unaired.airings_eq_zero]

/-- The frame went on air, and the radio was put back or not. -/
theorem shows_of_aired {calls arming : List Entry} (unaired : Unaired calls) (opens : Opens calls)
    {answer : Except ChannelError Unit}
    (arms : arming = [] ∧ answer = .ok () ∨
      ∃ kind, kind.arms = true ∧ arming = [{ kind, succeeded := answer.isOk }]) :
    Shows answer.isOk (calls ++ .aired :: arming) := by
  have aired_opens : Opens (.aired :: arming) := opens_cons_iff.mpr (by decide)
  have counts : airings (.aired :: arming) = 1 ∧
      1 = (if answer.isOk then 1 else 0) + lapses (.aired :: arming) := by
    rcases arms with ⟨rfl, rfl⟩ | ⟨kind, arms, rfl⟩
    · exact ⟨rfl, rfl⟩
    · have ne : kind ≠ .transmit := by
        rintro rfl
        contradiction
      constructor
      · simp [airings, Entry.aired, ne]
      · cases answer with
        | ok _ => simp [lapses, Entry.Unarmed, Except.isOk, Except.toBool]
        | error _ => simp [lapses, Entry.Unarmed, Except.isOk, Except.toBool, arms]
  constructor
  · exact opens.append aired_opens
  · rw [airings_append, lapses_append aired_opens, unaired.airings_eq_zero,
      unaired.lapses_eq_zero]
    omega
  · rw [airings_append, unaired.airings_eq_zero]
    omega

/-- What is done when the channel is free shows behind the calls made while it was not. -/
theorem shows_send (data : Bytes) {calls : List Entry} (unaired : Unaired calls)
    (opens : Opens calls) {before controller : Controller (Traced ρ)}
    (trace_eq : controller.radio.trace = before.radio.trace ++ calls) :
    let ended := (onRadio (Device.transmit data) >>= fun _ => enterIdle).run controller
    Makes (Shows ended.1.isOk) before ended.2 := by
  have sent_eq : (onRadio (Device.transmit data)).run controller =
      (((Device.transmit data).run controller.radio.radio).1.mapError .driverFault,
        { controller with
          radio := ((Traced.record .transmit (Device.transmit data)).run controller.radio).2 }) :=
    rfl
  rw [run_bind, sent_eq, Traced.run_record]
  cases ((Device.transmit data).run controller.radio.radio).1 with
  | error cause =>
      have failed_opens : Opens [{ kind := .transmit, succeeded := false }] :=
        opens_cons_iff.mpr (by decide)
      refine ⟨calls ++ [{ kind := .transmit, succeeded := false }], ?_, ?_⟩
      · simp [Except.mapError, trace_eq, Except.isOk, Except.toBool]
      · exact shows_of_unaired (unaired.append (unaired_singleton (by decide)))
          (opens.append failed_opens)
  | ok _ =>
      refine Makes.trans ⟨calls ++ [.aired], ?_, rfl⟩ (armsOnce_enterIdle _) ?_
      · simp [trace_eq, Entry.aired, Except.isOk, Except.toBool]
      · rintro _ arming rfl arms
        rw [List.append_assoc]
        exact shows_of_aired unaired opens arms

theorem shows_transmit (data : Bytes) (preamble : Preamble) (controller : Controller (Traced ρ)) :
    Makes (Shows ((transmit data preamble).run controller).1.isOk) controller
      ((transmit data preamble).run controller).2 := by
  have sensed := prepares_senseCarrier controller
  rw [transmit, run_bind]
  generalize (senseCarrier : Operation (Traced ρ) Nat).run controller = ended at sensed ⊢
  rcases sensed with ⟨calls, trace_eq, unaired, opens⟩
  rcases ended with ⟨cause | delay, left⟩
  · exact ⟨calls, trace_eq, shows_of_unaired unaired opens⟩
  · exact shows_send data unaired opens trace_eq

end StationMesh.Channel.Controller
