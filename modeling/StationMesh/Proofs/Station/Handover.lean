import StationMesh.Proofs.Station.Accounting

/-!
# Every queued frame is handed to the controller once

When a station sends what is queued, the controller gets the frames one after the other, the oldest
first. Behind a driver fault it brings the radio up anew, and any other error is passed over, so
that the frame is dropped and the next one is tried. The report says how many frames were sent and
dropped and with what the first one failed. If the radio cannot be brought up, the frames behind the
one that failed stay in the outbox.
-/

namespace StationMesh

open StationMesh.Action Channel Radio Relay

variable {ρ κ φ : Type} {logSize : Nat}

/-- A frame that was handed to the controller, and how its transmission ended. -/
structure Attempt where
  frame : OutFrame
  outcome : Except ChannelError Unit

namespace Attempt

/-- What the transmission failed with. -/
def error? (attempt : Attempt) : Option ChannelError :=
  match attempt.outcome with
  | .ok () => none
  | .error error => some error

end Attempt

/-- What the failed ones among some attempts failed with. -/
def failures (attempts : List Attempt) : List ChannelError := attempts.filterMap Attempt.error?

namespace FlushReport

/-- The report with one more attempt. -/
def note (report : FlushReport) (attempt : Attempt) : FlushReport :=
  match attempt.outcome with
  | .ok () => report.addSent
  | .error error => report.addDropped error

theorem sent_add_dropped_foldl_note (attempts : List Attempt) (report : FlushReport) :
    (attempts.foldl note report).sent + (attempts.foldl note report).dropped =
      report.sent + report.dropped + attempts.length := by
  induction attempts generalizing report with
  | nil => rfl
  | cons attempt attempts ih =>
      rw [List.foldl_cons, ih, List.length_cons, note]
      cases attempt.outcome with
      | ok _ =>
          simp only [addSent]
          omega
      | error error =>
          simp only [addDropped]
          omega

theorem dropped_foldl_note (attempts : List Attempt) (report : FlushReport) :
    (attempts.foldl note report).dropped = report.dropped + (failures attempts).length := by
  induction attempts generalizing report with
  | nil => rfl
  | cons attempt attempts ih =>
      rw [List.foldl_cons, ih]
      rcases attempt with ⟨frame, error | _⟩
      · have failures_eq : failures (⟨frame, .error error⟩ :: attempts) =
            error :: failures attempts := rfl
        rw [failures_eq, List.length_cons]
        simp only [note, addDropped]
        omega
      · rfl

/-- The failure that is reported is the first one. -/
theorem failure_foldl_note (attempts : List Attempt) (report : FlushReport) :
    (attempts.foldl note report).failure = report.failure.or (failures attempts).head? := by
  induction attempts generalizing report with
  | nil => exact (Option.or_none ..).symm
  | cons attempt attempts ih =>
      rw [List.foldl_cons, ih]
      rcases attempt with ⟨frame, error | _⟩
      · cases failure_eq : report.failure with
        | none => simp [note, addDropped, failure_eq, failures, Attempt.error?]
        | some first => simp [note, addDropped, failure_eq]
      · rfl

end FlushReport

namespace Channel.Controller

variable [Timed ρ]

/-- The controller is given frames to send, one after the other, and brings the radio up anew behind
each driver fault. It comes to an end when there are no more frames or the radio cannot be brought
up. -/
inductive Attempts :
    Controller ρ → List Attempt → Except ChannelError Unit → Controller ρ → Prop
  | done (controller : Controller ρ) : Attempts controller [] (.ok ()) controller
  | sent {before middle after : Controller ρ} {frame : OutFrame} {attempts : List Attempt}
      {ended : Except ChannelError Unit}
      (transmitted : (transmit frame.data frame.preamble).run before = (.ok (), middle))
      (rest : Attempts middle attempts ended after) :
      Attempts before (⟨frame, .ok ()⟩ :: attempts) ended after
  /-- The radio works, but the frame could not be sent. -/
  | passedOver {before middle after : Controller ρ} {frame : OutFrame} {attempts : List Attempt}
      {ended : Except ChannelError Unit} {error : ChannelError}
      (transmitted : (transmit frame.data frame.preamble).run before = (.error error, middle))
      (noFault : ∀ fault, error ≠ .driverFault fault)
      (rest : Attempts middle attempts ended after) :
      Attempts before (⟨frame, .error error⟩ :: attempts) ended after
  | recovered {before middle ready after : Controller ρ} {frame : OutFrame}
      {attempts : List Attempt} {ended : Except ChannelError Unit} {fault : DeviceError}
      (transmitted :
        (transmit frame.data frame.preamble).run before = (.error (.driverFault fault), middle))
      (broughtUp : reinitialize.run middle = (.ok (), ready))
      (rest : Attempts ready attempts ended after) :
      Attempts before (⟨frame, .error (.driverFault fault)⟩ :: attempts) ended after
  | failed {before middle after : Controller ρ} {frame : OutFrame} {fault : DeviceError}
      {cause : ChannelError}
      (transmitted :
        (transmit frame.data frame.preamble).run before = (.error (.driverFault fault), middle))
      (stopped : reinitialize.run middle = (.error cause, after)) :
      Attempts before [⟨frame, .error (.driverFault fault)⟩] (.error cause) after

/-- Only a radio that could not be brought up puts an end to it. -/
theorem exists_failed_reinitialize {before after : Controller ρ} {attempts : List Attempt}
    {ended : Except ChannelError Unit} {cause : ChannelError}
    (attempted : before.Attempts attempts ended after) (stopped : ended = .error cause) :
    ∃ middle : Controller ρ, reinitialize.run middle = (.error cause, after) := by
  induction attempted with
  | done controller => contradiction
  | sent _ _ ih => exact ih stopped
  | passedOver _ _ _ ih => exact ih stopped
  | recovered _ _ _ ih => exact ih stopped
  | failed _ failed =>
      cases stopped
      exact ⟨_, failed⟩

end Channel.Controller

namespace Station

variable [Timed ρ]

omit [Timed ρ] in
theorem run_onController (operation : Controller.Operation ρ Unit)
    (station : Station ρ κ φ logSize) :
    (onController operation).run station =
      ((operation.run station.controller).1,
        { station with controller := (operation.run station.controller).2 }) := by
  rw [onController, run_zoom]
  rcases (operation.run station.controller).1 with cause | _ <;> rfl

theorem run_absorb_driverFault (fault : DeviceError) (station : Station ρ κ φ logSize) :
    (absorb (.driverFault fault)).run station =
      ((Controller.reinitialize.run station.controller).1,
        { station.countFault with
          controller := (Controller.reinitialize.run station.controller).2 }) := by
  rw [absorb, run_bind, run_modify]
  exact run_onController _ _

theorem run_absorb_of_noFault {error : ChannelError} (noFault : ∀ fault, error ≠ .driverFault fault)
    (station : Station ρ κ φ logSize) : (absorb error).run station = (.ok (), station) := by
  cases error with
  | driverFault fault => exact absurd rfl (noFault fault)
  | timeout | queueFull | crcMismatch | invalidState => rfl

/-- Sending what is queued is all about the frames that are attempted: they are those at the front
of the outbox, which loses them, and what is reported is what became of them. -/
structure Handover (report : FlushReport) (before : Station ρ κ φ logSize)
    (attempts : List Attempt) (ended : Except ChannelError Unit)
    (flushed : Except ChannelError FlushReport × Station ρ κ φ logSize) : Prop where
  attempted : before.controller.Attempts attempts ended flushed.2.controller
  frames_eq :
    before.hub.outbox.frames = attempts.map Attempt.frame ++ flushed.2.hub.outbox.frames
  answer_eq : flushed.1 = ended.map fun _ => attempts.foldl FlushReport.note report
  emptied : ended = .ok () → flushed.2.hub.outbox.frames = []

/-- A frame off the front of the outbox was attempted, and then the others were. -/
theorem Handover.prepend {report : FlushReport} {before next : Station ρ κ φ logSize}
    {attempts : List Attempt} {ended : Except ChannelError Unit}
    {flushed : Except ChannelError FlushReport × Station ρ κ φ logSize} (attempt : Attempt)
    (rest : Handover (report.note attempt) next attempts ended flushed)
    (frames_eq : before.hub.outbox.frames = attempt.frame :: next.hub.outbox.frames)
    (attempted : before.controller.Attempts (attempt :: attempts) ended flushed.2.controller) :
    Handover report before (attempt :: attempts) ended flushed where
  attempted := attempted
  frames_eq := by rw [frames_eq, rest.frames_eq, List.map_cons, List.cons_append]
  answer_eq := rest.answer_eq
  emptied := rest.emptied

omit [Timed ρ] in
/-- The station without the first of its frames, when the controller has tried to send it. -/
def behind (outbox : Outbox) (controller : Controller ρ) (station : Station ρ κ φ logSize) :
    Station ρ κ φ logSize :=
  { station with controller, hub := { station.hub with outbox } }

/-- What comes first is handed to the controller, and the rest follows if a fault does not stop
it. -/
theorem run_flushUpTo_succ (count : Nat) (report : FlushReport) {station : Station ρ κ φ logSize}
    {frame : OutFrame} {outbox : Outbox}
    (taken : station.hub.outbox.take? = some (frame, outbox)) :
    (flushUpTo (count + 1) report).run station =
      let left := (Controller.transmit frame.data frame.preamble).run station.controller
      match left.1 with
      | .ok () =>
          (flushUpTo count report.addSent).run { station.behind outbox left.2 with faults := 0 }
      | .error error =>
          (do absorb error; flushUpTo count (report.addDropped error)).run
            (station.behind outbox left.2) := by
  rw [flushUpTo, run_bind, run_takeFrame, taken]
  dsimp only
  rw [run_bind, run_attempt, run_onController]
  rcases (Controller.transmit frame.data frame.preamble).run station.controller with
    ⟨error | _, controller⟩
  · rfl
  · rfl

/-- By induction on the frames that are left, with one case for each way in which handing over the
first of them can end. -/
theorem exists_handover_flushUpTo {count : Nat} (report : FlushReport)
    {station : Station ρ κ φ logSize} (length_eq : station.hub.outbox.length = count) :
    ∃ attempts ended,
      Handover report station attempts ended ((flushUpTo count report).run station) := by
  induction count generalizing report station with
  | zero =>
      have frames_eq : station.hub.outbox.frames = [] := List.length_eq_zero_iff.mp length_eq
      exact ⟨[], .ok (), .done _, rfl, rfl, fun _ => frames_eq⟩
  | succ count ih =>
      cases taken : station.hub.outbox.take? with
      | none =>
          have length_zero := Outbox.length_eq_zero_of_take? taken
          omega
      | some pair =>
          rcases pair with ⟨frame, outbox⟩
          have frames_eq := Outbox.frames_of_take? taken
          have length_succ := Outbox.length_of_take? taken
          have rest_eq : outbox.length = count := by omega
          rw [run_flushUpTo_succ count report taken]
          rcases transmitted : (Controller.transmit frame.data frame.preamble).run
            station.controller with ⟨error | _, middle⟩
          · dsimp only
            rw [run_bind]
            by_cases faulted : ∃ fault, error = .driverFault fault
            · rcases faulted with ⟨fault, rfl⟩
              rw [run_absorb_driverFault]
              rcases broughtUp : Controller.reinitialize.run
                (station.behind outbox middle).controller with ⟨cause | _, ready⟩
              · exact ⟨[⟨frame, .error (.driverFault fault)⟩], .error cause,
                  .failed transmitted broughtUp, frames_eq, rfl, by rintro ⟨⟩⟩
              · rcases @ih (report.addDropped (.driverFault fault))
                  { (station.behind outbox middle).countFault with controller := ready } rest_eq
                  with ⟨attempts, ended, rest⟩
                exact ⟨_, ended, .prepend ⟨frame, .error (.driverFault fault)⟩ rest frames_eq
                  (.recovered transmitted broughtUp rest.attempted)⟩
            · rw [not_exists] at faulted
              rw [run_absorb_of_noFault faulted]
              rcases @ih (report.addDropped error) (station.behind outbox middle) rest_eq with
                ⟨attempts, ended, rest⟩
              exact ⟨_, ended, .prepend ⟨frame, .error error⟩ rest frames_eq
                (.passedOver transmitted faulted rest.attempted)⟩
          · rcases @ih report.addSent { station.behind outbox middle with faults := 0 } rest_eq with
              ⟨attempts, ended, rest⟩
            exact ⟨_, ended, .prepend ⟨frame, .ok ()⟩ rest frames_eq
              (.sent transmitted rest.attempted)⟩

theorem exists_handover_flush (station : Station ρ κ φ logSize) :
    ∃ attempts ended, Handover {} station attempts ended (flush.run station) := by
  have run_eq : flush.run station =
      (flushUpTo station.hub.outbox.length {}).run station := by
    rw [flush, run_bind, run_get]
  rw [run_eq]
  exact exists_handover_flushUpTo {} rfl

/-- The frames that are handed to the controller, each of them once and in order, are those that the
outbox loses. If sending succeeds, these are all frames, and the report counts those that were sent
and those that failed and names the first failure, if there is one. Otherwise a radio could not be
brought up anew, and the frames that were not handed over are left. -/
theorem attempts_each_once (station : Station ρ κ φ logSize) :
    let flushed := flush.run station
    ∃ attempts ended, station.controller.Attempts attempts ended flushed.2.controller ∧
      station.hub.outbox.frames =
        attempts.map Attempt.frame ++ flushed.2.hub.outbox.frames ∧
      (∀ report, flushed.1 = .ok report →
        ended = .ok () ∧ flushed.2.hub.outbox.frames = [] ∧
          report.sent + report.dropped = station.hub.outbox.length ∧
          report.dropped = (failures attempts).length ∧
          report.failure = (failures attempts).head? ∧
          (report.failure = none ↔ report.dropped = 0)) ∧
      ∀ cause, flushed.1 = .error cause →
        ended = .error cause ∧
          ∃ middle, Controller.reinitialize.run middle = (.error cause, flushed.2.controller) := by
  intro flushed
  rcases exists_handover_flush station with ⟨attempts, ended, handover⟩
  have answer_eq : flushed.1 = ended.map fun _ => attempts.foldl FlushReport.note {} :=
    handover.answer_eq
  refine ⟨attempts, ended, handover.attempted, handover.frames_eq, ?_, ?_⟩
  · intro report answered
    rw [answer_eq] at answered
    rcases ended with cause | _
    · contradiction
    · have report_eq : attempts.foldl FlushReport.note {} = report := Except.ok.inj answered
      have total_eq := FlushReport.sent_add_dropped_foldl_note attempts {}
      have dropped_eq := FlushReport.dropped_foldl_note attempts {}
      have failure_eq := FlushReport.failure_foldl_note attempts {}
      have emptied := handover.emptied rfl
      have length_eq := congrArg List.length handover.frames_eq
      rw [emptied, List.append_nil, List.length_map] at length_eq
      rw [report_eq] at total_eq dropped_eq failure_eq
      rw [Nat.zero_add] at dropped_eq
      rw [Option.none_or] at failure_eq
      refine ⟨rfl, emptied, ?_, dropped_eq, failure_eq, ?_⟩
      · rw [total_eq, Outbox.length, length_eq]
        exact Nat.zero_add _
      · rw [failure_eq, dropped_eq, List.head?_eq_none_iff, List.length_eq_zero_iff]
  · intro cause answered
    rw [answer_eq] at answered
    rcases ended with stopped | _
    · cases answered
      exact ⟨rfl, Controller.exists_failed_reinitialize handover.attempted rfl⟩
    · contradiction

/-- The radio sends one frame, fails to send the next one, and cannot be brought up again. -/
def stranded : Station (Bench Echo) Config.Settings RuleUpdater 0 :=
  awakeOn ((awake.controller.radio.addFaults .transmit .hardwareFault 1 1).addFaults
    .bringUp .hardwareFault 0 1)

/-- The frame that was sent and the one that failed are gone, and the third one is left. With a
radio that recovers all are gone, and two have failed. -/
theorem attempts_each_once_stranded :
    (∃ attempts, (stranded.laden 3).controller.Attempts attempts
        (.error (.driverFault .hardwareFault)) (flush.run (stranded.laden 3)).2.controller ∧
      attempts.length = 2 ∧ (flush.run (stranded.laden 3)).2.hub.outbox.length = 1) ∧
    ∃ attempts, (faltering.laden 3).controller.Attempts attempts (.ok ())
        (flush.run (faltering.laden 3)).2.controller ∧
      attempts.map Attempt.frame = (faltering.laden 3).hub.outbox.frames ∧
      (failures attempts).length = 2 := by
  constructor
  · have stopped : (flush.run (stranded.laden 3)).1 = .error (.driverFault .hardwareFault) := by
      decide +kernel
    have left_eq : (flush.run (stranded.laden 3)).2.hub.outbox.length = 1 := by decide +kernel
    have laden_eq : (stranded.laden 3).hub.outbox.length = 3 := by decide +kernel
    rcases attempts_each_once (stranded.laden 3) with
      ⟨attempts, ended, attempted, frames_eq, _, failed⟩
    rw [(failed _ stopped).1] at attempted
    have length_eq := congrArg List.length frames_eq
    rw [List.length_append, List.length_map] at length_eq
    simp only [Outbox.length] at left_eq laden_eq
    exact ⟨attempts, attempted, by omega, left_eq⟩
  · have sent : (flush.run (faltering.laden 3)).1 =
        .ok { sent := 1, dropped := 2, failure := some (.driverFault .hardwareFault) } := by
      decide +kernel
    rcases attempts_each_once (faltering.laden 3) with
      ⟨attempts, ended, attempted, frames_eq, reported, _⟩
    rcases reported _ sent with ⟨ended_eq, emptied, _, dropped_eq, _⟩
    rw [emptied, List.append_nil] at frames_eq
    rw [ended_eq] at attempted
    exact ⟨attempts, attempted, frames_eq.symm, dropped_eq.symm⟩

end Station

end StationMesh
