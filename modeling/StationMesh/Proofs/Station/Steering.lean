import StationMesh.Proofs.Channel.Servicing
import StationMesh.Proofs.Station.Run

/-!
# Following the controller of a station

A station does nothing with its controller but to carry out operations of it, to configure it, to
take messages out of its queue, and to let time pass. So a relation between the states of a
controller that each of these respects is respected by all operations of the station. An operation
of the station gets over a driver fault by bringing the radio up anew, and goes on only if that
succeeded.
-/

namespace StationMesh.Station

open StationMesh.Action Channel Radio Relay

variable {ρ κ φ α β : Type} {logSize : Nat} [Timed ρ]
variable {excused : ChannelError → Prop} {step : Controller ρ → Controller ρ → Prop}

/-- Enough about a relation to follow the controller while a station gets over an error. -/
structure Recovers (excused : ChannelError → Prop) (step : Controller ρ → Controller ρ → Prop) :
    Prop extends Controller.Follows excused step where
  reinitialize : (Controller.reinitialize : Controller.Operation ρ Unit).MovesUnless excused step
  restores : ∀ {cause}, excused cause →
    (Controller.reinitialize : Controller.Operation ρ Unit).Restores excused step

/-- Enough to follow the controller while a station changes the idle state. -/
structure Idles (excused : ChannelError → Prop) (step : Controller ρ → Controller ρ → Prop) :
    Prop extends Recovers excused step where
  setIdle : ∀ idle, (Controller.setIdle idle : Controller.Operation ρ Unit).MovesUnless excused step

/-- Enough to follow the controller while a station sends what is queued. -/
structure Sends (excused : ChannelError → Prop) (step : Controller ρ → Controller ρ → Prop) :
    Prop extends Recovers excused step where
  transmit : ∀ data preamble,
    (Controller.transmit data preamble : Controller.Operation ρ Unit).MovesUnless excused step
  configure : ∀ settings controller, step controller (controller.configure settings)

/-- Enough to follow the controller through all that a station does. -/
structure Operates (excused : ChannelError → Prop) (step : Controller ρ → Controller ρ → Prop) :
    Prop extends Sends excused step, Idles excused step where
  service : (Controller.serviceReceiver : Controller.Operation ρ Nat).MovesUnless excused step
  dequeue : ∀ controller, step controller controller.dequeue.2
  wait : ∀ time controller,
    step controller { controller with radio := Timed.waitUntil time controller.radio }

/-- The relation holds of the controllers of two states of a station. -/
def Steered (step : Controller ρ → Controller ρ → Prop) (before after : Station ρ κ φ logSize) :
    Prop :=
  step before.controller after.controller

/-- What an excused channel error is to an operation that can also fail in other ways. -/
def OfChannel (excused : ChannelError → Prop) (error : StationError) : Prop :=
  ∃ cause, error = .channel cause ∧ excused cause

omit [Timed ρ] in
theorem steered_onController {operation : Controller.Operation ρ α}
    (moves : operation.MovesUnless excused step) :
    (onController operation : Operation ρ κ φ logSize ChannelError α).MovesUnless excused
      (Steered step) :=
  moves.zoom (fun _ => id) fun _ _ => id

omit [Timed ρ] in
theorem restores_onController {operation : Controller.Operation ρ α}
    (restores : operation.Restores excused step) :
    (onController operation : Operation ρ κ φ logSize ChannelError α).Restores excused
      (Steered step) :=
  fun before => (restores before.controller).zoom (fun _ => id) fun _ _ => id

omit [Timed ρ] in
theorem steered_overChannel {operation : Operation ρ κ φ logSize ChannelError α}
    (moves : operation.MovesUnless excused (Steered step)) :
    (overChannel operation).MovesUnless (OfChannel excused) (Steered step) :=
  moves.zoom (fun cause isExcused => ⟨cause, rfl, isExcused⟩) fun _ _ => id

/-! ### Operations that leave the controller alone -/

section Follows

variable {ε : Type} {excusedCause : ε → Prop}

omit [Timed ρ] in
theorem steered_trans (follows : Controller.Follows excused step)
    {first second third : Station ρ κ φ logSize} (former : Steered step first second)
    (latter : Steered step second third) : Steered step first third :=
  follows.trans former latter

omit [Timed ρ] in
theorem steered_of_controller_eq (follows : Controller.Follows excused step)
    {before after : Station ρ κ φ logSize} (controller_eq : after.controller = before.controller) :
    Steered step before after := by
  rw [Steered, controller_eq]
  exact follows.refl before.controller

omit [Timed ρ] in
theorem steered_get (follows : Controller.Follows excused step) :
    (get : Operation ρ κ φ logSize ε _).MovesUnless excusedCause (Steered step) :=
  (moves_get fun _ => steered_of_controller_eq follows rfl).unless

omit [Timed ρ] in
theorem steered_pure (follows : Controller.Follows excused step) (value : α) :
    (pure value : Operation ρ κ φ logSize ε α).MovesUnless excusedCause (Steered step) :=
  (moves_pure (fun _ => steered_of_controller_eq follows rfl) value).unless

omit [Timed ρ] in
theorem steered_throw (follows : Controller.Follows excused step) (cause : ε) :
    (throw cause : Operation ρ κ φ logSize ε α).MovesUnless excusedCause (Steered step) :=
  (moves_throw (fun _ => steered_of_controller_eq follows rfl) cause).unless

omit [Timed ρ] in
theorem steered_onHub (follows : Controller.Follows excused step)
    (operation : Hub.Operation κ φ logSize α) :
    (onHub operation : Operation ρ κ φ logSize StationError α).MovesUnless (OfChannel excused)
      (Steered step) :=
  fun _ => .inr (steered_of_controller_eq follows rfl)

omit [Timed ρ] in
theorem steered_takeFrame (follows : Controller.Follows excused step) :
    (takeFrame : Operation ρ κ φ logSize ε _).MovesUnless excusedCause (Steered step) := by
  intro station
  right
  simp only [takeFrame, run_bind, run_get]
  split
  · exact steered_of_controller_eq follows rfl
  · exact steered_of_controller_eq follows rfl

end Follows

/-! ### Getting over errors -/

namespace Recovers

theorem absorb (recovers : Recovers excused step) (error : ChannelError) :
    (absorb error : Operation ρ κ φ logSize ChannelError Unit).MovesUnless excused
      (Steered step) := by
  have follows := recovers.toFollows
  cases error with
  | driverFault fault =>
      have counted : (modify countFault : Operation ρ κ φ logSize ChannelError _).MovesUnless
          excused (Steered step) :=
        (moves_modify fun _ => steered_of_controller_eq follows rfl).unless
      apply counted.bind (steered_trans follows)
      intro _
      exact steered_onController recovers.reinitialize
  | timeout => exact steered_pure follows ()
  | queueFull => exact steered_pure follows ()
  | crcMismatch => exact steered_pure follows ()
  | invalidState => exact steered_pure follows ()

/-- After an excused error the radio is brought up anew, which makes good what is not known of the
state. -/
theorem restores_absorb (recovers : Recovers excused step) {error : ChannelError}
    (isExcused : excused error) :
    (Station.absorb error : Operation ρ κ φ logSize ChannelError Unit).Restores excused
      (Steered step) := by
  have restores : (onController Controller.reinitialize :
      Operation ρ κ φ logSize ChannelError Unit).Restores excused (Steered step) :=
    restores_onController (recovers.restores isExcused)
  rcases recovers.isFault isExcused with ⟨fault, rfl⟩
  intro before station
  exact restores before station.countFault

/-- An operation whose errors are gotten over, before something else follows in any case. -/
theorem attempt_bind (recovers : Recovers excused step) {operation : Controller.Operation ρ α}
    (moves : operation.MovesUnless excused step)
    {next : Except ChannelError α → Operation ρ κ φ logSize ChannelError β}
    (afterOk : ∀ value, (next (.ok value)).MovesUnless excused (Steered step))
    {rest : ChannelError → Operation ρ κ φ logSize ChannelError β}
    (afterError : ∀ error, next (.error error) = Station.absorb error >>= fun _ => rest error)
    (restMoves : ∀ error, (rest error).MovesUnless excused (Steered step)) :
    ((onController operation).attempt >>= next).MovesUnless excused (Steered step) := by
  apply (steered_onController moves).attempt_bind (steered_trans recovers.toFollows) afterOk
  · intro error _
    rw [afterError]
    exact (recovers.absorb error).bind (steered_trans recovers.toFollows) fun _ => restMoves error
  · intro error isExcused
    rw [afterError]
    exact (recovers.restores_absorb isExcused).bind (steered_trans recovers.toFollows)
      fun _ => restMoves error

theorem receive (recovers : Recovers excused step)
    (service : (Controller.serviceReceiver : Controller.Operation ρ Nat).MovesUnless excused step) :
    (receive : Operation ρ κ φ logSize ChannelError Unit).MovesUnless excused (Steered step) := by
  have follows := recovers.toFollows
  refine recovers.attempt_bind service ?_ (fun _ => bind_pure_unit.symm) fun _ => ?_
  · intro _
    exact steered_pure follows ()
  · exact steered_pure follows ()

end Recovers

/-! ### Sending what is queued -/

namespace Sends

theorem flushUpTo (sends : Sends excused step) (fuel : Nat) (report : FlushReport) :
    (flushUpTo fuel report : Operation ρ κ φ logSize ChannelError _).MovesUnless excused
      (Steered step) := by
  have follows := sends.toFollows
  induction fuel generalizing report with
  | zero => exact steered_pure follows report
  | succ fuel ih =>
      simp only [Station.flushUpTo]
      apply (steered_takeFrame follows).bind (steered_trans follows)
      intro taken
      cases taken with
      | none => exact steered_pure follows report
      | some frame =>
          refine sends.attempt_bind (sends.transmit _ _) ?_ (fun _ => rfl) fun _ => ih _
          intro _
          have noted : (modify fun station => { station with faults := 0 } :
              Operation ρ κ φ logSize ChannelError _).MovesUnless excused (Steered step) :=
            (moves_modify fun _ => steered_of_controller_eq follows rfl).unless
          exact noted.bind (steered_trans follows) fun _ => ih _

theorem flush (sends : Sends excused step) :
    (flush : Operation ρ κ φ logSize ChannelError _).MovesUnless excused (Steered step) := by
  apply (steered_get sends.toFollows).bind (steered_trans sends.toFollows)
  intro station
  exact sends.flushUpTo _ {}

theorem flushAll (sends : Sends excused step) :
    (flushAll : Operation ρ κ φ logSize ChannelError Unit).MovesUnless excused (Steered step) := by
  apply sends.flush.bind (steered_trans sends.toFollows)
  intro report
  cases report.result with
  | ok sent => exact steered_pure sends.toFollows ()
  | error error => exact steered_throw sends.toFollows error

variable [Config.Store κ]

theorem applyPending (sends : Sends excused step) :
    (applyPending : Operation ρ κ φ logSize ChannelError Unit).MovesUnless excused
      (Steered step) := by
  have follows := sends.toFollows
  have restarted (condition : Bool) : (if condition then onController Controller.reinitialize
      else pure () : Operation ρ κ φ logSize ChannelError Unit).MovesUnless excused
        (Steered step) :=
    (steered_onController sends.reinitialize).ite (steered_pure follows ())
  have configured : (modify fun station : Station ρ κ φ logSize =>
      { station with controller := station.controller.configure station.channelSettings } :
        Operation ρ κ φ logSize ChannelError _).MovesUnless excused (Steered step) :=
    fun station => .inr (sends.configure station.channelSettings station.controller)
  apply movesUnless_get_bind
  intro station
  rcases station.hub.engine.takePending with ⟨pending, engine⟩
  refine moved_of_set_bind (steered_trans follows) (steered_of_controller_eq follows rfl) ?_
  apply MovesUnless.ite
  · apply configured.bind (steered_trans follows)
    intro _
    exact restarted _
  · exact restarted _

theorem sendWeather (sends : Sends excused step) (reading : Bytes) :
    (sendWeather reading : Operation ρ κ φ logSize StationError UInt8).MovesUnless
      (OfChannel excused) (Steered step) := by
  apply (steered_onHub sends.toFollows _).bind (steered_trans sends.toFollows)
  intro uid
  apply (steered_overChannel sends.flushAll).bind (steered_trans sends.toFollows)
  intro _
  exact steered_pure sends.toFollows uid

theorem sendStatus (sends : Sends excused step) :
    (sendStatus : Operation ρ κ φ logSize StationError UInt8).MovesUnless
      (OfChannel excused) (Steered step) := by
  apply (steered_get sends.toFollows).bind (steered_trans sends.toFollows)
  intro station
  apply (steered_onHub sends.toFollows _).bind (steered_trans sends.toFollows)
  intro uid
  apply (steered_overChannel sends.flushAll).bind (steered_trans sends.toFollows)
  intro _
  exact steered_pure sends.toFollows uid

end Sends

/-! ### Changing the idle state -/

namespace Idles

variable [Config.Store κ]

theorem followPolicy (idles : Idles excused step) :
    (followPolicy : Operation ρ κ φ logSize ChannelError Unit).MovesUnless excused
      (Steered step) := by
  have follows := idles.toFollows
  simp only [Station.followPolicy]
  apply (steered_get follows).bind (steered_trans follows)
  intro station
  apply (steered_pure follows ()).ite
  refine idles.attempt_bind (idles.setIdle _) ?_ (fun _ => bind_pure_unit.symm) fun _ => ?_
  · intro _
    exact steered_pure follows ()
  · exact steered_pure follows ()

theorem start (idles : Idles excused step) :
    (start : Operation ρ κ φ logSize ChannelError Unit).MovesUnless excused (Steered step) := by
  apply (steered_onController idles.reinitialize).bind (steered_trans idles.toFollows)
  intro _
  apply (steered_get idles.toFollows).bind (steered_trans idles.toFollows)
  intro station
  exact steered_onController (idles.setIdle _)

theorem withRadioSilence (idles : Idles excused step)
    (operation : Services κ φ logSize → α × Services κ φ logSize) :
    (withRadioSilence operation : Operation ρ κ φ logSize ChannelError α).MovesUnless excused
      (Steered step) := by
  have follows := idles.toFollows
  have set (idle : IdleState) : (onController (Controller.setIdle idle) :
      Operation ρ κ φ logSize ChannelError Unit).MovesUnless excused (Steered step) :=
    steered_onController (idles.setIdle idle)
  apply (steered_get follows).bind (steered_trans follows)
  intro station
  apply (set .sleep).bind (steered_trans follows)
  intro _
  apply movesUnless_get_bind
  intro asleep
  rcases operation asleep.hub.services with ⟨answer, services⟩
  refine moved_of_set_bind (steered_trans follows) (steered_of_controller_eq follows rfl) ?_
  apply (set _).bind (steered_trans follows)
  intro _
  exact steered_pure follows answer

end Idles

/-! ### The main loop -/

namespace Operates

variable [Config.Store κ]

section Processing

variable [FirmwareUpdater φ]

theorem intakeUpTo (operates : Operates excused step) (report : Report) (now fuel processed : Nat)
    (controller : Controller ρ) (hub : Hub κ φ logSize) :
    step controller (intakeUpTo report now fuel processed controller hub).2.1 := by
  induction fuel generalizing processed controller hub with
  | zero => exact operates.refl controller
  | succ fuel ih =>
      simp only [Relay.intakeUpTo]
      split
      · exact operates.refl controller
      · have dequeued := operates.dequeue controller
        generalize controller.dequeue = ended at dequeued ⊢
        rcases ended with ⟨_ | frame, left⟩
        · exact dequeued
        · exact operates.trans dequeued (ih _ left _)

theorem processQueued {ε : Type} {excusedCause : ε → Prop} (operates : Operates excused step) :
    (processQueued : Operation ρ κ φ logSize ε Nat).MovesUnless excusedCause (Steered step) := by
  intro station
  have taken := operates.intakeUpTo station.controller.statistics.report
    (Timed.now station.controller.radio) (station.controller.queued + 1) 0 station.controller
    station.hub
  right
  exact taken

theorem drainUpTo (operates : Operates excused step) (fuel processed : Nat) :
    (drainUpTo fuel processed : Operation ρ κ φ logSize ChannelError Nat).MovesUnless excused
      (Steered step) := by
  have follows := operates.toFollows
  induction fuel generalizing processed with
  | zero => exact steered_pure follows processed
  | succ fuel ih =>
      simp only [Station.drainUpTo]
      apply operates.processQueued.bind (steered_trans follows)
      intro more
      apply operates.applyPending.bind (steered_trans follows)
      intro _
      apply operates.flush.bind (steered_trans follows)
      intro _
      apply (steered_get follows).bind (steered_trans follows)
      intro station
      exact (steered_pure follows _).ite (ih _)

theorem poll (operates : Operates excused step) :
    (poll : Operation ρ κ φ logSize ChannelError Nat).MovesUnless excused (Steered step) := by
  have follows := operates.toFollows
  apply (operates.toRecovers.receive operates.service).bind (steered_trans follows)
  intro _
  apply (steered_get follows).bind (steered_trans follows)
  intro station
  apply (operates.drainUpTo _ 0).bind (steered_trans follows)
  intro processed
  apply operates.followPolicy.bind (steered_trans follows)
  intro _
  exact steered_pure follows processed

theorem handleHostFrame (operates : Operates excused step) (frame : Host.Frame) :
    (handleHostFrame frame : Operation ρ κ φ logSize StationError Unit).MovesUnless
      (OfChannel excused) (Steered step) := by
  have follows := operates.toFollows
  unfold Station.handleHostFrame
  split
  · apply (steered_onHub follows _).bind (steered_trans follows)
    intro _
    exact steered_overChannel operates.flushAll
  · apply movesUnless_get_bind
    intro station
    refine moved_of_set_bind (steered_trans follows) (steered_of_controller_eq follows rfl) ?_
    exact steered_overChannel operates.applyPending
  · exact steered_pure follows ()

theorem serveHost (operates : Operates excused step) (reader : Host.Reader)
    (station : Station ρ κ φ logSize) :
    (∃ error, (station.serveHost reader).1 = .error error ∧ OfChannel excused error) ∨
      Steered step station (station.serveHost reader).2.2 := by
  have waited (time : Nat) : Steered step station { station with
      controller := { station.controller with
        radio := Timed.waitUntil time station.controller.radio } } :=
    operates.wait time station.controller
  simp only [Station.serveHost]
  split
  · exact .inr (waited _)
  · exact .inr (waited _)
  · exact .inr (waited _)
  · exact .inr (waited _)
  · exact (operates.handleHostFrame _ _).imp id
      (steered_trans operates.toFollows (waited _))

end Processing

end Operates

/-! ### All operations -/

variable [Config.Store κ]

omit [Timed ρ] in
theorem steered_weatherDue (follows : Controller.Follows excused step) (now : Nat) :
    (weatherDue now : Operation ρ κ φ logSize StationError _).MovesUnless (OfChannel excused)
      (Steered step) :=
  fun _ => .inr (steered_of_controller_eq follows rfl)

/-- The error with which something comes back, in terms of the station. -/
def failure {ε : Type} (wrap : ε → StationError) : Except ε α → Option StationError
  | .ok _ => none
  | .error cause => some (wrap cause)

variable [FirmwareUpdater φ]

/-- The error with which a call comes back. -/
def error? (station : Station ρ κ φ logSize) : Call ρ κ φ logSize → Option StationError
  | .start => failure .channel (start.run station).1
  | .poll => failure .channel (poll.run station).1
  | .weatherDue now => failure id ((weatherDue now).run station).1
  | .sendWeather reading => failure id ((sendWeather reading).run station).1
  | .sendStatus => failure id (sendStatus.run station).1
  | .flush => failure .channel (flush.run station).1
  | .handleHostFrame frame => failure id ((handleHostFrame frame).run station).1
  | .serveHost reader => failure id (station.serveHost reader).1
  | .withRadioSilence operation =>
      failure .channel
        ((withRadioSilence fun services => ((), operation services)).run station).1
  | .outside _ _ _ => none

/-- Unless it comes back with an excused error, a call leaves a controller that the relation holds
of. -/
theorem Operates.perform (operates : Operates excused step) (station : Station ρ κ φ logSize)
    (call : Call ρ κ φ logSize)
    (outside : ∀ radio services host, call = .outside radio services host →
      step station.controller { station.controller with radio }) :
    (∃ error, station.error? call = some error ∧ OfChannel excused error) ∨
      Steered step station (station.perform call) := by
  have failed {ε β : Type} {operation : Operation ρ κ φ logSize ε β} {wrap : ε → StationError}
      {excusedCause : ε → Prop}
      (wraps : ∀ cause, excusedCause cause → OfChannel excused (wrap cause))
      (moves : operation.MovesUnless excusedCause (Steered step)) :
      (∃ error, failure wrap (operation.run station).1 = some error ∧ OfChannel excused error) ∨
        Steered step station (operation.run station).2 := by
    rcases moves station with ⟨cause, stopped, isExcused⟩ | moved
    · left
      rw [stopped]
      exact ⟨wrap cause, rfl, wraps cause isExcused⟩
    · exact .inr moved
  have wraps (cause : ChannelError) (isExcused : excused cause) :
      OfChannel excused (.channel cause) := ⟨cause, rfl, isExcused⟩
  cases call with
  | start => exact failed wraps operates.start
  | poll => exact failed wraps operates.poll
  | weatherDue now => exact failed (fun _ => id) (steered_weatherDue operates.toFollows now)
  | sendWeather reading => exact failed (fun _ => id) (operates.sendWeather reading)
  | sendStatus => exact failed (fun _ => id) operates.sendStatus
  | flush => exact failed wraps operates.flush
  | handleHostFrame frame => exact failed (fun _ => id) (operates.handleHostFrame frame)
  | serveHost reader =>
      rcases operates.serveHost reader station with ⟨error, stopped, isExcused⟩ | moved
      · left
        exact ⟨error, by rw [error?, stopped]; rfl, isExcused⟩
      · exact .inr moved
  | withRadioSilence operation => exact failed wraps (operates.withRadioSilence _)
  | outside radio services host => exact .inr (outside radio services host rfl)

end StationMesh.Station
