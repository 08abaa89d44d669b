import StationMesh.Proofs.Invariant
import StationMesh.Proofs.Station.Run

/-!
# Properties that a station upholds

Operations of a station are put together from few steps, and a property that each of the steps keeps
is kept by all operations, however they end. Two of the steps are taken in one: a frame is taken out
of the outbox and sent, and messages are processed and what they asked for is done. In between, a
property may be broken.
-/

namespace StationMesh.Station

open StationMesh.Action Channel Radio Relay

variable {ρ κ φ ε α : Type} {logSize : Nat} [Timed ρ] [Config.Store κ] [FirmwareUpdater φ]

/-- The steps of a round, and those with which the outbox is sent, keep a property. -/
structure Upholds (kept : Station ρ κ φ logSize → Prop) : Prop where
  count : ∀ faults alarms station, kept station → kept { station with faults, alarms }
  reinitialize : (onController Controller.reinitialize :
    Operation ρ κ φ logSize ChannelError Unit).Keeps kept
  setIdle : ∀ idle, (onController (Controller.setIdle idle) :
    Operation ρ κ φ logSize ChannelError Unit).Keeps kept
  service : (onController Controller.serviceReceiver :
    Operation ρ κ φ logSize ChannelError Nat).Keeps kept
  send : ∀ {station frame outbox}, station.hub.outbox.take? = some (frame, outbox) →
    kept station →
    kept ((onController (Controller.transmit frame.data frame.preamble) :
      Operation ρ κ φ logSize ChannelError Unit).run
        { station with hub := { station.hub with outbox } }).2
  process : (processQueued >>= fun _ => applyPending :
    Operation ρ κ φ logSize ChannelError Unit).Keeps kept

/-- All steps of a station keep a property. -/
structure UpholdsAll (kept : Station ρ κ φ logSize → Prop) : Prop extends Upholds kept where
  schedule : ∀ schedule station, kept station → kept { station with schedule }
  wait : ∀ time station, kept station → kept { station with
    controller := { station.controller with
      radio := Timed.waitUntil time station.controller.radio } }
  sendWeather : ∀ reading, (onHub (Hub.sendWeather reading) :
    Operation ρ κ φ logSize StationError UInt8).Keeps kept
  sendStatus : ∀ report, (onHub (Hub.sendStatus report) :
    Operation ρ κ φ logSize StationError UInt8).Keeps kept
  sendHostFrame : ∀ frame, (onHub (Hub.sendHostFrame frame) :
    Operation ρ κ φ logSize StationError Unit).Keeps kept
  obey : ∀ command report now station, kept station →
    kept (applyPending.run
      { station with hub := (station.hub.executeLocal command report now).2 }).2

variable {kept : Station ρ κ φ logSize → Prop}

omit [Timed ρ] [FirmwareUpdater φ] in
/-- The station when nothing is pending any more and changed settings were taken over. -/
def reloaded (station : Station ρ κ φ logSize) : Station ρ κ φ logSize :=
  let taken :=
    { station with hub := { station.hub with engine := station.hub.engine.takePending.2 } }
  if station.hub.engine.takePending.1.reload then
    { taken with controller := taken.controller.configure taken.channelSettings }
  else
    taken

omit [Timed ρ] [Config.Store κ] [FirmwareUpdater φ] in
theorem keeps_overChannel {operation : Operation ρ κ φ logSize ChannelError α}
    (keeps : operation.Keeps kept) : (overChannel operation).Keeps kept :=
  keeps

omit [FirmwareUpdater φ] in
/-- What commands asked for is taken note of, and then the radio is brought up anew or not. -/
theorem run_applyPending (station : Station ρ κ φ logSize) :
    applyPending.run station =
      (if Relay.Pending.reinitialize station.hub.engine.takePending.1 then
          onController Controller.reinitialize
        else pure () : Operation ρ κ φ logSize ChannelError Unit).run station.reloaded := by
  simp only [applyPending, run_bind, run_get, run_set]
  split
  · rename_i due
    rw [reloaded, if_pos due]
    rfl
  · rename_i settled
    rw [reloaded, if_neg settled]

omit [FirmwareUpdater φ] in
theorem kept_applyPending (reinitializes : (onController Controller.reinitialize :
      Operation ρ κ φ logSize ChannelError Unit).Keeps kept)
    {station : Station ρ κ φ logSize} (holds : kept station.reloaded) :
    kept (applyPending.run station).2 := by
  rw [run_applyPending]
  exact (Keeps.ite reinitializes (keeps_pure ())) _ holds

/-- Two operations that are taken in one, before something else follows. -/
theorem keeps_bind_bind {σ β γ : Type} {holds : σ → Prop} {first : Action σ ε α}
    {second : Action σ ε β} {rest : α → Action σ ε γ}
    (keeps : (first >>= fun _ => second).Keeps holds)
    (restKeeps : ∀ value, (rest value).Keeps holds) :
    (first >>= fun value => second >>= fun _ => rest value).Keeps holds := by
  intro state held
  have both := keeps state held
  rw [run_bind] at both ⊢
  generalize first.run state = ended at both ⊢
  rcases ended with ⟨cause | value, middle⟩
  · exact both
  · dsimp only at both ⊢
    rw [run_bind]
    generalize second.run middle = ended at both ⊢
    rcases ended with ⟨cause | _, left⟩
    · exact both
    · exact restKeeps value left both

omit [Timed ρ] [Config.Store κ] [FirmwareUpdater φ] in
theorem run_takeFrame (station : Station ρ κ φ logSize) :
    (takeFrame : Operation ρ κ φ logSize ε _).run station =
      match station.hub.outbox.take? with
      | none => (.ok none, station)
      | some (frame, outbox) =>
          (.ok (some frame), { station with hub := { station.hub with outbox } }) := by
  simp only [takeFrame, run_bind, run_get]
  cases station.hub.outbox.take? with
  | none => rfl
  | some taken => rfl

namespace Upholds

theorem absorb (upholds : Upholds kept) (error : ChannelError) :
    (absorb error : Operation ρ κ φ logSize ChannelError Unit).Keeps kept := by
  cases error with
  | driverFault fault =>
      have counted : (modify countFault : Operation ρ κ φ logSize ChannelError PUnit).Keeps kept :=
        fun station => upholds.count _ _ station
      exact counted.bind fun _ => upholds.reinitialize
  | timeout | queueFull | crcMismatch | invalidState => exact keeps_pure ()

theorem flushUpTo (upholds : Upholds kept) (fuel : Nat) (report : FlushReport) :
    (flushUpTo fuel report : Operation ρ κ φ logSize ChannelError FlushReport).Keeps kept := by
  induction fuel generalizing report with
  | zero => exact keeps_pure report
  | succ fuel ih =>
      intro station holds
      rw [Station.flushUpTo, run_bind, run_takeFrame]
      cases taken : station.hub.outbox.take? with
      | none => exact holds
      | some pair =>
          rcases pair with ⟨frame, outbox⟩
          have sent := upholds.send taken holds
          dsimp only
          rw [run_bind, run_attempt]
          generalize (onController (Controller.transmit frame.data frame.preamble)).run
            { station with hub := { station.hub with outbox } } = ended at sent ⊢
          rcases ended with ⟨error | _, left⟩
          · exact (upholds.absorb error).bind (fun _ => ih _) left sent
          · dsimp only
            rw [run_bind, run_modify]
            exact ih _ _ (upholds.count 0 left.alarms left sent)

theorem flush (upholds : Upholds kept) :
    (flush : Operation ρ κ φ logSize ChannelError FlushReport).Keeps kept :=
  keeps_get.bind fun _ => upholds.flushUpTo _ {}

theorem flushAll (upholds : Upholds kept) :
    (flushAll : Operation ρ κ φ logSize ChannelError Unit).Keeps kept := by
  apply upholds.flush.bind
  intro report
  cases report.result with
  | ok sent => exact keeps_pure ()
  | error error => exact fun _ => id

theorem originate (upholds : Upholds kept) {message : Hub.Operation κ φ logSize α}
    (keeps : (onHub message : Operation ρ κ φ logSize StationError α).Keeps kept) :
    (do
      let answer ← onHub message
      overChannel Station.flushAll
      pure answer : Operation ρ κ φ logSize StationError α).Keeps kept := by
  apply keeps.bind
  intro answer
  exact (keeps_overChannel upholds.flushAll).bind fun _ => keeps_pure answer

theorem start (upholds : Upholds kept) :
    (start : Operation ρ κ φ logSize ChannelError Unit).Keeps kept := by
  apply upholds.reinitialize.bind
  intro _
  exact keeps_get.bind fun _ => upholds.setIdle _

theorem drainUpTo (upholds : Upholds kept) (fuel processed : Nat) :
    (drainUpTo fuel processed : Operation ρ κ φ logSize ChannelError Nat).Keeps kept := by
  induction fuel generalizing processed with
  | zero => exact keeps_pure processed
  | succ fuel ih =>
      simp only [Station.drainUpTo]
      apply keeps_bind_bind upholds.process
      intro more
      apply upholds.flush.bind
      intro _
      apply Keeps.get_bind
      intro station
      exact Keeps.ite (keeps_pure _) (ih _)

theorem receive (upholds : Upholds kept) :
    (receive : Operation ρ κ φ logSize ChannelError Unit).Keeps kept := by
  simp only [Station.receive]
  apply upholds.service.attempt.bind
  rintro (error | _)
  · exact upholds.absorb error
  · exact keeps_pure ()

theorem followPolicy (upholds : Upholds kept) :
    (followPolicy : Operation ρ κ φ logSize ChannelError Unit).Keeps kept := by
  simp only [Station.followPolicy]
  apply Keeps.get_bind
  intro station
  refine Keeps.ite (keeps_pure ()) ?_
  apply (upholds.setIdle station.idlePolicy).attempt.bind
  rintro (error | _)
  · exact upholds.absorb error
  · exact keeps_pure ()

theorem poll (upholds : Upholds kept) :
    (poll : Operation ρ κ φ logSize ChannelError Nat).Keeps kept := by
  apply upholds.receive.bind
  intro _
  apply Keeps.get_bind
  intro station
  apply (upholds.drainUpTo _ 0).bind
  intro processed
  exact upholds.followPolicy.bind fun _ => keeps_pure processed

end Upholds

namespace UpholdsAll

theorem weatherDue (upholds : UpholdsAll kept) (now : Nat) :
    (weatherDue now : Operation ρ κ φ logSize StationError _).Keeps kept := by
  apply keeps_get_bind
  intro station holds
  exact upholds.schedule _ station holds

theorem handleHostFrame (upholds : UpholdsAll kept) (frame : Host.Frame) :
    (handleHostFrame frame : Operation ρ κ φ logSize StationError Unit).Keeps kept := by
  unfold Station.handleHostFrame
  split
  · exact (upholds.sendHostFrame _).bind fun _ => keeps_overChannel upholds.flushAll
  · apply keeps_get_bind
    intro station holds
    dsimp only
    rw [run_bind, run_set]
    exact upholds.obey frame.payload _ _ station holds
  · exact keeps_pure ()

theorem serveHost (upholds : UpholdsAll kept) (reader : Host.Reader)
    {station : Station ρ κ φ logSize} (holds : kept station) :
    kept (station.serveHost reader).2.2 := by
  simp only [Station.serveHost]
  split
  · exact upholds.wait _ station holds
  · exact upholds.wait _ station holds
  · exact upholds.wait _ station holds
  · exact upholds.wait _ station holds
  · exact upholds.handleHostFrame _ _ (upholds.wait _ station holds)

/-- What is done while the radio is off keeps the property. -/
theorem withRadioSilence (upholds : UpholdsAll kept)
    {operation : Services κ φ logSize → α × Services κ φ logSize}
    (changes : ∀ station, kept station →
      kept { station with
        hub := { station.hub with services := (operation station.hub.services).2 } }) :
    (withRadioSilence operation : Operation ρ κ φ logSize ChannelError α).Keeps kept := by
  simp only [Station.withRadioSilence]
  apply Keeps.get_bind
  intro station
  apply (upholds.setIdle .sleep).bind
  intro _
  apply keeps_get_bind
  intro asleep holds
  have changed := changes asleep holds
  generalize operation asleep.hub.services = ended at changed ⊢
  rcases ended with ⟨answer, services⟩
  dsimp only at changed ⊢
  rw [run_bind, run_set]
  exact (upholds.setIdle _).bind (fun _ => keeps_pure answer) _ changed

/-- A call keeps the property, if what happens outside of the station does. -/
theorem perform (upholds : UpholdsAll kept) {call : Call ρ κ φ logSize}
    {station : Station ρ κ φ logSize} (holds : kept station)
    (silently : ∀ operation, call = .withRadioSilence operation → ∀ station, kept station →
      kept { station with
        hub := { station.hub with services := operation station.hub.services } })
    (outside : ∀ radio services host, call = .outside radio services host →
      kept { station with
        controller := { station.controller with radio }
        hub := { station.hub with services, host } }) :
    kept (station.perform call) := by
  cases call with
  | start => exact upholds.start station holds
  | poll => exact upholds.poll station holds
  | weatherDue now => exact upholds.weatherDue now station holds
  | sendWeather reading => exact upholds.originate (upholds.sendWeather reading) station holds
  | sendStatus =>
      exact keeps_get_bind (fun station => upholds.originate (upholds.sendStatus _) station)
        station holds
  | flush => exact upholds.flush station holds
  | handleHostFrame frame => exact upholds.handleHostFrame frame station holds
  | serveHost reader => exact upholds.serveHost reader holds
  | withRadioSilence operation =>
      exact upholds.withRadioSilence (silently operation rfl) station holds
  | outside radio services host => exact outside radio services host rfl

end UpholdsAll

end StationMesh.Station
