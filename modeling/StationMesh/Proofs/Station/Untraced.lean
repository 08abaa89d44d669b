import StationMesh.Proofs.Mirror
import StationMesh.Proofs.Radio.Traced
import StationMesh.Station.Flush

/-!
# Writing down calls changes nothing

A station does the same with a radio whose calls are written down as with the radio itself: it
answers the same and leaves the same station, but for the record. So the record of a traced run
tells what the radio was asked for in the run itself.
-/

namespace StationMesh

open StationMesh.Action Channel Radio Relay

variable {ρ κ φ ε α : Type} {logSize : Nat}

/-! ### The controller -/

namespace Channel.Controller

/-- The controller without the record. -/
def untraced (controller : Controller (Traced ρ)) : Controller ρ :=
  { controller with radio := controller.radio.radio }

@[simp]
theorem idle_untraced (controller : Controller (Traced ρ)) :
    controller.untraced.idle = controller.idle := rfl

@[simp]
theorem queue_untraced (controller : Controller (Traced ρ)) :
    controller.untraced.queue = controller.queue := rfl

theorem mirrors_onRadio {operation : Radio.Operation (Traced ρ) α} {other : Radio.Operation ρ α}
    (mirrors : Mirrors Traced.radio operation other) :
    Mirrors untraced (onRadio operation) (onRadio other) :=
  mirrors.zoom (fun _ => rfl) fun _ _ => rfl

theorem mirrors_adjust (change : ρ → ρ) :
    Mirrors untraced (adjust (Traced.adjust change)) (adjust change) :=
  mirrors_modify fun _ => rfl

theorem mirrors_tally (change : Statistics → Statistics) :
    Mirrors untraced (tally change : Operation (Traced ρ) Unit) (tally change : Operation ρ Unit) :=
  mirrors_modify fun _ => rfl

variable [Timed ρ]

theorem mirrors_now : Mirrors untraced (now : Operation (Traced ρ) Nat) (now : Operation ρ Nat) :=
  fun _ => rfl

theorem mirrors_enterIdle :
    Mirrors untraced (enterIdle : Operation (Traced ρ) Unit) (enterIdle : Operation ρ Unit) := by
  apply mirrors_get_bind
  intro controller
  rw [idle_untraced]
  cases controller.idle with
  | uninitialized => exact mirrors_pure ()
  | continuousReceive =>
      exact (mirrors_adjust _).bind fun _ => mirrors_onRadio fun _ => rfl
  | intermittentReceive =>
      exact (mirrors_adjust _).bind fun _ => mirrors_onRadio fun _ => rfl
  | sleep => exact mirrors_onRadio fun _ => rfl

theorem mirrors_reinitialize :
    Mirrors untraced (Controller.reinitialize : Operation (Traced ρ) Unit)
      (Controller.reinitialize : Operation ρ Unit) := by
  have broughtUp : Mirrors untraced (onRadio Device.bringUp : Operation (Traced ρ) Unit)
      (onRadio Device.bringUp : Operation ρ Unit) := mirrors_onRadio fun _ => rfl
  exact broughtUp.bind fun _ => mirrors_enterIdle

theorem mirrors_takeAnnounced :
    Mirrors untraced (takeAnnounced : Operation (Traced ρ) UInt16)
      (takeAnnounced : Operation ρ UInt16) := by
  apply (mirrors_adjust Device.attend).bind
  intro _
  apply mirrors_get_bind
  intro controller
  have signal_eq : Device.signal controller.untraced.radio = Device.signal controller.radio := rfl
  rw [signal_eq]
  cases (Device.signal controller.radio).announced with
  | none => exact mirrors_pure 0
  | some counter => exact fun _ => rfl

theorem mirrors_readIfPossible :
    Mirrors untraced (readIfPossible : Operation (Traced ρ) (Option Nat))
      (readIfPossible : Operation ρ (Option Nat)) := by
  apply (mirrors_adjust Device.attend).bind
  intro _
  apply mirrors_get_bind
  intro controller
  have signal_eq : Device.signal controller.untraced.radio = Device.signal controller.radio := rfl
  have leaveIdle {answer : Operation (Traced ρ) (Option Nat)} {other : Operation ρ (Option Nat)}
      (mirrors : Mirrors untraced answer other) :
      Mirrors untraced (enterIdle >>= fun _ => answer) (enterIdle >>= fun _ => other) :=
    mirrors_enterIdle.bind fun _ => mirrors
  simp only [signal_eq, queue_untraced]
  refine (mirrors_pure none).ite ?_
  cases controller.queue.writable with
  | none => exact mirrors_throw _
  | some room =>
      have read : Mirrors untraced
          (onRadio (Device.read room) : Operation (Traced ρ) Reception)
          (onRadio (Device.read room) : Operation ρ Reception) :=
        mirrors_onRadio fun _ => rfl
      apply read.attempt.bind
      rintro (error | reception)
      · have lost : Mirrors untraced (do
            let announced ← takeAnnounced
            tally (.recordLost announced.toNat)
            enterIdle
            throw error : Operation (Traced ρ) (Option Nat)) (do
            let announced ← takeAnnounced
            tally (.recordLost announced.toNat)
            enterIdle
            throw error) := by
          apply mirrors_takeAnnounced.bind
          intro announced
          apply (mirrors_tally _).bind
          intro _
          exact leaveIdle (mirrors_throw error)
        cases error with
        | driverFault fault =>
            cases fault with
            | bufferTooSmall => exact mirrors_throw _
            | initializationFailed | transmissionFailed | receiveFailed | cadFailed
            | hardwareFault => exact lost
        | timeout | queueFull | crcMismatch | invalidState => exact lost
      · apply mirrors_takeAnnounced.bind
        intro announced
        apply (mirrors_tally _).bind
        intro _
        apply (mirrors_tally _).bind
        intro _
        apply (mirrors_tally _).bind
        intro _
        apply Mirrors.ite
        · exact leaveIdle (mirrors_throw _)
        · have filled : Mirrors untraced (modify fun controller : Controller (Traced ρ) =>
              let filled := controller.queue.fill reception.data
              { controller with queue := (filled.commit reception.data.length).getD filled } :
                Operation (Traced ρ) PUnit) (modify fun controller : Controller ρ =>
              let filled := controller.queue.fill reception.data
              { controller with
                queue := (filled.commit reception.data.length).getD filled }) :=
            mirrors_modify fun _ => rfl
          exact filled.bind fun _ => leaveIdle (mirrors_pure _)

theorem mirrors_serviceUpTo (fuel received : Nat) :
    Mirrors untraced (serviceUpTo fuel received : Operation (Traced ρ) Nat)
      (serviceUpTo fuel received : Operation ρ Nat) := by
  induction fuel generalizing received with
  | zero => exact mirrors_pure received
  | succ fuel ih =>
      simp only [serviceUpTo]
      apply mirrors_readIfPossible.attempt.bind
      rintro (error | _ | length)
      · cases error with
        | queueFull => exact mirrors_pure received
        | crcMismatch => exact ih received
        | timeout | invalidState | driverFault => exact mirrors_throw _
      · exact mirrors_pure received
      · exact ih (received + 1)

theorem mirrors_serviceReceiver :
    Mirrors untraced (serviceReceiver : Operation (Traced ρ) Nat)
      (serviceReceiver : Operation ρ Nat) := by
  apply mirrors_get_bind
  intro controller
  exact mirrors_serviceUpTo _ 0

theorem mirrors_waitSlotUpTo (slotEnd fuel : Nat) :
    Mirrors untraced (waitSlotUpTo slotEnd fuel : Operation (Traced ρ) Unit)
      (waitSlotUpTo slotEnd fuel : Operation ρ Unit) := by
  induction fuel with
  | zero => exact mirrors_pure ()
  | succ fuel ih =>
      simp only [waitSlotUpTo]
      apply mirrors_serviceReceiver.bind
      intro _
      apply mirrors_now.bind
      intro time
      exact (mirrors_pure ()).ite ((mirrors_adjust _).bind fun _ => ih)

theorem mirrors_waitSlot :
    Mirrors untraced (waitSlot : Operation (Traced ρ) Unit) (waitSlot : Operation ρ Unit) := by
  apply mirrors_get_bind
  intro controller
  apply mirrors_now.bind
  intro time
  exact mirrors_waitSlotUpTo _ _

theorem mirrors_probe :
    Mirrors untraced (probe : Operation (Traced ρ) Activity) (probe : Operation ρ Activity) :=
  mirrors_onRadio fun _ => rfl

/-- What follows a probe is the same when it is the same after either outcome. -/
theorem mirrors_probe_bind {rest : Activity → Operation (Traced ρ) α}
    {other : Activity → Operation ρ α} (free : Mirrors untraced (rest .free) (other .free))
    (busy : Mirrors untraced (rest .busy) (other .busy)) :
    Mirrors untraced (probe >>= rest) (probe >>= other) := by
  apply mirrors_probe.bind
  intro activity
  cases activity with
  | free => exact free
  | busy => exact busy

theorem mirrors_awaitFree (deadline fuel : Nat) :
    Mirrors untraced (awaitFree deadline fuel : Operation (Traced ρ) Unit)
      (awaitFree deadline fuel : Operation ρ Unit) := by
  induction fuel with
  | zero => exact mirrors_throw _
  | succ fuel ih =>
      simp only [awaitFree]
      apply mirrors_serviceReceiver.bind
      intro _
      apply mirrors_now.bind
      intro time
      apply Mirrors.ite
      · apply (mirrors_throw _).bind
        intro _
        exact mirrors_probe_bind (mirrors_pure ()) ih
      · exact mirrors_probe_bind (mirrors_pure ()) ih

theorem mirrors_contend (deadline fuel : Nat) (heardBusy : Bool) :
    Mirrors untraced (contend deadline fuel heardBusy : Operation (Traced ρ) Unit)
      (contend deadline fuel heardBusy : Operation ρ Unit) := by
  induction fuel generalizing heardBusy with
  | zero => exact mirrors_throw _
  | succ fuel ih =>
      have again : Mirrors untraced (do
          awaitFree deadline (deadline - (← now) + 1)
          contend deadline fuel true : Operation (Traced ρ) Unit) (do
          awaitFree deadline (deadline - (← now) + 1)
          contend deadline fuel true) := by
        apply mirrors_now.bind
        intro time
        exact (mirrors_awaitFree _ _).bind fun _ => ih true
      simp only [contend]
      apply Mirrors.ite
      · apply mirrors_get_bind
        intro controller
        apply Mirrors.bind (fun _ => rfl)
        intro byte
        apply Mirrors.ite
        · apply mirrors_waitSlot.bind
          intro _
          exact mirrors_probe_bind (mirrors_pure ()) again
        · exact mirrors_probe_bind (mirrors_pure ()) again
      · exact mirrors_probe_bind (mirrors_pure ()) again

theorem mirrors_senseCarrier :
    Mirrors untraced (senseCarrier : Operation (Traced ρ) Nat)
      (senseCarrier : Operation ρ Nat) := by
  apply mirrors_now.bind
  intro start
  apply mirrors_get_bind
  intro controller
  apply (mirrors_contend _ _ false).bind
  intro _
  apply mirrors_now.bind
  intro time
  exact (mirrors_tally _).bind fun _ => mirrors_pure _

theorem mirrors_transmit (data : Bytes) (preamble : Preamble) :
    Mirrors untraced (transmit data preamble : Operation (Traced ρ) Unit)
      (transmit data preamble : Operation ρ Unit) := by
  apply mirrors_senseCarrier.bind
  intro _
  apply mirrors_get_bind
  intro controller
  apply (mirrors_adjust _).bind
  intro _
  have sent : Mirrors untraced (onRadio (Device.transmit data) : Operation (Traced ρ) Unit)
      (onRadio (Device.transmit data) : Operation ρ Unit) := mirrors_onRadio fun _ => rfl
  exact sent.bind fun _ => mirrors_enterIdle

end Channel.Controller

/-! ### The station -/

namespace Station

/-- The station with a radio whose calls are written down from now on. -/
def traced (station : Station ρ κ φ logSize) : Station (Traced ρ) κ φ logSize where
  controller := { station.controller with radio := { radio := station.controller.radio } }
  hub := station.hub
  base := station.base
  hostSettings := station.hostSettings
  schedule := station.schedule
  faults := station.faults
  alarms := station.alarms

/-- The station without the record. -/
def untraced (station : Station (Traced ρ) κ φ logSize) : Station ρ κ φ logSize where
  controller := station.controller.untraced
  hub := station.hub
  base := station.base
  hostSettings := station.hostSettings
  schedule := station.schedule
  faults := station.faults
  alarms := station.alarms

@[simp]
theorem untraced_traced (station : Station ρ κ φ logSize) : station.traced.untraced = station := rfl

@[simp]
theorem hub_untraced (station : Station (Traced ρ) κ φ logSize) :
    station.untraced.hub = station.hub := rfl

theorem mirrors_onController {operation : Controller.Operation (Traced ρ) α}
    {other : Controller.Operation ρ α}
    (mirrors : Mirrors Controller.untraced operation other) :
    Mirrors untraced
      (onController operation : Operation (Traced ρ) κ φ logSize ChannelError α)
      (onController other : Operation ρ κ φ logSize ChannelError α) :=
  mirrors.zoom (fun _ => rfl) fun _ _ => rfl

theorem mirrors_takeFrame :
    Mirrors untraced (takeFrame : Operation (Traced ρ) κ φ logSize ε _)
      (takeFrame : Operation ρ κ φ logSize ε _) := by
  apply mirrors_get_bind
  intro station
  rw [hub_untraced]
  rcases station.hub.outbox.take? with _ | ⟨frame, outbox⟩
  · exact mirrors_pure none
  · exact (mirrors_set _).bind fun _ => mirrors_pure _

/-- What a station answers, whether its calls are written down or not. -/
theorem fst_run_traced {operation : Operation (Traced ρ) κ φ logSize ε α}
    {other : Operation ρ κ φ logSize ε α} (mirrors : Mirrors untraced operation other)
    (station : Station ρ κ φ logSize) :
    (operation.run station.traced).1 = (other.run station).1 := by
  have mirrored := mirrors station.traced
  rw [untraced_traced] at mirrored
  rw [mirrored]

variable [Timed ρ]

theorem mirrors_absorb (error : ChannelError) :
    Mirrors untraced
      (absorb error : Operation (Traced ρ) κ φ logSize ChannelError Unit)
      (absorb error : Operation ρ κ φ logSize ChannelError Unit) := by
  cases error with
  | driverFault fault =>
      have counted : Mirrors untraced
          (modify countFault : Operation (Traced ρ) κ φ logSize ChannelError PUnit)
          (modify countFault : Operation ρ κ φ logSize ChannelError PUnit) :=
        mirrors_modify fun _ => rfl
      exact counted.bind fun _ => mirrors_onController Controller.mirrors_reinitialize
  | timeout | queueFull | crcMismatch | invalidState => exact mirrors_pure ()

theorem mirrors_flushUpTo (fuel : Nat) (report : FlushReport) :
    Mirrors untraced (flushUpTo fuel report : Operation (Traced ρ) κ φ logSize ChannelError _)
      (flushUpTo fuel report : Operation ρ κ φ logSize ChannelError _) := by
  induction fuel generalizing report with
  | zero => exact mirrors_pure report
  | succ fuel ih =>
      simp only [flushUpTo]
      apply mirrors_takeFrame.bind
      rintro (_ | frame)
      · exact mirrors_pure report
      · apply (mirrors_onController (Controller.mirrors_transmit _ _)).attempt.bind
        rintro (error | _)
        · exact (mirrors_absorb error).bind fun _ => ih _
        · have noted : Mirrors untraced
              (modify fun station => { station with faults := 0 } :
                Operation (Traced ρ) κ φ logSize ChannelError PUnit)
              (modify fun station => { station with faults := 0 } :
                Operation ρ κ φ logSize ChannelError PUnit) := mirrors_modify fun _ => rfl
          exact noted.bind fun _ => ih _

theorem mirrors_flush :
    Mirrors untraced (flush : Operation (Traced ρ) κ φ logSize ChannelError _)
      (flush : Operation ρ κ φ logSize ChannelError _) := by
  apply mirrors_get_bind
  intro station
  exact mirrors_flushUpTo _ {}

end Station

end StationMesh
