import StationMesh.Config.Settings
import StationMesh.Proofs.Channel.Arming
import StationMesh.Proofs.Station.Loop

/-!
# Whether a station listens after a round

At the end of a round the radio is put into the idle state that the relay lists call for, but only
if the idle state that was noted is another one. So what becomes of the radio depends on whether it
is in the noted idle state by then. It is, as long as no operation came back with a driver fault
that it did not get over. After such a fault a round can succeed although the radio does not
listen.
-/

namespace StationMesh.Station

open StationMesh.Action Channel ChannelError Radio Relay

variable {κ φ : Type} {logSize : Nat}

/-- The controller never leaves the idle state, but for driver faults. -/
theorem operates_staysArmed : Operates IsFault Controller.StaysArmed where
  toFollows := Controller.waits_staysArmed.toFollows
  reinitialize controller :=
    (Controller.armed_reinitialize controller).imp id fun armed _ => armed
  restores _ _ controller :=
    (Controller.armed_reinitialize controller).imp id fun armed _ => armed
  transmit := Controller.staysArmed_transmit
  configure _ _ := id
  setIdle := Controller.staysArmed_setIdle
  service := Controller.waits_staysArmed.serviceReceiver
  dequeue _ := id
  wait _ _ := id

variable [Config.Store κ] {station started left : Station (Bench Echo) κ φ logSize}
  {calls : List (Call (Bench Echo) κ φ logSize)} {processed : Nat}

/-- The radio is up, and its receiver does what the relay lists call for. -/
def Listens (station : Station (Bench Echo) κ φ logSize) : Prop :=
  station.controller.radio.device.Ready station.idlePolicy.mode

/-! ### The end of a round -/

/-- Whatever state the radio is in, the relay lists call for an idle state it can be put into. -/
theorem poised_idlePolicy (station : Station (Bench Echo) κ φ logSize) :
    { station.controller with idle := station.idlePolicy }.Poised := by
  rw [Controller.Poised, idlePolicy]
  by_cases relays : Config.Store.relaysForPeers station.hub.services.config
  · rw [if_pos relays]
    trivial
  · rw [if_neg relays]
    trivial

/-- Putting the radio into the idle state that the relay lists call for works from any state, unless
it fails. -/
theorem armed_followPolicy_of_ne
    (idle_ne : station.controller.idle ≠ station.idlePolicy)
    (followed : followPolicy.run station = (.ok (), left)) : left.controller.Armed := by
  have idled := (Controller.armed_setIdle (idlePolicy_ne_uninitialized station)
    station.controller).imp id fun armed => armed (poised_idlePolicy station)
  simp only [followPolicy, run_bind, run_get, if_neg idle_ne, run_attempt, onController, run_zoom]
    at followed
  rw [StopsExcused] at idled
  generalize (Controller.setIdle station.idlePolicy).run station.controller = ended
    at idled followed
  rcases ended with ⟨cause | _, controller⟩
  · rcases idled with ⟨_, stopped, error, rfl⟩ | armed
    · -- After a driver fault the radio is brought up anew, which does not need to know its state.
      cases stopped
      have broughtUp : (onController Controller.reinitialize).run
        ({ station with controller } : Station (Bench Echo) κ φ logSize).countFault =
          (.ok (), left) := followed
      exact (steered_onController Controller.armed_reinitialize).of_ok broughtUp
    · exact (operates_staysArmed.absorb cause).of_ok followed armed
  · rcases idled with ⟨_, stopped, _⟩ | armed
    · contradiction
    · cases followed
      exact armed

theorem followPolicy_listens_iff (followed : followPolicy.run station = (.ok (), left)) :
    left.Listens ↔ station.controller.Armed ∨ station.controller.idle ≠ station.idlePolicy := by
  have listens_iff : left.Listens ↔ left.controller.Armed := by
    rcases followPolicy_idle station with ⟨hub_eq, idle_eq⟩
    rw [followed] at hub_eq idle_eq
    have policy_eq : left.idlePolicy = station.idlePolicy := by rw [idlePolicy, idlePolicy, hub_eq]
    rw [Listens, Controller.Armed, idle_eq, policy_eq]
  rw [listens_iff]
  by_cases idle_eq : station.controller.idle = station.idlePolicy
  · have left_eq : station = left := by
      simpa [followPolicy, run_bind, idle_eq] using followed
    rw [left_eq] at idle_eq ⊢
    simp [idle_eq]
  · have armed := armed_followPolicy_of_ne idle_eq followed
    exact ⟨fun _ => .inr idle_eq, fun _ => armed⟩

/-! ### Runs -/

/-- A station that was started has its radio in the idle state. -/
theorem armed_of_start (succeeded : start.run station = (.ok (), started)) :
    started.controller.Armed := by
  rcases exists_of_run_bind_eq_ok succeeded with ⟨_, middle, broughtUp, succeeded⟩
  have armed := (steered_onController Controller.armed_reinitialize).of_ok broughtUp
  rw [run_bind, run_get] at succeeded
  exact (steered_onController (Controller.staysArmed_setIdle _)).of_ok succeeded armed

variable [FirmwareUpdater φ]

/-- If the call comes back with a driver fault, the radio is in the idle state nevertheless. If
something happens outside, it leaves the receiver alone. -/
structure GotOver (station : Station (Bench Echo) κ φ logSize)
    (call : Call (Bench Echo) κ φ logSize) : Prop where
  fault : ∀ error, station.error? call = some (.channel (.driverFault error)) →
    (station.perform call).controller.Armed
  outside : ∀ radio services host, call = .outside radio services host →
    Echo.Untouched station.controller.radio.device radio.device

/-- The station got over all driver faults of a run. -/
def KeptUp : List (Call (Bench Echo) κ φ logSize) → Station (Bench Echo) κ φ logSize → Prop
  | [], _ => True
  | call :: calls, station => station.GotOver call ∧ KeptUp calls (station.perform call)

theorem staysArmed_perform {call : Call (Bench Echo) κ φ logSize} (gotOver : station.GotOver call) :
    Controller.StaysArmed station.controller (station.perform call).controller := by
  have outside (radio : Bench Echo) (services : Services κ φ logSize) (host : HostLine)
      (call_eq : call = .outside radio services host) :
      Controller.StaysArmed station.controller { station.controller with radio } :=
    Controller.staysArmed_of_untouched rfl (gotOver.outside radio services host call_eq)
  rcases operates_staysArmed.perform station call outside with
    ⟨error, stopped, cause, rfl, fault, rfl⟩ | stays
  · -- Nothing is known of the controller after this but what the station is said to get over.
    exact fun _ => gotOver.fault fault stopped
  · exact stays

theorem armed_run (armed : station.controller.Armed) (keptUp : KeptUp calls station) :
    (station.run calls).controller.Armed := by
  induction calls generalizing station with
  | nil => exact armed
  | cons call calls ih =>
      rcases keptUp with ⟨gotOver, keptUp⟩
      exact ih (staysArmed_perform gotOver armed) keptUp

/-- A station that was started and got over all driver faults since listens after every round that
succeeds, in the way the relay lists call for, whatever faults there were in the round. -/
theorem listens_of_poll (succeeded : start.run station = (.ok (), started))
    (keptUp : KeptUp calls started)
    (polled : poll.run (started.run calls) = (.ok processed, left)) : left.Listens := by
  have armed := armed_run (armed_of_start succeeded) keptUp
  rcases poll_parts polled with ⟨received, drained, receive_eq, drain_eq, follow_eq⟩
  have receivedStays := (operates_staysArmed.receive operates_staysArmed.service).of_ok receive_eq
  have drainedStays := (operates_staysArmed.drainUpTo _ 0).of_ok drain_eq
  rw [followPolicy_listens_iff follow_eq]
  exact .inl (drainedStays (receivedStays armed))

/-- Services of a station that listens now and then. -/
def quietServices : Services Config.Settings RuleUpdater 0 where
  config := .withStationId 3
  firmware := .declines

/-- A station whose radio nothing has been done with yet. -/
def asleep : Station (Bench Echo) Config.Settings RuleUpdater 0 :=
  new { device := {} } quietServices {} {} {} 3

/-- The same station after it was started. -/
def awake : Station (Bench Echo) Config.Settings RuleUpdater 0 := (start.run asleep).2

/-- Its radio, with a transmitter that fails the next time. -/
def failingRadio : Bench Echo :=
  let radio := awake.controller.radio
  { radio with device := Pokeable.poke (.fail .hardwareFault) radio.device }

/-- A status message that the radio fails to send. -/
def failing (radio : Bench Echo) : List (Call (Bench Echo) Config.Settings RuleUpdater 0) :=
  [.outside radio quietServices {}, .sendStatus]

theorem run_start_asleep : start.run asleep = (.ok (), awake) := by
  rfl

theorem listens_of_poll_failedTransmission :
    start.run asleep = (.ok (), awake) ∧ KeptUp (failing failingRadio) awake ∧
    ∃ left, poll.run (awake.run (failing failingRadio)) = (.ok 0, left) ∧ left.Listens := by
  have keptUp : KeptUp (failing failingRadio) awake := by
    refine ⟨⟨?_, ?_⟩, ⟨?_, ?_⟩, trivial⟩
    · intro error stopped
      contradiction
    · rintro _ _ _ ⟨⟩
      exact ⟨rfl, rfl⟩
    · intro error stopped
      exact ⟨by decide +kernel, by decide +kernel⟩
    · intro radio services host call_eq
      contradiction
  have answered : (poll.run (awake.run (failing failingRadio))).1 = .ok 0 := by decide +kernel
  rcases polled : poll.run (awake.run (failing failingRadio)) with ⟨answer, left⟩
  rw [polled] at answered
  subst answered
  exact ⟨run_start_asleep, keptUp, left, rfl, listens_of_poll run_start_asleep keptUp polled⟩

/-- The station after the radio failed to send the message, and to listen again. -/
def deafened : Station (Bench Echo) Config.Settings RuleUpdater 0 :=
  awake.run (failing (failingRadio.addFaults .dutyCycle .hardwareFault 0 1))

/-- After a driver fault that the station did not get over, a round can succeed although the radio
is in standby: the noted idle state is the one the relay lists call for. -/
theorem not_listens_of_failedRestart :
    start.run asleep = (.ok (), awake) ∧
    ∃ left, poll.run deafened = (.ok 0, left) ∧ left.controller.idle = left.idlePolicy ∧
      ¬left.Listens := by
  have ended : (poll.run deafened).1 = .ok 0 ∧
      (poll.run deafened).2.controller.idle = (poll.run deafened).2.idlePolicy ∧
      (poll.run deafened).2.controller.radio.device.mode ≠
        (poll.run deafened).2.idlePolicy.mode := by
    decide +kernel
  rcases polled : poll.run deafened with ⟨answer, left⟩
  rw [polled] at ended
  rcases ended with ⟨answered, idle_eq, mode_ne⟩
  dsimp only at answered
  subst answered
  exact ⟨run_start_asleep, left, rfl, idle_eq, fun listens => mode_ne listens.mode_eq⟩

end StationMesh.Station
