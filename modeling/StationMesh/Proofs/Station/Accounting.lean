import StationMesh.Proofs.Channel.Airing
import StationMesh.Proofs.Station.Listening
import StationMesh.Proofs.Station.Untraced

/-!
# What a station reports of the frames it sent

A frame counts as sent if the transmission as a whole succeeded, and that includes putting the
radio back into its idle state. A frame that is on air counts as dropped if that fails. So a report
falls short of what went on air by the frames behind which the radio could not be put back, and a
station that sent all its frames answers with an error then.
-/

namespace StationMesh.Station

open StationMesh.Action Channel Radio Relay

variable {ρ κ φ ε α : Type} {logSize : Nat}

/-- The calls to the radio that an operation makes. -/
def callsOf (operation : Operation (Traced ρ) κ φ logSize ε α) (station : Station ρ κ φ logSize) :
    List Entry :=
  (operation.run station.traced).2.controller.radio.trace

def Made (made : List Entry → Prop) (before after : Station (Traced ρ) κ φ logSize) : Prop :=
  before.controller.Makes made after.controller

variable [Timed ρ]

theorem made_absorb (error : ChannelError) :
    (absorb error : Operation (Traced ρ) κ φ logSize ChannelError Unit).Moves
      (Made fun calls => Unaired calls ∧ Opens calls) := by
  cases error with
  | driverFault fault => exact fun station => Controller.prepares_reinitialize station.controller
  | timeout | queueFull | crcMismatch | invalidState =>
      exact fun _ => Controller.makes_of_trace_eq ⟨unaired_nil, opens_nil⟩ rfl

theorem made_transmit (data : Bytes) (preamble : Preamble)
    (station : Station (Traced ρ) κ φ logSize) :
    let ended := (onController (Controller.transmit data preamble)).run station
    Made (Controller.Shows ended.1.isOk) station ended.2 := by
  dsimp only
  rw [onController, run_zoom, Controller.isOk_mapError]
  exact Controller.shows_transmit data preamble station.controller

/-- What becomes of the frames that are sent, the first `count` of the outbox. -/
structure Accounts (count : Nat) (report : FlushReport) (answer : Except ChannelError FlushReport)
    (calls : List Entry) : Prop where
  opens : Opens calls
  airings_le : airings calls ≤ count
  sent : ∀ final, answer = .ok final →
    final.sent + lapses calls = report.sent + airings calls ∧
    final.sent + final.dropped = report.sent + report.dropped + count
  failure : ∀ final, answer = .ok final →
    (final.failure = none ↔ report.failure = none ∧ final.dropped = report.dropped)
  /-- If sending was given up, not all frames went on air, or the radio lapsed. -/
  gaveUp : ∀ cause, answer = .error cause → airings calls < count ∨ 0 < lapses calls

namespace Accounts

variable {count : Nat} {report : FlushReport} {answer : Except ChannelError FlushReport}
  {former calls : List Entry} {error : ChannelError}

theorem nothing (report : FlushReport) : Accounts 0 report (.ok report) [] where
  opens := opens_nil
  airings_le := Nat.le_refl 0
  sent := by rintro final ⟨⟩; simp
  failure := by rintro final ⟨⟩; simp
  gaveUp := by rintro cause ⟨⟩

theorem prepend (accounts : Accounts count report answer calls) (unaired : Unaired former)
    (opens : Opens former) : Accounts count report answer (former ++ calls) := by
  have airings_eq : airings (former ++ calls) = airings calls := by
    rw [airings_append, unaired.airings_eq_zero, Nat.zero_add]
  have lapses_eq := lapses_append_of_unaired unaired calls
  constructor
  · exact opens.append accounts.opens
  · rw [airings_eq]
    exact accounts.airings_le
  · rw [airings_eq, lapses_eq]
    exact accounts.sent
  · exact accounts.failure
  · rw [airings_eq, lapses_eq]
    exact accounts.gaveUp

theorem behindSent (accounts : Accounts count report.addSent answer calls)
    (shows : Controller.Shows true former) :
    Accounts (count + 1) report answer (former ++ calls) := by
  have airings_eq := shows.airings_eq
  have airings_le := shows.airings_le
  simp only [if_true] at airings_eq
  constructor
  · exact shows.opens.append accounts.opens
  · have rest_le := accounts.airings_le
    rw [airings_append]
    omega
  · intro final answer_eq
    rcases accounts.sent final answer_eq with ⟨sent_eq, total_eq⟩
    rw [airings_append, lapses_append accounts.opens]
    simp only [FlushReport.addSent] at sent_eq total_eq
    omega
  · exact accounts.failure
  · intro cause answer_eq
    have short := accounts.gaveUp cause answer_eq
    rw [airings_append, lapses_append accounts.opens]
    omega

theorem behindDropped (accounts : Accounts count (report.addDropped error) answer calls)
    (shows : Controller.Shows false former) :
    Accounts (count + 1) report answer (former ++ calls) := by
  have airings_eq := shows.airings_eq
  have airings_le := shows.airings_le
  simp only [Bool.false_eq_true, if_false] at airings_eq
  constructor
  · exact shows.opens.append accounts.opens
  · have rest_le := accounts.airings_le
    rw [airings_append]
    omega
  · intro final answer_eq
    rcases accounts.sent final answer_eq with ⟨sent_eq, total_eq⟩
    rw [airings_append, lapses_append accounts.opens]
    simp only [FlushReport.addDropped] at sent_eq total_eq
    omega
  · intro final answer_eq
    have failed : final.failure ≠ none := by
      rw [Ne, accounts.failure final answer_eq]
      simp [FlushReport.addDropped]
    have counted : report.dropped < final.dropped := by
      rcases accounts.sent final answer_eq with ⟨sent_eq, total_eq⟩
      have rest_le := accounts.airings_le
      simp only [FlushReport.addDropped] at sent_eq total_eq
      omega
    simp [failed, Nat.ne_of_gt counted]
  · intro cause answer_eq
    have short := accounts.gaveUp cause answer_eq
    rw [airings_append, lapses_append accounts.opens]
    omega

/-- The radio could not be brought up behind a frame that was dropped. -/
theorem givenUp (shows : Controller.Shows false former) (unaired : Unaired calls)
    (opens : Opens calls) : Accounts (count + 1) report (.error error) (former ++ calls) := by
  have airings_eq := shows.airings_eq
  have airings_le := shows.airings_le
  simp only [Bool.false_eq_true, if_false] at airings_eq
  constructor
  · exact shows.opens.append opens
  · rw [airings_append, unaired.airings_eq_zero]
    omega
  · intro final answer_eq
    contradiction
  · intro final answer_eq
    contradiction
  · intro cause answer_eq
    rw [airings_append, lapses_append opens, unaired.airings_eq_zero]
    omega

end Accounts

/-- By induction on the frames that are left, each of which shows behind those before. -/
theorem accounts_flushUpTo {count : Nat} (report : FlushReport)
    {station : Station (Traced ρ) κ φ logSize} (length_eq : station.hub.outbox.length = count) :
    Made (Accounts count report ((flushUpTo count report).run station).1) station
      ((flushUpTo count report).run station).2 := by
  induction count generalizing report station with
  | zero => exact Controller.makes_of_trace_eq (.nothing report) rfl
  | succ count ih =>
      rw [flushUpTo, run_bind, run_takeFrame]
      cases taken : station.hub.outbox.take? with
      | none =>
          have length_zero := Outbox.length_eq_zero_of_take? taken
          omega
      | some pair =>
          rcases pair with ⟨frame, outbox⟩
          have length_succ := Outbox.length_of_take? taken
          have rest_eq : outbox.length = count := by omega
          have shown := made_transmit frame.data frame.preamble
            { station with hub := { station.hub with outbox } }
          have hub_eq := sameHub_onController (Controller.transmit frame.data frame.preamble)
            { station with hub := { station.hub with outbox } }
          dsimp only
          rw [run_bind, run_attempt]
          generalize (onController (Controller.transmit frame.data frame.preamble)).run
            { station with hub := { station.hub with outbox } } = ended at shown hub_eq ⊢
          rcases ended with ⟨error | _, left⟩
          · have absorbed := made_absorb error left
            have absorbed_eq := sameHub_absorb error left
            dsimp only
            rw [run_bind]
            generalize (absorb error).run left = recovered at absorbed absorbed_eq ⊢
            rcases recovered with ⟨cause | _, recovered⟩
            · exact shown.trans absorbed fun shows quiet => .givenUp shows quiet.1 quiet.2
            · have rest := @ih (report.addDropped error) recovered
                (by rw [absorbed_eq, hub_eq]; exact rest_eq)
              have recovers := absorbed.trans rest fun quiet accounts =>
                Accounts.prepend accounts quiet.1 quiet.2
              exact shown.trans recovers fun shows accounts => accounts.behindDropped shows
          · dsimp only
            rw [run_bind, run_modify]
            have rest := @ih report.addSent { left with faults := 0 }
              (by rw [hub_eq]; exact rest_eq)
            exact shown.trans rest fun shows accounts => accounts.behindSent shows

theorem accounts_flush (station : Station ρ κ φ logSize) :
    Accounts station.hub.outbox.length {} (flush.run station).1 (callsOf flush station) := by
  have run_eq : flush.run station.traced =
      (flushUpTo station.hub.outbox.length {}).run station.traced := by
    rw [flush, run_bind, run_get]
    rfl
  have length_eq : station.traced.hub.outbox.length = station.hub.outbox.length := rfl
  rcases accounts_flushUpTo {} length_eq with ⟨calls, trace_eq, accounts⟩
  have calls_eq : callsOf flush station = calls := by
    rw [callsOf, run_eq]
    exact trace_eq
  rw [← fst_run_traced mirrors_flush, calls_eq, run_eq]
  exact accounts

/-! ### Sending messages of the station itself -/

theorem run_flushAll (station : Station ρ κ φ logSize) :
    flushAll.run station =
      ((flush.run station).1.bind fun report => report.result.map fun _ => (),
        (flush.run station).2) := by
  rw [flushAll, run_bind]
  rcases flush.run station with ⟨cause | report, left⟩
  · rfl
  · simp only [Except.bind]
    cases report.result with
    | ok sent => rfl
    | error cause => rfl

/-- All that is queued is sent exactly if every frame goes on air and the radio does not lapse. -/
theorem run_flushAll_eq_ok_iff (station : Station ρ κ φ logSize) :
    (flushAll.run station).1 = .ok () ↔
      lapses (callsOf flushAll station) = 0 ∧
        airings (callsOf flushAll station) = station.hub.outbox.length := by
  have accounts := accounts_flush station
  have calls_eq : callsOf flushAll station = callsOf flush station := by
    rw [callsOf, run_flushAll, callsOf]
  rw [run_flushAll, calls_eq]
  cases answer_eq : (flush.run station).1 with
  | error cause =>
      have gaveUp := accounts.gaveUp cause answer_eq
      simp only [Except.bind, reduceCtorEq, false_iff]
      omega
  | ok report =>
      have failure_iff := accounts.failure report answer_eq
      have airings_le := accounts.airings_le
      rcases accounts.sent report answer_eq with ⟨sent_eq, total_eq⟩
      have result_iff : report.result.map (fun _ => ()) = .ok () ↔ report.failure = none := by
        rw [FlushReport.result]
        cases report.failure with
        | none => simp [Except.map]
        | some cause => simp [Except.map]
      dsimp only at failure_iff sent_eq total_eq
      simp only [Except.bind, result_iff, failure_iff, true_and]
      omega

/-- Puts a message into the outbox and sends all that is queued. -/
def originate (message : Hub.Operation κ φ logSize α) :
    Operation ρ κ φ logSize StationError α := do
  let answer ← onHub message
  overChannel flushAll
  pure answer

/-- A message that was queued is answered for exactly if every frame goes on air and the radio does
not lapse. -/
theorem run_originate_eq_ok_iff {message : Hub.Operation κ φ logSize α}
    {station : Station ρ κ φ logSize} {answer : α} {hub : Hub κ φ logSize}
    (queued : message.run station.hub = (.ok answer, hub)) :
    ((originate message).run station).1 = .ok answer ↔
      lapses (callsOf (originate message) station) = 0 ∧
        airings (callsOf (originate message) station) = hub.outbox.length := by
  have run_eq {σ : Type} [Timed σ] (first : Station σ κ φ logSize)
      (hub_eq : first.hub = station.hub) :
      (originate message).run first =
        (((flushAll.run { first with hub }).1.mapError .channel).map fun _ => answer,
          (flushAll.run { first with hub }).2) := by
    rw [originate, run_bind, onHub, run_zoom, hub_eq, queued]
    simp only [Except.mapError]
    simp only [run_bind, overChannel, run_zoom, id_eq]
    rcases flushAll.run { first with hub } with ⟨cause | _, left⟩
    · rfl
    · rfl
  have calls_eq : callsOf (originate message) station = callsOf flushAll { station with hub } := by
    rw [callsOf, run_eq station.traced rfl]
    rfl
  rw [run_eq station rfl, calls_eq, ← run_flushAll_eq_ok_iff]
  rcases (flushAll.run { station with hub }).1 with cause | _
  · simp [Except.map, Except.mapError]
  · simp [Except.map, Except.mapError]

variable [Config.Store κ]

theorem sendWeather_eq_originate (reading : Bytes) :
    (sendWeather reading : Operation ρ κ φ logSize StationError UInt8) =
      originate (Hub.sendWeather reading) := rfl

theorem run_sendStatus_eq (station : Station ρ κ φ logSize) :
    sendStatus.run station =
      (originate (Hub.sendStatus station.controller.statistics.report)).run station := by
  rw [sendStatus, run_bind, run_get]
  rfl

/-- A report names the frames that went on air but for those behind which the radio lapsed, and they
are what keeps a station from answering for messages that went on air. -/
theorem sent_add_lapses_eq_airings (station : Station ρ κ φ logSize) :
    (∀ report, (flush.run station).1 = .ok report →
      report.sent + lapses (callsOf flush station) = airings (callsOf flush station) ∧
        report.sent + report.dropped = station.hub.outbox.length) ∧
    (∀ reading uid hub, (Hub.sendWeather reading).run station.hub = (.ok uid, hub) →
      (((sendWeather reading).run station).1 = .ok uid ↔
        lapses (callsOf (sendWeather reading) station) = 0 ∧
          airings (callsOf (sendWeather reading) station) = hub.outbox.length)) ∧
    (∀ uid hub,
      (Hub.sendStatus station.controller.statistics.report).run station.hub = (.ok uid, hub) →
      ((sendStatus.run station).1 = .ok uid ↔
        lapses (callsOf sendStatus station) = 0 ∧
          airings (callsOf sendStatus station) = hub.outbox.length)) := by
  refine ⟨?_, ?_, ?_⟩
  · intro report flushed
    rcases (accounts_flush station).sent report flushed with ⟨sent_eq, total_eq⟩
    dsimp only at sent_eq total_eq
    omega
  · intro reading uid hub queued
    rw [sendWeather_eq_originate, sendWeather_eq_originate]
    exact run_originate_eq_ok_iff queued
  · intro uid hub queued
    rw [callsOf, run_sendStatus_eq, run_sendStatus_eq]
    exact run_originate_eq_ok_iff queued

def awakeOn (radio : Bench Echo) : Station (Bench Echo) Config.Settings RuleUpdater 0 :=
  { awake with controller := { awake.controller with radio } }

/-- The station with some more status messages in its outbox. -/
def laden (count : Nat) (station : Station (Bench Echo) Config.Settings RuleUpdater 0) :
    Station (Bench Echo) Config.Settings RuleUpdater 0 :=
  let queue (hub : Hub Config.Settings RuleUpdater 0) : Hub Config.Settings RuleUpdater 0 :=
    ((Hub.sendStatus station.controller.statistics.report).run hub).2
  { station with hub := Nat.repeat queue count station.hub }

/-- The radio fails to send once, and to listen behind the frame after that. -/
def faltering : Station (Bench Echo) Config.Settings RuleUpdater 0 :=
  awakeOn ((awake.controller.radio.addFaults .transmit .hardwareFault 0 1).addFaults
    .dutyCycle .hardwareFault 1 1)

/-- Of three frames one is not on air, one is but counts as dropped, and one counts as sent. -/
theorem sent_add_lapses_eq_airings_faltering :
    ∃ report, (flush.run (faltering.laden 3)).1 = .ok report ∧
      report.sent = 1 ∧ airings (callsOf flush (faltering.laden 3)) = 2 ∧
      report.sent + lapses (callsOf flush (faltering.laden 3)) =
        airings (callsOf flush (faltering.laden 3)) ∧
      report.sent + report.dropped = (faltering.laden 3).hub.outbox.length ∧
    ∃ uid hub, (Hub.sendWeather [1, 2]).run (faltering.laden 3).hub = (.ok uid, hub) ∧
      (((sendWeather [1, 2]).run (faltering.laden 3)).1 = .ok uid ↔
        lapses (callsOf (sendWeather [1, 2]) (faltering.laden 3)) = 0 ∧
          airings (callsOf (sendWeather [1, 2]) (faltering.laden 3)) = hub.outbox.length) := by
  rcases sent_add_lapses_eq_airings (faltering.laden 3) with ⟨reported, answered, _⟩
  have flushed : (flush.run (faltering.laden 3)).1 =
      .ok { sent := 1, dropped := 2, failure := some (.driverFault .hardwareFault) } := by
    decide +kernel
  have queued : ((Hub.sendWeather [1, 2]).run (faltering.laden 3).hub).1 = .ok 150 := by
    decide +kernel
  have hub_eq : (Hub.sendWeather [1, 2]).run (faltering.laden 3).hub =
      (.ok 150, ((Hub.sendWeather [1, 2]).run (faltering.laden 3).hub).2) :=
    Prod.ext queued rfl
  have aired : airings (callsOf flush (faltering.laden 3)) = 2 := by decide +kernel
  rcases reported _ flushed with ⟨sent_eq, total_eq⟩
  exact ⟨_, flushed, rfl, aired, sent_eq, total_eq, 150, _, hub_eq, answered _ _ _ hub_eq⟩

/-- The radio fails to listen now and then behind the next frame. -/
def lapsing : Station (Bench Echo) Config.Settings RuleUpdater 0 :=
  awakeOn (awake.controller.radio.addFaults .dutyCycle .hardwareFault 0 1)

/-- A frame that went on air counts as dropped, and the station answers for a message that went on
air with an error. -/
theorem dropped_of_airings_lapsing :
    (flush.run (lapsing.laden 1)).1 =
      .ok { sent := 0, dropped := 1, failure := some (.driverFault .hardwareFault) } ∧
    airings (callsOf flush (lapsing.laden 1)) = 1 ∧
    ((Hub.sendStatus lapsing.controller.statistics.report).run lapsing.hub).2.outbox.length = 1 ∧
    airings (callsOf sendStatus lapsing) = 1 ∧
    (sendStatus.run lapsing).1 = .error (.channel (.driverFault .hardwareFault)) := by
  decide +kernel

end Station

end StationMesh
