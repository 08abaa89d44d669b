import StationMesh.Proofs.Channel.Average
import StationMesh.Proofs.Channel.Idling
import StationMesh.Proofs.Channel.Session

/-!
# Every announced frame is counted once

How many frames were lost is told by the packet counter: a controller notes it with each clearing of
the packet signal, and the difference to the note before is how many frames were announced since.
The counter wraps, so the difference is right while that many frames fit in its width. A frame that
is refused stays announced and is counted later.
-/

namespace StationMesh.Channel

open Radio StationMesh.Action Session

/-! ### Samples -/

theorem Statistics.lost_recordLost (count : Nat) (statistics : Statistics) :
    (statistics.recordLost count).lost =
      statistics.lost.recordAll (List.replicate count fullScale) := by
  induction count generalizing statistics with
  | zero => rfl
  | succ count ih =>
      simp [recordLost, ih, Average.recordAll, List.replicate_succ]

theorem Statistics.lost_recordReceived (count : Nat) (passed : Bool) (statistics : Statistics) :
    (((statistics.recordLost count).recordReceived).recordCheck passed).lost =
      statistics.lost.recordAll (List.replicate count fullScale ++ [0]) := by
  rw [Average.recordAll_append, ← lost_recordLost]
  rfl

namespace Session

/-- The frames that were announced from one clearing of the packet signal to the next. -/
structure Group where
  size : Nat
  /-- The last of them was read, with or without a failed check. -/
  read : Bool
deriving DecidableEq, Repr

/-- A frame that was overwritten, or could not be read, is lost. -/
def Group.samples (group : Group) : List UInt32 :=
  if group.read then
    List.replicate (group.size - 1) Statistics.fullScale ++ [0]
  else
    List.replicate group.size Statistics.fullScale

theorem Group.length_samples {group : Group} (positive : 0 < group.size) :
    group.samples.length = group.size := by
  unfold samples
  split
  · simp
    omega
  · simp

/-- A frame arrives. -/
def Act.arrives : Act → Bool
  | .happen (.inject _ _) => true
  | _ => false

/-- Frames arrive and are taken off the radio, and reading may fail. -/
def Act.receives : Act → Bool
  | .happen (.inject _ _) | .ask .read | .ask .service | .ask .dequeue
  | .addFaults .read _ _ _ => true
  | _ => false

/-- The packet signal was cleared. -/
def Turn.clears (turn : Turn Echo) : Bool :=
  turn.before.radio.device.signal.waiting && !turn.after.radio.device.signal.waiting

/-- The groups that the clearings of the packet signal make, given how many frames were announced
since the last one. -/
def groups : Nat → List (Turn Echo) → List Group
  | _, [] => []
  | count, turn :: turns =>
      if turn.act.arrives then groups (count + 1) turns
      else if turn.clears then { size := count, read := !turn.faulted } :: groups 0 turns
      else groups count turns

/-- How many frames were announced since the last clearing of the packet signal. -/
def uncounted : Nat → List (Turn Echo) → Nat
  | count, [] => count
  | count, turn :: turns =>
      if turn.act.arrives then uncounted (count + 1) turns
      else if turn.clears then uncounted 0 turns
      else uncounted count turns

end Session

namespace Controller

open Radio.Bench (Undisturbed)

variable {controller left : Controller (Bench Echo)} {count : Nat}

/-- So many frames were announced since the packet signal was cleared. -/
structure Tracks (count : Nat) (controller : Controller (Bench Echo)) : Prop where
  readable : controller.radio.Readable
  counter_eq : controller.radio.device.signal.counter =
    controller.lastCounter + UInt16.ofNat count
  waiting_iff : controller.radio.device.signal.waiting = true ↔ 0 < count

/-- Nothing was counted. -/
structure Leaves (count : Nat) (before after : Controller (Bench Echo)) : Prop where
  tracks : after.Tracks count
  statistics_eq : after.statistics = before.statistics

/-- The frames that were announced were counted. -/
structure Clears (count : Nat) (read : Bool) (before after : Controller (Bench Echo)) : Prop where
  positive : 0 < count
  tracks : after.Tracks 0
  lost_eq : count < 65536 → after.statistics.lost =
    before.statistics.lost.recordAll { size := count, read : Group }.samples

theorem tracks_new {radio : Bench Echo} (readable : radio.Readable)
    (silent : radio.device.signal.waiting = false) (settings : Settings) (seed : UInt64)
    (generator : Generator) :
    (new radio settings seed generator).Tracks 0 where
  readable := by
    rw [new, readable.attend_eq]
    exact readable
  counter_eq := (UInt16.add_zero _).symm
  waiting_iff := by
    rw [new, readable.attend_eq]
    simp [silent]

theorem Tracks.announces_iff (tracks : controller.Tracks count) :
    Announces controller.radio ↔ 0 < count := by
  rw [Announces, tracks.readable.attend_eq]
  exact tracks.waiting_iff

/-- Reading does not touch the device, and only a fault in its place is used up. -/
theorem exists_run_read {bench : Bench Echo} (readable : bench.Readable) (room : Nat) :
    ∃ answer left, (Device.read room : Radio.Operation (Bench Echo) Reception).run bench =
      (answer, left) ∧ left.device = bench.device ∧ left.Readable := by
  have device_eq : ((Echo.read room).run bench.device).2 = bench.device := by
    simp only [Echo.read, run_of]
    split
    · rfl
    · split <;> rfl
  have settle_eq := Bench.settle_of_planned_eq_nil readable.planned_eq
  have faults_eq (kind : CallKind) (ne : kind ≠ .read) :=
    (Bench.faults_perform_of_ne ne (.read room) 0 (Echo.read room) bench).trans
      (readable.faults_eq kind ne)
  refine ⟨_, _, rfl, ?_⟩
  change ((Bench.perform .read (.read room) 0 (Echo.read room)).run bench).2.device = _ ∧
    ((Bench.perform .read (.read room) 0 (Echo.read room)).run bench).2.Readable
  rcases Bench.run_perform_cases .read (.read room) 0 (Echo.read room) bench with
    ⟨error, faults, calls, run_eq⟩ | ⟨faults, calls, run_eq⟩
  · rw [run_eq, settle_eq] at faults_eq ⊢
    exact ⟨rfl, readable.up, readable.planned_eq, faults_eq⟩
  · rw [run_eq, settle_eq, device_eq] at faults_eq ⊢
    exact ⟨rfl, readable.up, readable.planned_eq, faults_eq⟩

/-! ### One frame -/

theorem Tracks.withRadio (tracks : controller.Tracks count) {radio : Bench Echo}
    (readable : radio.Readable) (device_eq : radio.device = controller.radio.device) :
    { controller with radio }.Tracks count := by
  refine ⟨readable, ?_, ?_⟩
  · rw [device_eq]
    exact tracks.counter_eq
  · rw [device_eq]
    exact tracks.waiting_iff

theorem Tracks.counted_eq (tracks : controller.Tracks count) (positive : 0 < count) :
    controller.counted = controller.radio.device.signal.counter := by
  rw [counted, tracks.readable.attend_eq]
  change controller.radio.device.signal.announced.getD _ = _
  rw [Signal.announced, if_pos (tracks.waiting_iff.mpr positive), Option.getD_some]

/-- The difference of the counters is how many frames were announced, unless the counter wrapped
around in between. -/
theorem Tracks.announced_eq (tracks : controller.Tracks count) (positive : 0 < count)
    (few : count < 65536) : (controller.counted - controller.lastCounter).toNat = count := by
  rw [tracks.counted_eq positive, tracks.counter_eq, UInt16.add_comm, UInt16.add_sub_cancel]
  exact UInt16.toNat_ofNat_of_lt' few

theorem Tracks.lost_of_failed (tracks : controller.Tracks count) (positive : 0 < count)
    (few : count < 65536) :
    (controller.statistics.recordLost
      (controller.counted - controller.lastCounter).toNat).lost =
        controller.statistics.lost.recordAll { size := count, read := false : Group }.samples := by
  rw [tracks.announced_eq positive few, Statistics.lost_recordLost]
  rfl

theorem Tracks.lost_of_read (tracks : controller.Tracks count) (positive : 0 < count)
    (passed : Bool) (few : count < 65536) :
    (((controller.statistics.recordLost
      ((controller.counted - controller.lastCounter).toNat - 1)).recordReceived).recordCheck
        passed).lost =
        controller.statistics.lost.recordAll { size := count, read := true : Group }.samples := by
  rw [tracks.announced_eq positive few, Statistics.lost_recordReceived]
  rfl

/-- Once the announced frames were taken note of, the radio is put back into its idle state. -/
theorem Tracks.clears (tracks : controller.Tracks count) (positive : 0 < count)
    (queue : ReceiveQueue queueSlots queueArena) {statistics : Statistics} {read : Bool}
    (lost_eq : count < 65536 → statistics.lost =
      controller.statistics.lost.recordAll { size := count, read : Group }.samples) :
    ∃ left, (enterIdle : Operation (Bench Echo) Unit).run
      { controller with
        radio := heeded controller.radio
        queue
        statistics
        lastCounter := controller.counted } = (.ok (), left) ∧
      Clears count read controller left := by
  have waiting : controller.radio.device.signal.waiting = true := tracks.waiting_iff.mpr positive
  have heeded_eq : heeded controller.radio = Device.acknowledge controller.radio := by
    rw [heeded, tracks.readable.attend_eq]
    exact if_pos waiting
  let noted : Controller (Bench Echo) := { controller with
    radio := heeded controller.radio
    queue
    statistics
    lastCounter := controller.counted }
  have readable : noted.radio.Readable := by
    change (heeded controller.radio).Readable
    rw [heeded_eq]
    exact ⟨tracks.readable.up, tracks.readable.planned_eq, tracks.readable.faults_eq⟩
  rcases exists_run_enterIdle_of_readable readable with ⟨radio, run_eq, undisturbed⟩
  have signal_eq : radio.device.signal = controller.radio.device.signal.lower := by
    rw [undisturbed.signal_eq]
    change (heeded controller.radio).device.signal = _
    rw [heeded_eq]
    rfl
  refine ⟨_, run_eq, positive, ⟨undisturbed.readable readable, ?_, ?_⟩, lost_eq⟩
  · rw [signal_eq]
    change controller.radio.device.signal.counter = controller.counted + 0
    rw [tracks.counted_eq positive, UInt16.add_zero]
  · simp [signal_eq, Signal.lower]

/-- All frames that were announced are lost if the last of them cannot be read. -/
theorem Tracks.fails (tracks : controller.Tracks count) (positive : 0 < count) {room : Nat}
    (writable : controller.queue.writable = some room) {error : DeviceError} {radio : Bench Echo}
    (failed : (Device.read room : Radio.Operation (Bench Echo) _).run
      (Device.attend controller.radio) = (.error error, radio))
    (error_ne : error ≠ .bufferTooSmall) (radioTracks : { controller with radio }.Tracks count) :
    ∃ left, (readIfPossible : Operation (Bench Echo) _).run controller =
      (.error (.driverFault error), left) ∧ Clears count false controller left := by
  have run_eq := run_readIfPossible_of_failed (tracks.announces_iff.mpr positive) writable failed
    error_ne
  rcases radioTracks.clears positive controller.queue (radioTracks.lost_of_failed positive) with
    ⟨left, entered, cleared⟩
  refine ⟨left, ?_, cleared.positive, cleared.tracks, cleared.lost_eq⟩
  rw [run_eq, run_bind_ok entered]
  rfl

/-- All frames that were announced but the last one are lost if that one is read. -/
theorem Tracks.receives (tracks : controller.Tracks count) (positive : 0 < count) {room : Nat}
    (writable : controller.queue.writable = some room) {reception : Reception} {radio : Bench Echo}
    (answered : (Device.read room : Radio.Operation (Bench Echo) _).run
      (Device.attend controller.radio) = (.ok reception, radio))
    (radioTracks : { controller with radio }.Tracks count) :
    ∃ left, (readIfPossible : Operation (Bench Echo) _).run controller =
      (if reception.intact then .ok (some reception.data.length) else .error .crcMismatch, left) ∧
        Clears count true controller left := by
  have run_eq := run_readIfPossible_of_received (tracks.announces_iff.mpr positive) writable
    answered
  have clears (queue : ReceiveQueue queueSlots queueArena) :=
    radioTracks.clears positive queue (radioTracks.lost_of_read positive reception.intact)
  cases intact : reception.intact with
  | true =>
      rcases clears (controller.queue.lay reception.data) with ⟨left, entered, cleared⟩
      refine ⟨left, ?_, cleared.positive, cleared.tracks, cleared.lost_eq⟩
      rw [run_eq, if_pos intact, run_bind_ok entered]
      rfl
  | false =>
      rcases clears controller.queue with ⟨left, entered, cleared⟩
      refine ⟨left, ?_, cleared.positive, cleared.tracks, cleared.lost_eq⟩
      rw [run_eq, if_neg (Bool.eq_false_iff.mp intact), run_bind_ok entered]
      rfl

/-- How a try to take a frame off the radio counts: nothing is announced or there is no room, the
frame cannot be read, or it is read. -/
theorem exists_run_readIfPossible_of_tracks (tracks : controller.Tracks count) :
    ∃ answer left, (readIfPossible : Operation (Bench Echo) _).run controller = (answer, left) ∧
      (Leaves count controller left ∧ (answer = .ok none ∨ answer = .error .queueFull) ∨
        Clears count false controller left ∧ (∃ error, answer = .error (.driverFault error)) ∨
        Clears count true controller left ∧
          ((∃ length, answer = .ok (some length)) ∨ answer = .error .crcMismatch)) := by
  have attend_eq := tracks.readable.attend_eq
  by_cases announces : Announces controller.radio
  · have positive := tracks.announces_iff.mp announces
    cases writable : controller.queue.writable with
    | none =>
        refine ⟨_, _, run_readIfPossible_of_full announces writable, .inl ⟨⟨?_, rfl⟩, .inr rfl⟩⟩
        rw [attend_eq]
        exact tracks
    | some room =>
        rcases exists_run_read tracks.readable room with ⟨answer, radio, read, device_eq, readable⟩
        have radioTracks := tracks.withRadio readable device_eq
        rw [← attend_eq] at read
        rcases answer with error | reception
        · by_cases tooSmall : error = .bufferTooSmall
          · subst tooSmall
            exact ⟨_, _, run_readIfPossible_of_tooSmall announces writable read,
              .inl ⟨⟨radioTracks, rfl⟩, .inr rfl⟩⟩
          · rcases tracks.fails positive writable read tooSmall radioTracks with
              ⟨left, run_eq, cleared⟩
            exact ⟨_, left, run_eq, .inr (.inl ⟨cleared, error, rfl⟩)⟩
        · rcases tracks.receives positive writable read radioTracks with ⟨left, run_eq, cleared⟩
          refine ⟨_, left, run_eq, .inr (.inr ⟨cleared, ?_⟩)⟩
          split
          · exact .inl ⟨_, rfl⟩
          · exact .inr rfl
  · refine ⟨_, _, run_readIfPossible_of_silent announces, .inl ⟨⟨?_, rfl⟩, .inl rfl⟩⟩
    rw [attend_eq]
    exact tracks

/-! ### Sessions -/

theorem run_serviceUpTo_of_tracks_zero (tracks : controller.Tracks 0) (fuel received : Nat) :
    (serviceUpTo (fuel + 1) received : Operation (Bench Echo) _).run controller =
      (.ok received, controller) := by
  have silent : ¬Announces controller.radio := by simp [tracks.announces_iff]
  simp only [serviceUpTo, run_bind, run_attempt, run_readIfPossible_of_silent silent,
    tracks.readable.attend_eq]
  rfl

/-- No frame arrives meanwhile, so the packet signal is cleared once at most. -/
theorem exists_run_serviceReceiver_of_tracks (tracks : controller.Tracks count) :
    ∃ answer left, (serviceReceiver : Operation (Bench Echo) _).run controller = (answer, left) ∧
      (Leaves count controller left ∧ (∃ received, answer = .ok received) ∨
        Clears count false controller left ∧ (∃ error, answer = .error (.driverFault error)) ∨
        Clears count true controller left ∧ ∃ received, answer = .ok received) := by
  rw [serviceReceiver, run_bind, run_get]
  dsimp only
  rw [serviceUpTo, run_bind, run_attempt]
  rcases exists_run_readIfPossible_of_tracks tracks with ⟨answer, left, run_eq, counts⟩
  rw [run_eq]
  rcases counts with ⟨leaves, rfl | rfl⟩ | ⟨clears, error, rfl⟩ | ⟨clears, ⟨length, rfl⟩ | rfl⟩
  · exact ⟨_, _, rfl, .inl ⟨leaves, _, rfl⟩⟩
  · exact ⟨_, _, rfl, .inl ⟨leaves, _, rfl⟩⟩
  · exact ⟨_, _, rfl, .inr (.inl ⟨clears, error, rfl⟩)⟩
  · exact ⟨_, _, run_serviceUpTo_of_tracks_zero clears.tracks _ 1, .inr (.inr ⟨clears, 1, rfl⟩)⟩
  · exact ⟨_, _, run_serviceUpTo_of_tracks_zero clears.tracks _ 0, .inr (.inr ⟨clears, 0, rfl⟩)⟩

/-- One frame more is announced. -/
theorem Tracks.arrive (tracks : controller.Tracks count) (data : Bytes) (intact : Bool) :
    Leaves (count + 1) controller
      { controller with radio := controller.radio.poke (.inject data intact) } := by
  refine ⟨⟨⟨tracks.readable.up, tracks.readable.planned_eq, tracks.readable.faults_eq⟩, ?_, ?_⟩,
    rfl⟩
  · change controller.radio.device.signal.counter + 1 = _
    rw [tracks.counter_eq, UInt16.ofNat_add, UInt16.add_assoc]
    rfl
  · simp [Bench.poke, Pokeable.poke, Echo.inject, Signal.raise]

theorem Tracks.addFaults (tracks : controller.Tracks count) (error : DeviceError)
    (skip more : Nat) :
    Leaves count controller
      { controller with radio := controller.radio.addFaults .read error skip more } := by
  refine ⟨⟨⟨tracks.readable.up, tracks.readable.planned_eq, ?_⟩, tracks.counter_eq,
    tracks.waiting_iff⟩, rfl⟩
  intro kind ne
  simpa [Bench.addFaults, ne] using tracks.readable.faults_eq kind ne

/-- How a turn counts. -/
inductive Counts (count : Nat) (turn : Turn Echo) : Prop
  | arrives (arrival : turn.act.arrives = true) (leaves : Leaves (count + 1) turn.before turn.after)
  | leaves (other : turn.act.arrives = false) (leaves : Leaves count turn.before turn.after)
  | clears (other : turn.act.arrives = false) (accepted : turn.answer ≠ .error .queueFull)
      (clears : Clears count (!turn.faulted) turn.before turn.after)

theorem counts_read (tracks : controller.Tracks count) :
    Counts count (Session.take (.ask .read) controller) := by
  rcases exists_run_readIfPossible_of_tracks tracks with ⟨answer, left, run_eq, counts⟩
  have turn_eq : Session.take (.ask .read) controller =
      ⟨.ask .read, controller, answer.map .received, left⟩ := by
    simp only [Session.take, Act.operation, Request.operation, run_answer, run_eq]
  rw [turn_eq]
  rcases counts with ⟨leaves, _⟩ | ⟨clears, error, rfl⟩ | ⟨clears, ⟨length, rfl⟩ | rfl⟩
  · exact .leaves rfl leaves
  · exact .clears rfl (by simp [Except.map]) clears
  · exact .clears rfl (by simp [Except.map]) clears
  · exact .clears rfl (by simp [Except.map]) clears

theorem counts_service (tracks : controller.Tracks count) :
    Counts count (Session.take (.ask .service) controller) := by
  rcases exists_run_serviceReceiver_of_tracks tracks with ⟨answer, left, run_eq, counts⟩
  have turn_eq : Session.take (.ask .service) controller =
      ⟨.ask .service, controller, answer.map .serviced, left⟩ := by
    simp only [Session.take, Act.operation, Request.operation, run_answer, run_eq]
  rw [turn_eq]
  rcases counts with ⟨leaves, _⟩ | ⟨clears, error, rfl⟩ | ⟨clears, received, rfl⟩
  · exact .leaves rfl leaves
  · exact .clears rfl (by simp [Except.map]) clears
  · exact .clears rfl (by simp [Except.map]) clears

theorem counts_take {act : Act} (tracks : controller.Tracks count)
    (receives : act.receives = true) : Counts count (Session.take act controller) := by
  match act with
  | .happen (.inject data intact) => exact .arrives rfl (tracks.arrive data intact)
  | .ask .read => exact counts_read tracks
  | .ask .service => exact counts_service tracks
  | .ask .dequeue =>
      exact .leaves rfl ⟨⟨tracks.readable, tracks.counter_eq, tracks.waiting_iff⟩, rfl⟩
  | .addFaults .read error skip more => exact .leaves rfl (tracks.addFaults error skip more)

/-- What the turns of a session add to the average, and what is still to be counted. -/
structure Counted (count : Nat) (start : Controller (Bench Echo)) (turns : List (Turn Echo))
    (left : Controller (Bench Echo)) : Prop where
  lost_eq : (∀ group ∈ groups count turns, group.size < 65536) → left.statistics.lost =
    start.statistics.lost.recordAll ((groups count turns).flatMap Group.samples)
  length_eq : ((groups count turns).flatMap Group.samples).length + uncounted count turns =
    count + turns.countP (·.act.arrives)
  tracks : left.Tracks (uncounted count turns)

section Turns

variable {turn : Turn Echo} {turns : List (Turn Echo)}

theorem Leaves.clears_eq_false {more : Nat} (leaves : Leaves more turn.before turn.after)
    (tracks : turn.before.Tracks count) (le : count ≤ more) : turn.clears = false := by
  rw [Bool.eq_false_iff]
  simp only [Turn.clears, Bool.and_eq_true, tracks.waiting_iff, Bool.not_eq_true',
    Bool.eq_false_iff, ne_eq, leaves.tracks.waiting_iff]
  omega

theorem Counted.arrive (arrival : turn.act.arrives = true)
    (leaves : Leaves (count + 1) turn.before turn.after)
    (counted : Counted (count + 1) turn.after turns left) :
    Counted count turn.before (turn :: turns) left where
  lost_eq := by
    simpa [groups, arrival, leaves.statistics_eq] using counted.lost_eq
  length_eq := by
    have length_eq := counted.length_eq
    simp only [groups, uncounted, arrival, if_true, List.countP_cons]
    omega
  tracks := by
    simpa [uncounted, arrival] using counted.tracks

theorem Counted.leave (other : turn.act.arrives = false) (tracks : turn.before.Tracks count)
    (leaves : Leaves count turn.before turn.after) (counted : Counted count turn.after turns left) :
    Counted count turn.before (turn :: turns) left := by
  have kept := leaves.clears_eq_false tracks (Nat.le_refl count)
  constructor
  · simpa [groups, other, kept, leaves.statistics_eq] using counted.lost_eq
  · simpa [groups, uncounted, other, kept] using counted.length_eq
  · simpa [uncounted, other, kept] using counted.tracks

theorem Counted.clear (other : turn.act.arrives = false) (tracks : turn.before.Tracks count)
    (clears : Clears count (!turn.faulted) turn.before turn.after)
    (counted : Counted 0 turn.after turns left) :
    Counted count turn.before (turn :: turns) left := by
  have cleared : turn.clears = true := by
    simp [Turn.clears, tracks.waiting_iff, clears.positive, Bool.eq_false_iff,
      clears.tracks.waiting_iff]
  have samples_length : ({ size := count, read := !turn.faulted } : Group).samples.length = count :=
    Group.length_samples clears.positive
  have length_eq := counted.length_eq
  constructor
  · simp only [groups, other, cleared, Bool.false_eq_true, if_true, if_false,
      List.forall_mem_cons, List.flatMap_cons]
    rintro ⟨few, others⟩
    rw [counted.lost_eq others, clears.lost_eq few, Average.recordAll_append]
  · simp only [groups, uncounted, other, cleared, Bool.false_eq_true, if_true, if_false,
      List.flatMap_cons, List.length_append, List.countP_cons]
    omega
  · simpa [uncounted, other, cleared] using counted.tracks

end Turns

theorem counted_session {start : Controller (Bench Echo)} {acts : List Act}
    (tracks : start.Tracks count) (receives : ∀ act ∈ acts, act.receives = true) :
    Counted count start (history acts start) (Session.after acts start) := by
  induction acts generalizing start count with
  | nil => exact ⟨fun _ => rfl, Nat.zero_add _, tracks⟩
  | cons act acts ih =>
      rw [List.forall_mem_cons] at receives
      rw [history_cons]
      rcases counts_take tracks receives.1 with
        ⟨arrival, leaves⟩ | ⟨other, leaves⟩ | ⟨other, _, clears⟩
      · exact .arrive arrival leaves (ih leaves.tracks receives.2)
      · exact .leave other tracks leaves (ih leaves.tracks receives.2)
      · exact .clear other tracks clears (ih clears.tracks receives.2)

/-- In every session in which frames arrive and are taken off the radio, and only reading may fail,
the average of lost frames is made of one sample for each frame that was announced before the last
clearing of the packet signal. Clearing by clearing, that is a sample of no loss for the last frame
if it was read and a full loss for each other one. A frame that is refused stays as it is. -/
theorem lost_eq_recordAll {start : Controller (Bench Echo)} (tracks : start.Tracks 0)
    (acts : List Act) (receives : ∀ act ∈ acts, act.receives = true)
    (few : ∀ group ∈ groups 0 (history acts start), group.size < 65536) :
    let turns := history acts start
    let samples := (groups 0 turns).flatMap Group.samples
    (Session.after acts start).statistics.lost = start.statistics.lost.recordAll samples ∧
      samples.length + uncounted 0 turns = turns.countP (·.act.arrives) ∧
      ∀ turn ∈ turns, turn.answer = .error .queueFull →
        turn.clears = false ∧ turn.after.statistics = turn.before.statistics := by
  have counted := counted_session tracks receives
  refine ⟨counted.lost_eq few, counted.length_eq.trans (Nat.zero_add _), ?_⟩
  intro turn mem refused
  rcases mem_history_iff.mp mem with ⟨former, act, latter, rfl, rfl⟩
  simp only [List.forall_mem_append, List.forall_mem_cons] at receives
  have before := (counted_session tracks receives.1).tracks
  rcases counts_take before receives.2.1 with
    ⟨_, leaves⟩ | ⟨_, leaves⟩ | ⟨_, accepted, _⟩
  · exact ⟨leaves.clears_eq_false before (Nat.le_succ _), leaves.statistics_eq⟩
  · exact ⟨leaves.clears_eq_false before (Nat.le_refl _), leaves.statistics_eq⟩
  · contradiction

/-- An echo radio that is up and fails the second time it is read. -/
def stutters : Bench Echo where
  device := { up := true }
  faults kind := if kind = .read then [none, some .hardwareFault] else []

/-- A frame is overwritten, one cannot be read, one is refused and then overwritten by one that
fails its check. -/
def overwrittenAndRefused : List Act :=
  [.happen (.inject [1] true), .happen (.inject [2] true), .ask .read,
    .happen (.inject [3] true), .ask .read,
    .happen (.inject (List.replicate 255 4) true), .ask .read,
    .happen (.inject [5] false), .ask .service]

theorem lost_eq_recordAll_overwrittenAndRefused :
    let start := new stutters {} 7
    start.Tracks 0 ∧
      groups 0 (history overwrittenAndRefused start) = [⟨2, true⟩, ⟨1, false⟩, ⟨2, true⟩] ∧
      (Session.after overwrittenAndRefused start).statistics.lost =
        start.statistics.lost.recordAll [10000, 0, 10000, 10000, 0] := by
  intro start
  have readable : stutters.Readable := ⟨rfl, rfl, fun kind ne => if_neg ne⟩
  have tracks : start.Tracks 0 := tracks_new readable rfl {} 7 .wyRand
  have groups_eq : groups 0 (history overwrittenAndRefused start) =
      [⟨2, true⟩, ⟨1, false⟩, ⟨2, true⟩] := by decide +kernel
  have few : ∀ group ∈ groups 0 (history overwrittenAndRefused start), group.size < 65536 := by
    rw [groups_eq]
    decide
  have lost_eq := (lost_eq_recordAll tracks overwrittenAndRefused (by decide) few).1
  rw [groups_eq] at lost_eq
  exact ⟨tracks, groups_eq, lost_eq⟩

end Controller

end StationMesh.Channel
