import StationMesh.Proofs.Channel.Idling

/-!
# Received frames are handed out once and in order

Between an echo radio that is up and the station stand two stores: the radio holds one frame, which
the next one overwrites, and the receive queue holds the frames that were taken off it. Here frames
arrive, are taken off and are handed out in any order. The frames that come out are those that were
taken off the radio before another one arrived and passed their check, and a frame for which there
is no room stays in the radio.
-/

namespace StationMesh.Radio.Bench

open StationMesh.Action StationMesh.Channel

variable {α : Type} {bench : Bench Echo}

/-- The frame that the radio announces. -/
def pending (bench : Bench Echo) : Option Reception :=
  if bench.device.signal.waiting then
    some { data := bench.device.buffer, intact := bench.device.intact }
  else
    none

/-- The radio is up, and nothing is planned to happen to it. -/
structure Steady (bench : Bench Echo) : Prop where
  up : bench.device.up = true
  planned_eq : bench.planned = []
  faults_eq : ∀ kind, bench.faults kind = []

theorem pending_eq_some {reception : Reception} (pending_eq : bench.pending = some reception) :
    bench.device.signal.waiting = true ∧
      { data := bench.device.buffer, intact := bench.device.intact } = reception := by
  unfold pending at pending_eq
  split at pending_eq
  · rename_i waiting
    exact ⟨waiting, Option.some.inj pending_eq⟩
  · contradiction

namespace Steady

theorem readable (steady : bench.Steady) : bench.Readable :=
  ⟨steady.up, steady.planned_eq, fun kind _ => steady.faults_eq kind⟩

theorem attend_eq (steady : bench.Steady) : Device.attend bench = bench :=
  steady.readable.attend_eq

theorem of_undisturbed (steady : bench.Steady) {left : Bench Echo}
    (undisturbed : Undisturbed bench left) : left.pending = bench.pending ∧ left.Steady := by
  rcases undisturbed with ⟨up_eq, signal_eq, buffer_eq, intact_eq, planned_eq, faults_eq⟩
  refine ⟨?_, up_eq.trans steady.up, planned_eq.trans steady.planned_eq, ?_⟩
  · simp only [pending, signal_eq, buffer_eq, intact_eq]
  · simp only [faults_eq]
    exact steady.faults_eq

theorem announces_iff (steady : bench.Steady) :
    Controller.Announces bench ↔ ∃ reception, bench.pending = some reception := by
  rw [Controller.Announces, steady.attend_eq, pending]
  change bench.device.signal.waiting = true ↔ _
  cases bench.device.signal.waiting with
  | true => simp
  | false => simp

theorem run_perform (steady : bench.Steady) (kind : CallKind) (call : Call)
    (operation : Operation Echo α) (up : (operation.run bench.device).2.up = true) :
    ∃ left : Bench Echo, (perform kind call 0 operation).run bench =
      ((operation.run bench.device).1, left) ∧
      left.device = (operation.run bench.device).2 ∧ left.Steady := by
  rcases run_perform_of_faults_eq_nil (steady.faults_eq kind) call 0 operation with
    ⟨calls, run_eq⟩
  rw [settle_of_planned_eq_nil steady.planned_eq] at run_eq
  exact ⟨_, run_eq, rfl, ⟨up, steady.planned_eq, steady.faults_eq⟩⟩

/-- A frame that is read stays announced, and so does one that does not fit. -/
theorem run_read (steady : bench.Steady) {reception : Reception}
    (pending_eq : bench.pending = some reception) (room : Nat) :
    ∃ left : Bench Echo, (Device.read room : Operation (Bench Echo) _).run bench =
      (if room < reception.data.length then .error .bufferTooSmall else .ok reception, left) ∧
      left.pending = some reception ∧ left.Steady := by
  have run_eq : (Echo.read room).run bench.device =
      (if room < reception.data.length then .error .bufferTooSmall else .ok reception,
        bench.device) := by
    rcases pending_eq_some pending_eq with ⟨_, rfl⟩
    simp only [Echo.read, run_of, steady.up, Bool.not_true, Bool.false_eq_true, if_false]
    split
    · rfl
    · rfl
  have up : ((Echo.read room).run bench.device).2.up = true := by rw [run_eq]; exact steady.up
  rcases steady.run_perform .read (.read room) (Echo.read room) up with
    ⟨left, performed, device_eq, leftSteady⟩
  rw [run_eq] at performed device_eq
  refine ⟨left, performed, ?_, leftSteady⟩
  rw [pending, device_eq]
  exact pending_eq

theorem pending_heeded (steady : bench.Steady) :
    (Controller.heeded bench).pending = none ∧ (Controller.heeded bench).Steady := by
  rw [Controller.heeded, steady.attend_eq]
  split
  · exact ⟨rfl, ⟨steady.up, steady.planned_eq, steady.faults_eq⟩⟩
  · rename_i silent
    exact ⟨if_neg silent, steady⟩

end Steady

end StationMesh.Radio.Bench

namespace StationMesh.Channel.Controller

open Radio StationMesh.Action

variable {controller : Controller (Bench Echo)} {reception : Reception}

/-- The frame that waits in the radio. -/
abbrev pending (controller : Controller (Bench Echo)) : Option Reception := controller.radio.pending

/-- The radio is up and works, and the receive queue is sound. -/
structure Ready (controller : Controller (Bench Echo)) : Prop where
  steady : controller.radio.Steady
  sound : controller.queue.Sound

/-- There is a free slot in the receive queue, a byte is left, and the frame does not take more than
what is left. -/
structure Fits (reception : Reception) (controller : Controller (Bench Echo)) : Prop where
  slot : controller.queue.write < queueSlots
  left : controller.queue.offset < queueArena
  room : controller.queue.offset + reception.data.length ≤ queueArena

/-- What comes into the queue when a frame is taken off the radio. -/
def kept (reception : Reception) : List Bytes := if reception.intact then [reception.data] else []

theorem Fits.writable (fits : controller.Fits reception) :
    controller.queue.writable = some controller.queue.free ∧
      reception.data.length ≤ controller.queue.free := by
  rcases fits with ⟨slot, left, room⟩
  constructor
  · rw [ReceiveQueue.writable, if_neg (by omega)]
  · rw [ReceiveQueue.free]
    omega

theorem lt_of_not_fits (refused : ¬controller.Fits reception) {room : Nat}
    (writable : controller.queue.writable = some room) : room < reception.data.length := by
  unfold ReceiveQueue.writable ReceiveQueue.free at writable
  split at writable
  · contradiction
  · rename_i space
    rw [not_or, Nat.not_le, Nat.not_le] at space
    rw [Option.some.injEq] at writable
    by_contra le
    exact refused ⟨space.1, space.2, by omega⟩

theorem run_enterIdle (ready : controller.Ready) :
    ∃ radio, (enterIdle : Operation (Bench Echo) Unit).run controller =
      (.ok (), { controller with radio }) ∧
      radio.pending = controller.pending ∧ radio.Steady := by
  rcases exists_run_enterIdle_of_readable ready.steady.readable with ⟨radio, run_eq, undisturbed⟩
  exact ⟨radio, run_eq, ready.steady.of_undisturbed undisturbed⟩

/-! ### Taking a frame off the radio -/

theorem run_readIfPossible_of_pending_eq_none (ready : controller.Ready)
    (pending_eq : controller.pending = none) :
    (readIfPossible : Operation (Bench Echo) _).run controller = (.ok none, controller) := by
  have silent : ¬Announces controller.radio := by
    rw [ready.steady.announces_iff]
    rintro ⟨reception, announced⟩
    have absurdity := announced.symm.trans pending_eq
    contradiction
  rw [run_readIfPossible_of_silent silent, ready.steady.attend_eq]

/-- A frame for which there is no room stays in the radio. -/
theorem run_readIfPossible_of_not_fits (ready : controller.Ready)
    (pending_eq : controller.pending = some reception) (refused : ¬controller.Fits reception) :
    ∃ radio, (readIfPossible : Operation (Bench Echo) _).run controller =
      (.error .queueFull, { controller with radio }) ∧
      radio.pending = some reception ∧ radio.Steady := by
  have announces : Announces controller.radio :=
    ready.steady.announces_iff.mpr ⟨reception, pending_eq⟩
  cases writable : controller.queue.writable with
  | none =>
      refine ⟨controller.radio, ?_, pending_eq, ready.steady⟩
      rw [run_readIfPossible_of_full announces writable, ready.steady.attend_eq]
  | some room =>
      rcases ready.steady.run_read pending_eq room with ⟨left, read_eq, left_pending, steady⟩
      rw [if_pos (lt_of_not_fits refused writable)] at read_eq
      refine ⟨left, ?_, left_pending, steady⟩
      apply run_readIfPossible_of_tooSmall announces writable
      rw [ready.steady.attend_eq]
      exact read_eq

/-- A frame for which there is room is taken off the radio, and kept if it passed its check. -/
theorem run_readIfPossible_of_fits (ready : controller.Ready)
    (pending_eq : controller.pending = some reception) (fits : controller.Fits reception) :
    ∃ left : Controller (Bench Echo), (readIfPossible : Operation (Bench Echo) _).run controller =
      (if reception.intact then .ok (some reception.data.length) else .error .crcMismatch, left) ∧
      left.pending = none ∧ left.queue.frames = controller.queue.frames ++ kept reception ∧
      left.Ready := by
  have announces : Announces controller.radio :=
    ready.steady.announces_iff.mpr ⟨reception, pending_eq⟩
  rcases fits.writable with ⟨writable, le⟩
  rcases ready.steady.run_read pending_eq controller.queue.free with
    ⟨radio, read_eq, radio_pending, steady⟩
  rw [if_neg (Nat.not_lt.mpr le)] at read_eq
  rcases steady.pending_heeded with ⟨heeded_pending, heededSteady⟩
  have answered : (Device.read controller.queue.free : Radio.Operation (Bench Echo) _).run
      (Device.attend controller.radio) = (.ok reception, radio) := by
    rw [ready.steady.attend_eq]
    exact read_eq
  rcases run_readIfPossible_of_ok announces writable answered with
    ⟨statistics, lastCounter, _, run_eq⟩
  rw [run_eq]
  cases intact : reception.intact with
  | true =>
      have stored : Ready { controller with
          radio := heeded radio
          queue := controller.queue.lay reception.data
          statistics
          lastCounter } :=
        ⟨heededSteady, ReceiveQueue.sound_lay ready.sound reception.data⟩
      rcases run_enterIdle stored with ⟨idling, entered, idling_pending, idlingSteady⟩
      refine ⟨{ controller with
          radio := idling
          queue := controller.queue.lay reception.data
          statistics
          lastCounter }, ?_, idling_pending.trans heeded_pending, ?_, ⟨idlingSteady, stored.sound⟩⟩
      · simp [run_bind, entered, -bind_pure_comp]
      · rw [kept, intact, if_pos rfl]
        exact ReceiveQueue.frames_lay ready.sound ⟨fits.slot, fits.room⟩
  | false =>
      have noted : Ready { controller with radio := heeded radio, statistics, lastCounter } :=
        ⟨heededSteady, ready.sound⟩
      rcases run_enterIdle noted with ⟨idling, entered, idling_pending, idlingSteady⟩
      refine ⟨{ controller with radio := idling, statistics, lastCounter }, ?_,
        idling_pending.trans heeded_pending, ?_, ⟨idlingSteady, ready.sound⟩⟩
      · simp [run_bind, entered]
      · rw [kept, intact, if_neg Bool.false_ne_true, List.append_nil]

theorem run_serviceUpTo_of_pending_eq_none (ready : controller.Ready)
    (pending_eq : controller.pending = none) (fuel received : Nat) :
    (serviceUpTo (fuel + 1) received : Operation (Bench Echo) _).run controller =
      (.ok received, controller) := by
  simp only [serviceUpTo, run_bind, run_attempt,
    run_readIfPossible_of_pending_eq_none ready pending_eq]
  rfl

theorem refused_of_not_fits (ready : controller.Ready)
    (pending_eq : controller.pending = some reception) (refused : ¬controller.Fits reception) :
    ∃ radio, radio.pending = some reception ∧ radio.Steady ∧
      (readIfPossible : Operation (Bench Echo) _).run controller =
        (.error .queueFull, { controller with radio }) ∧
      (serviceReceiver : Operation (Bench Echo) _).run controller =
        (.ok 0, { controller with radio }) := by
  rcases run_readIfPossible_of_not_fits ready pending_eq refused with
    ⟨radio, read_eq, radio_pending, steady⟩
  refine ⟨radio, radio_pending, steady, read_eq, ?_⟩
  simp only [serviceReceiver, serviceUpTo, run_bind, run_get, run_attempt, read_eq]
  rfl

/-- Once the frame is off the radio, the receiver finds nothing more to do. -/
theorem taken_of_fits (ready : controller.Ready)
    (pending_eq : controller.pending = some reception) (fits : controller.Fits reception) :
    ∃ left : Controller (Bench Echo), left.pending = none ∧
      left.queue.frames = controller.queue.frames ++ kept reception ∧ left.Ready ∧
      (readIfPossible : Operation (Bench Echo) _).run controller =
        (if reception.intact then .ok (some reception.data.length) else .error .crcMismatch, left) ∧
      (serviceReceiver : Operation (Bench Echo) _).run controller =
        (.ok (kept reception).length, left) := by
  rcases run_readIfPossible_of_fits ready pending_eq fits with
    ⟨left, read_eq, left_pending, frames_eq, leftReady⟩
  refine ⟨left, left_pending, frames_eq, leftReady, read_eq, ?_⟩
  have drained (received : Nat) := run_serviceUpTo_of_pending_eq_none leftReady left_pending
    (Timed.horizon controller.radio) received
  rw [serviceReceiver, run_bind, run_get]
  dsimp only
  rw [serviceUpTo, run_bind, run_attempt, read_eq, kept]
  cases reception.intact with
  | true => exact drained 1
  | false => exact drained 0

/-! ### Runs -/

/-- What can be done to a controller while its radio works. -/
inductive Step where
  /-- A frame arrives that fits in the buffer of the radio. -/
  | arrive (reception : Reception) (short : reception.data.length ≤ bufferSize)
  | read
  | service
  | dequeue

/-- What a step brings about. -/
inductive Event where
  | arrived (reception : Reception)
  /-- The frame that the radio announced was taken off it. -/
  | fetched
  | handedOut (frame : Bytes)
deriving DecidableEq, Repr

/-- The controller after its radio received a frame. -/
def arrive (reception : Reception) (controller : Controller (Bench Echo)) :
    Controller (Bench Echo) :=
  let bench := controller.radio
  { controller with
    radio := { bench with device := bench.device.inject reception.data reception.intact } }

/-- The event of an operation that may have taken the announced frame off the radio. -/
def fetching (before left : Controller (Bench Echo)) : List Event :=
  if before.pending.isSome ∧ left.pending = none then [.fetched] else []

def perform (controller : Controller (Bench Echo)) : Step → List Event × Controller (Bench Echo)
  | .arrive reception _ => ([.arrived reception], controller.arrive reception)
  | .read =>
      let left := (readIfPossible.run controller).2
      (fetching controller left, left)
  | .service =>
      let left := (serviceReceiver.run controller).2
      (fetching controller left, left)
  | .dequeue =>
      let (frame, left) := controller.dequeue
      (frame.toList.map .handedOut, left)

/-- The events of a run of steps, and the controller it leaves. -/
def run (controller : Controller (Bench Echo)) :
    List Step → List Event × Controller (Bench Echo)
  | [] => ([], controller)
  | step :: steps =>
      let (events, left) := controller.perform step
      let (others, last) := left.run steps
      (events ++ others, last)

/-- The frames that were handed out. -/
def handedOut (events : List Event) : List Bytes :=
  events.filterMap fun
    | .handedOut frame => some frame
    | .arrived _ | .fetched => none

/-- The frames that were taken off the radio before another one arrived, given the frame that waited
in the radio at the start. -/
def survivors : Option Reception → List Event → List Reception
  | _, [] => []
  | _, .arrived reception :: events => survivors (some reception) events
  | waiting, .fetched :: events => waiting.toList ++ survivors none events
  | waiting, .handedOut _ :: events => survivors waiting events

/-- The frame that waits in the radio at the end. -/
def standing : Option Reception → List Event → Option Reception
  | waiting, [] => waiting
  | _, .arrived reception :: events => standing (some reception) events
  | _, .fetched :: events => standing none events
  | waiting, .handedOut _ :: events => standing waiting events

theorem handedOut_append (events others : List Event) :
    handedOut (events ++ others) = handedOut events ++ handedOut others :=
  List.filterMap_append

theorem standing_append (waiting : Option Reception) (events others : List Event) :
    standing waiting (events ++ others) = standing (standing waiting events) others := by
  induction events generalizing waiting with
  | nil => rfl
  | cons event events ih =>
      cases event with
      | arrived reception => exact ih (some reception)
      | fetched => exact ih none
      | handedOut frame => exact ih waiting

theorem survivors_append (waiting : Option Reception) (events others : List Event) :
    survivors waiting (events ++ others) =
      survivors waiting events ++ survivors (standing waiting events) others := by
  induction events generalizing waiting with
  | nil => rfl
  | cons event events ih =>
      cases event with
      | arrived reception => exact ih (some reception)
      | fetched =>
          simp only [List.cons_append, survivors, standing, ih none, List.append_assoc]
      | handedOut frame => exact ih waiting

/-- No frame was lost, doubled or changed between the radio and the station. -/
structure Accounts (before : Controller (Bench Echo)) (events : List Event)
    (left : Controller (Bench Echo)) : Prop where
  frames_eq : handedOut events ++ left.queue.frames =
    before.queue.frames ++ (survivors before.pending events).flatMap kept
  pending_eq : left.pending = standing before.pending events
  ready : left.Ready

theorem Accounts.append {before middle left : Controller (Bench Echo)} {events others : List Event}
    (first : Accounts before events middle) (second : Accounts middle others left) :
    Accounts before (events ++ others) left where
  frames_eq := by
    rw [handedOut_append, survivors_append, List.flatMap_append, List.append_assoc,
      second.frames_eq, ← List.append_assoc, first.frames_eq, List.append_assoc, first.pending_eq]
  pending_eq := by rw [standing_append, ← first.pending_eq, second.pending_eq]
  ready := second.ready

/-- Both ways to take frames off the radio do the same to the frames. -/
theorem accounts_fetching {left : Controller (Bench Echo)}
    (stays : controller.pending = none → left = controller)
    (refuses : ∀ reception, controller.pending = some reception → ¬controller.Fits reception →
      left.pending = some reception ∧ left.queue = controller.queue ∧ left.Ready)
    (takes : ∀ reception, controller.pending = some reception → controller.Fits reception →
      left.pending = none ∧ left.queue.frames = controller.queue.frames ++ kept reception ∧
        left.Ready)
    (ready : controller.Ready) : Accounts controller (fetching controller left) left := by
  -- Nothing waits, the frame is refused, or it is taken: the three ways a try can end.
  cases waiting : controller.pending with
  | none =>
      have left_eq := stays waiting
      subst left_eq
      rw [fetching, waiting]
      exact ⟨(List.append_nil _).symm, rfl, ready⟩
  | some reception =>
      by_cases fits : controller.Fits reception
      · rcases takes reception waiting fits with ⟨left_pending, frames_eq, leftReady⟩
        rw [fetching, waiting, left_pending]
        refine ⟨?_, ?_, leftReady⟩
        · simpa [handedOut, survivors, waiting] using frames_eq
        · simp [standing, left_pending]
      · rcases refuses reception waiting fits with ⟨left_pending, queue_eq, leftReady⟩
        rw [fetching, waiting, left_pending]
        refine ⟨?_, ?_, leftReady⟩
        · simp [handedOut, survivors, queue_eq]
        · simp [standing, waiting, left_pending]

theorem pending_arrive (controller : Controller (Bench Echo)) (reception : Reception)
    (short : reception.data.length ≤ bufferSize) :
    (controller.arrive reception).pending = some reception := by
  rcases reception with ⟨data, intact⟩
  change some (Reception.mk (data.take bufferSize) intact) = _
  rw [List.take_of_length_le short]

theorem accounts_perform (ready : controller.Ready) (step : Step) :
    Accounts controller (controller.perform step).1 (controller.perform step).2 := by
  cases step with
  | arrive reception short =>
      refine ⟨(List.append_nil _).symm, pending_arrive controller reception short, ?_⟩
      exact ⟨⟨ready.steady.up, ready.steady.planned_eq, ready.steady.faults_eq⟩, ready.sound⟩
  | read =>
      refine accounts_fetching ?_ ?_ ?_ ready
      · intro waiting
        rw [run_readIfPossible_of_pending_eq_none ready waiting]
      · intro reception waiting refused
        rcases refused_of_not_fits ready waiting refused with
          ⟨radio, radio_pending, steady, read_eq, _⟩
        rw [read_eq]
        exact ⟨radio_pending, rfl, steady, ready.sound⟩
      · intro reception waiting fits
        rcases taken_of_fits ready waiting fits with
          ⟨left, left_pending, frames_eq, leftReady, read_eq, _⟩
        rw [read_eq]
        exact ⟨left_pending, frames_eq, leftReady⟩
  | service =>
      refine accounts_fetching ?_ ?_ ?_ ready
      · intro waiting
        have run_eq := run_serviceUpTo_of_pending_eq_none ready waiting
          (Timed.horizon controller.radio + 1) 0
        exact congrArg Prod.snd run_eq
      · intro reception waiting refused
        rcases refused_of_not_fits ready waiting refused with
          ⟨radio, radio_pending, steady, _, service_eq⟩
        rw [service_eq]
        exact ⟨radio_pending, rfl, steady, ready.sound⟩
      · intro reception waiting fits
        rcases taken_of_fits ready waiting fits with
          ⟨left, left_pending, frames_eq, leftReady, _, service_eq⟩
        rw [service_eq]
        exact ⟨left_pending, frames_eq, leftReady⟩
  | dequeue =>
      cases frames_eq : controller.queue.frames with
      | nil =>
          have run_eq : controller.perform .dequeue = ([], controller) := by
            rw [perform, dequeue, ReceiveQueue.dequeue_of_frames_eq_nil ready.sound frames_eq]
            rfl
          rw [run_eq]
          exact ⟨(List.append_nil _).symm, rfl, ready⟩
      | cons frame rest =>
          rcases ReceiveQueue.dequeue_of_frames_eq_cons ready.sound frames_eq with
            ⟨frame_eq, rest_eq, sound⟩
          have run_eq : controller.perform .dequeue =
              ([.handedOut frame], { controller with queue := controller.queue.dequeue.2 }) := by
            simp [perform, dequeue, frame_eq]
          rw [run_eq]
          refine ⟨?_, rfl, ready.steady, sound⟩
          simp [handedOut, survivors, rest_eq, frames_eq]

theorem accounts_run (ready : controller.Ready) (steps : List Step) :
    Accounts controller (controller.run steps).1 (controller.run steps).2 := by
  induction steps generalizing controller with
  | nil => exact ⟨(List.append_nil _).symm, rfl, ready⟩
  | cons step steps ih =>
      have first := accounts_perform ready step
      exact first.append (ih first.ready)

/-- The frames that were handed out, followed by those in the queue, are those that were queued at
the start and those that were taken off the radio before another one arrived and passed their
check. The last frame that was not taken off waits in the radio, unchanged: the next try to take it
off moves it into the queue if there is room, and leaves everything as it is otherwise. -/
theorem handedOut_append_frames {start : Controller (Bench Echo)} (ready : start.Ready)
    (steps : List Step) :
    let events := (start.run steps).1
    let left := (start.run steps).2
    handedOut events ++ left.queue.frames =
        start.queue.frames ++ (survivors start.pending events).flatMap kept ∧
      left.pending = standing start.pending events ∧
      (∀ reception, left.pending = some reception → ¬left.Fits reception →
        ∃ radio, radio.pending = some reception ∧
          (readIfPossible : Operation (Bench Echo) _).run left =
            (.error .queueFull, { left with radio }) ∧
          (serviceReceiver : Operation (Bench Echo) _).run left = (.ok 0, { left with radio })) ∧
      ∀ reception, left.pending = some reception → left.Fits reception →
        ∃ next : Controller (Bench Echo), next.pending = none ∧
          next.queue.frames = left.queue.frames ++ kept reception ∧
          (readIfPossible : Operation (Bench Echo) _).run left =
            (if reception.intact then .ok (some reception.data.length) else .error .crcMismatch,
              next) ∧
          (serviceReceiver : Operation (Bench Echo) _).run left =
            (.ok (kept reception).length, next) := by
  have accounts := accounts_run ready steps
  refine ⟨accounts.frames_eq, accounts.pending_eq, ?_, ?_⟩
  · intro reception waiting refused
    rcases refused_of_not_fits accounts.ready waiting refused with
      ⟨radio, radio_pending, _, read_eq, service_eq⟩
    exact ⟨radio, radio_pending, read_eq, service_eq⟩
  · intro reception waiting fits
    rcases taken_of_fits accounts.ready waiting fits with
      ⟨next, next_pending, frames_eq, _, read_eq, service_eq⟩
    exact ⟨next, next_pending, frames_eq, read_eq, service_eq⟩

/-- A controller that listens all the time and has received nothing. -/
def listening : Controller (Bench Echo) :=
  ((do reinitialize; setIdle .continuousReceive : Operation (Bench Echo) Unit).run
    (new { device := {} } {} 7)).2

/-- A frame is overwritten, one fails its check, and one has no room before the queue is empty. -/
def overwrittenThenRefused : List Step :=
  [.arrive ⟨[1, 2], true⟩ (by decide), .arrive ⟨[3], true⟩ (by decide), .read,
    .arrive ⟨[4], false⟩ (by decide), .service, .arrive ⟨[5], true⟩ (by decide), .service,
    .arrive ⟨List.replicate 254 6, true⟩ (by decide +kernel), .read, .dequeue, .service, .dequeue,
    .service]

theorem handedOut_append_frames_overwrittenThenRefused :
    listening.Ready ∧
      handedOut (listening.run overwrittenThenRefused).1 ++
          (listening.run overwrittenThenRefused).2.queue.frames =
        [[3], [5], List.replicate 254 6] := by
  have steady : listening.radio.Steady := by
    refine ⟨by decide +kernel, by decide +kernel, ?_⟩
    intro kind
    cases kind <;> decide +kernel
  have queue_eq : listening.queue = {} := by decide +kernel
  have ready : listening.Ready := ⟨steady, queue_eq ▸ ReceiveQueue.sound_empty⟩
  refine ⟨ready, (handedOut_append_frames ready overwrittenThenRefused).1.trans ?_⟩
  decide +kernel

end StationMesh.Channel.Controller
