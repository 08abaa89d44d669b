import StationMesh.Proofs.Radio.Bench
import StationMesh.Proofs.Radio.Medium

/-!
# What a radio on a medium overhears

Frames come to a radio on a medium from other radios only, so what waits on the medium to be read is
what some radio sent. What a radio sent is told by the calls that were written down on its bench.
-/

namespace StationMesh.Radio

open StationMesh.Action

/-- Unless a frame is sent, the radio keeps a property, and all that it receives meanwhile has
another one. -/
structure Supplies {ρ : Type} [Timed ρ] (kept : ρ → Prop) (received : Bytes → Prop) : Prop where
  bringUp : (Device.bringUp : Operation ρ Unit).Keeps kept
  listen : (Device.listen : Operation ρ Unit).Keeps kept
  dutyCycle : (Device.dutyCycle : Operation ρ Unit).Keeps kept
  sleep : (Device.sleep : Operation ρ Unit).Keeps kept
  probe : (Device.probe : Operation ρ Activity).Keeps kept
  read : ∀ room, (Device.read room : Operation ρ Reception).Keeps kept
  setPreamble : ∀ side length radio, kept radio → kept (Device.setPreamble side length radio)
  attend : ∀ radio, kept radio → kept (Device.attend radio)
  acknowledge : ∀ radio, kept radio → kept (Device.acknowledge radio)
  wait : ∀ time radio, kept radio → kept (Timed.waitUntil time radio)
  received : ∀ room radio reception, kept radio →
    ((Device.read room : Operation ρ Reception).run radio).1 = .ok reception →
    received reception.data

variable {α : Type} {frames : List Bytes}

/-! ### What waits on the medium -/

/-- The radio received nothing but these frames. -/
def Node.HoldsOnly (frames : List Bytes) (node : Node) : Prop :=
  ∀ reception, node.buffer = some reception → reception.data ∈ frames

/-- Nothing but these frames waits on the medium to be read. -/
def Medium.HoldsOnly (frames : List Bytes) (medium : Medium) : Prop :=
  ∀ node ∈ medium.nodes, node.HoldsOnly frames

theorem Node.holdsOnly_of_buffer_eq_none {node : Node} (empty : node.buffer = none) :
    node.HoldsOnly frames := by
  intro reception buffer_eq
  rw [empty] at buffer_eq
  contradiction

namespace Medium

variable {medium : Medium}

theorem HoldsOnly.mono {more : List Bytes} (holds : medium.HoldsOnly frames)
    (subset : frames ⊆ more) : medium.HoldsOnly more :=
  fun node mem reception buffer_eq => subset (holds node mem reception buffer_eq)

theorem HoldsOnly.update {change : Node → Node} (holds : medium.HoldsOnly frames)
    (keeps : ∀ node, node.HoldsOnly frames → (change node).HoldsOnly frames) (index : Nat) :
    (medium.update index change).HoldsOnly frames := by
  intro node mem
  rcases List.mem_iff_getElem?.mp mem with ⟨place, node_eq⟩
  rw [Medium.update, List.getElem?_modify, Option.map_eq_map, Option.map_eq_some_iff] at node_eq
  rcases node_eq with ⟨former, former_eq, rfl⟩
  have held := holds former (List.mem_of_getElem? former_eq)
  split
  · exact keeps former held
  · exact held

theorem HoldsOnly.setLink (holds : medium.HoldsOnly frames) (source target : Nat) (state : Link) :
    (medium.setLink source target state).HoldsOnly frames := by
  unfold Medium.setLink
  split
  · exact holds
  · exact holds

/-- A frame that fits in a buffer arrives as it was sent, or not at all. -/
theorem HoldsOnly.spread {data : Bytes} (holds : medium.HoldsOnly frames) (mem : data ∈ frames)
    (fits : data.length ≤ bufferSize) (source : Nat) (preamble : UInt16) :
    (medium.spread source data preamble).HoldsOnly frames := by
  intro node node_mem
  rcases List.mem_iff_getElem?.mp node_mem with ⟨place, node_eq⟩
  rw [Medium.spread, List.getElem?_mapIdx, Option.map_eq_some_iff] at node_eq
  rcases node_eq with ⟨former, former_eq, rfl⟩
  have held := holds former (List.mem_of_getElem? former_eq)
  split
  · exact held
  · unfold arrive
    split
    · exact held
    · intro reception buffer_eq
      simp only [Node.deliver, Option.some.injEq] at buffer_eq
      rw [← buffer_eq, List.take_of_length_le fits]
      exact mem

end Medium

namespace Endpoint

def HoldsOnly (frames : List Bytes) (endpoint : Endpoint) : Prop :=
  endpoint.medium.HoldsOnly frames

theorem keeps_locally {operation : Operation Node α}
    (keeps : operation.Keeps (Node.HoldsOnly frames)) :
    (locally operation).Keeps (HoldsOnly frames) := by
  intro endpoint holds
  rcases run_locally operation endpoint with ⟨error, run_eq⟩ | ⟨node, node_eq, run_eq⟩
  · rw [run_eq]
    exact holds
  · rw [run_eq]
    exact Medium.HoldsOnly.update holds
      (fun _ _ => keeps node (holds node (List.mem_of_getElem? node_eq))) _

theorem keeps_enter (mode : Mode) : (enter mode).Keeps (Node.HoldsOnly frames) := by
  intro node holds
  simp only [enter, run_of]
  split
  · exact holds
  · exact holds

theorem keeps_probe : probe.Keeps (Node.HoldsOnly frames) := by
  intro node holds
  simp only [probe, run_of]
  split
  · exact holds
  · split
    · exact holds
    · exact holds

theorem keeps_read (room : Nat) : (read room).Keeps (Node.HoldsOnly frames) := by
  intro node holds
  simp only [read, run_of]
  split
  · exact holds
  · split
    · exact holds
    · split
      · exact holds
      · exact Node.holdsOnly_of_buffer_eq_none rfl

theorem data_mem_of_read {room : Nat} {reception : Reception} {endpoint left : Endpoint}
    (holds : endpoint.HoldsOnly frames)
    (answered : (locally (read room)).run endpoint = (.ok reception, left)) :
    reception.data ∈ frames := by
  rcases run_locally (read room) endpoint with ⟨error, run_eq⟩ | ⟨node, node_eq, run_eq⟩
  · simp [run_eq] at answered
  · rw [run_eq] at answered
    have read_eq : ((read room).run node).1 = .ok reception := congrArg Prod.fst answered
    have held := holds node (List.mem_of_getElem? node_eq)
    simp only [read, run_of] at read_eq
    split at read_eq
    · contradiction
    · split at read_eq
      · contradiction
      · rename_i waiting buffer_eq
        split at read_eq
        · contradiction
        · rw [Except.ok.injEq] at read_eq
          subst read_eq
          exact held waiting buffer_eq

theorem keeps_transmit {data : Bytes} (mem : data ∈ frames) :
    (transmit data).Keeps (HoldsOnly frames) := by
  intro endpoint holds
  simp only [transmit, Medium.broadcast, run_of]
  split
  · exact holds
  · rename_i fits
    cases endpoint.medium.nodes[endpoint.index]? with
    | none => exact holds
    | some sender =>
        dsimp only
        split
        · exact holds
        · cases sender.failure with
          | some error =>
              apply Medium.HoldsOnly.update holds
              exact fun _ held => held
          | none =>
              apply Medium.HoldsOnly.spread _ mem (Nat.le_of_not_lt fits)
              apply Medium.HoldsOnly.update holds
              exact fun _ held => held

theorem holdsOnly_poke {endpoint : Endpoint} (holds : endpoint.HoldsOnly frames) (poke : Poke) :
    (Pokeable.poke poke endpoint).HoldsOnly frames := by
  cases poke with
  | inject data intact => exact holds
  | busy count =>
      apply Medium.HoldsOnly.update holds
      exact fun _ held => held
  | fail error =>
      apply Medium.HoldsOnly.update holds
      exact fun _ held => held

end Endpoint

/-! ### What was handed to a radio to be sent -/

/-- The frame that a call hands over to be sent. -/
def Call.sent : Call → List Bytes
  | .transmit data => [data]
  | _ => []

/-- The frames that equal calls in a row hand over. -/
def CallRun.sent (run : CallRun) : List Bytes :=
  (List.replicate run.count run.call.sent).flatten

namespace Bench

variable {δ : Type}

/-- The frames that were handed to the radio to be sent, the newest first. -/
def sent (bench : Bench δ) : List Bytes := bench.calls.flatMap CallRun.sent

theorem sent_note (call : Call) (faulted : Bool) (bench : Bench δ) :
    (bench.note call faulted).sent = call.sent ++ bench.sent := by
  have single : CallRun.sent { call, faulted, count := 1 } = call.sent := by
    simp [CallRun.sent]
  unfold note
  split
  · rename_i last rest calls_eq
    split
    · rename_i same
      rcases same with ⟨rfl, rfl⟩
      simp [sent, calls_eq, CallRun.sent, List.replicate_succ]
    · simp [sent, single]
  · rename_i calls_eq
    simp [sent, single, calls_eq]

/-- So much was sent, and nothing but these frames waits on the medium of the radio. -/
structure Overhears (frames sent : List Bytes) (bench : Bench Endpoint) : Prop where
  holds : bench.device.HoldsOnly frames
  sent_eq : bench.sent = sent

variable {sent : List Bytes} {bench : Bench Endpoint}

theorem Overhears.note (overhears : Overhears frames sent bench) (call : Call) (faulted : Bool) :
    Overhears frames (call.sent ++ sent) (bench.note call faulted) := by
  constructor
  · rcases note_eq call faulted bench with ⟨calls, note_eq⟩
    rw [note_eq]
    exact overhears.holds
  · rw [sent_note, overhears.sent_eq]

theorem Overhears.settle (overhears : Overhears frames sent bench) :
    Overhears frames sent bench.settle := by
  refine ⟨?_, overhears.sent_eq⟩
  simp only [Bench.settle]
  generalize (List.partition _ _).1 = due
  have holds := overhears.holds
  generalize bench.device = device at holds ⊢
  induction due generalizing device with
  | nil => exact holds
  | cons planned due ih => exact ih _ (Endpoint.holdsOnly_poke holds planned.poke)

/-- A call leaves the frame that it hands over behind, also if a fault answers it. -/
theorem Overhears.perform {operation : Operation Endpoint α}
    (keeps : operation.Keeps (Endpoint.HoldsOnly frames)) (kind : CallKind) (call : Call)
    (duration : Nat) (overhears : Overhears frames sent bench) :
    Overhears frames (call.sent ++ sent) ((perform kind call duration operation).run bench).2 := by
  have taken : Overhears frames sent (bench.settle.takeFault kind).2 := by
    unfold takeFault
    split
    · exact overhears.settle
    · exact ⟨overhears.settle.holds, overhears.settle.sent_eq⟩
  simp only [Bench.perform, run_of]
  generalize bench.settle.takeFault kind = ended at taken ⊢
  rcases ended with ⟨_ | error, left⟩
  · have noted := taken.note call false
    exact ⟨keeps _ noted.holds, noted.sent_eq⟩
  · exact taken.note call true

theorem keeps_perform {operation : Operation Endpoint α}
    (keeps : operation.Keeps (Endpoint.HoldsOnly frames)) (kind : CallKind) {call : Call}
    (silent : call.sent = []) (duration : Nat) :
    (perform kind call duration operation).Keeps (Overhears frames sent) := by
  intro bench overhears
  have performed := overhears.perform keeps kind call duration
  rwa [silent, List.nil_append] at performed

/-- Unless a frame is handed over, nothing changes, and what is read was sent. -/
theorem supplies_overhears : Supplies (Overhears frames sent) (· ∈ frames) where
  bringUp := by
    apply keeps_perform (Endpoint.keeps_locally _) .bringUp rfl 0
    exact fun _ _ => Node.holdsOnly_of_buffer_eq_none rfl
  listen := keeps_perform (Endpoint.keeps_locally (Endpoint.keeps_enter .continuous)) .listen rfl 0
  dutyCycle :=
    keeps_perform (Endpoint.keeps_locally (Endpoint.keeps_enter .dutyCycle)) .dutyCycle rfl 0
  sleep := by
    apply keeps_perform (Endpoint.keeps_locally _) .sleep rfl 0
    exact fun _ held => held
  probe := by
    intro bench overhears
    apply keeps_perform (Endpoint.keeps_locally Endpoint.keeps_probe) .probe rfl 0
    exact ⟨overhears.holds, overhears.sent_eq⟩
  read room := keeps_perform (Endpoint.keeps_locally (Endpoint.keeps_read room)) .read rfl 0
  setPreamble side length bench overhears := by
    have noted := overhears.note (.preamble side length) false
    refine ⟨?_, noted.sent_eq⟩
    apply Medium.HoldsOnly.update noted.holds
    cases side <;> exact fun _ held => held
  attend _ overhears := ⟨overhears.settle.holds, overhears.settle.sent_eq⟩
  acknowledge _ overhears := by
    refine ⟨?_, overhears.sent_eq⟩
    apply Medium.HoldsOnly.update overhears.holds
    exact fun _ held => held
  wait _ _ overhears := ⟨overhears.holds, overhears.sent_eq⟩
  received room bench reception overhears answered := by
    change ((perform .read (.read room) 0 (Endpoint.locally (Endpoint.read room))).run bench).1 =
      .ok reception at answered
    rcases run_perform_cases .read (.read room) 0 (Endpoint.locally (Endpoint.read room)) bench
      with ⟨error, faults, calls, run_eq⟩ | ⟨faults, calls, run_eq⟩
    · rw [run_eq] at answered
      contradiction
    · rw [run_eq] at answered
      exact Endpoint.data_mem_of_read overhears.settle.holds (Prod.ext answered rfl)

theorem overhears_transmit {data : Bytes} (mem : data ∈ frames)
    (overhears : Overhears frames sent bench) :
    Overhears frames (data :: sent)
      ((Device.transmit data : Operation (Bench Endpoint) Unit).run bench).2 :=
  overhears.perform (Endpoint.keeps_transmit mem) .transmit (.transmit data) bench.transmitTime

end Bench

end StationMesh.Radio
