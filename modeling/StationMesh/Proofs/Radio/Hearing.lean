import Mathlib.Data.Multiset.Replicate
import StationMesh.Proofs.Invariant
import StationMesh.Proofs.Radio.Medium
import StationMesh.Radio.Echo

/-!
# What a device announces

A device holds one received frame, and beside it a signal that announces it. Two devices keep the
two together in different ways. An echo radio has a frame whether it is announced or not, and it
hears the frames it sends itself. A radio on a medium drops its frame when that is read, and hears
only what other stations send. What they have in common is told by `LawfulHearing`: what a device
announces reached it, and what it announces can be read.

Neither device takes its announcement back when it is brought up, although both drop the frame. So
the laws are silent about a device that is brought up while a frame is announced.
-/

namespace StationMesh.Radio

open StationMesh.Action

/-- The frames that reach a device, of which no more arrives than fits in its buffer. -/
def Poke.receptions : Poke → Multiset Reception
  | .inject data intact => {{ data := data.take bufferSize, intact }}
  | .busy _ | .fail _ => 0

/-- What there is to know of the frames that a device received. -/
class Hearing (δ : Type) where
  /-- The frame that is announced. -/
  announced : δ → Option Reception
  /-- How many of its own frames the device has heard. -/
  echoed : δ → Nat
  /-- A frame that is announced is there. -/
  Sound : δ → Prop

namespace Hearing

variable {δ : Type} [Hearing δ] {added : Multiset Reception} {before after : δ}

/-- Only such frames are announced anew. -/
structure Brings (added : Multiset Reception) (before after : δ) : Prop where
  sound : Sound before → Sound after
  announced : ∀ reception ∈ announced after,
    reception ∈ Hearing.announced before ∨ reception ∈ added

theorem Brings.refl (added : Multiset Reception) (device : δ) : Brings added device device :=
  ⟨id, fun _ => .inl⟩

theorem Brings.trans {first second third : δ} {more : Multiset Reception}
    (former : Brings added first second) (latter : Brings more second third) :
    Brings (added + more) first third where
  sound := latter.sound ∘ former.sound
  announced reception mem := by
    rw [Multiset.mem_add]
    rcases latter.announced reception mem with mem | mem
    · exact (former.announced reception mem).imp id .inl
    · exact .inr (.inr mem)

/-- No frame reached the device. -/
structure Rests [Device δ] (before after : δ) : Prop extends Brings 0 before after where
  signal_eq : Device.signal after = Device.signal before
  echoed_eq : echoed after = echoed before

theorem Rests.refl [Device δ] (device : δ) : Rests device device := ⟨.refl 0 device, rfl, rfl⟩

end Hearing

open Hearing (Brings Rests)

/-- What a device announces reached it, and can be read. -/
class LawfulHearing (δ : Type) [Device δ] [Pokeable δ] [Hearing δ] : Prop where
  attend : ∀ device : δ, Device.attend device = device
  silent : ∀ {device : δ}, (Device.signal device).waiting = false →
    Hearing.Sound device ∧ Hearing.announced device = none
  waiting : ∀ {device : δ}, Hearing.Sound device → (Device.signal device).waiting = true →
    ∃ reception, Hearing.announced device = some reception
  bringUp : ∀ device : δ, (Device.signal device).waiting = false →
    Rests device ((Device.bringUp : Operation δ Unit).run device).2
  listen : ∀ device : δ, Rests device ((Device.listen : Operation δ Unit).run device).2 ∧
    ((Device.listen : Operation δ Unit).run device).1 ≠ .error .receiveFailed
  dutyCycle : ∀ device : δ, Rests device ((Device.dutyCycle : Operation δ Unit).run device).2 ∧
    ((Device.dutyCycle : Operation δ Unit).run device).1 ≠ .error .receiveFailed
  sleep : ∀ device : δ, Rests device ((Device.sleep : Operation δ Unit).run device).2 ∧
    ((Device.sleep : Operation δ Unit).run device).1 ≠ .error .receiveFailed
  probe : (Device.probe : Operation δ Activity).Moves Rests
  setPreamble : ∀ side length (device : δ), Rests device (Device.setPreamble side length device)
  /-- A frame stays until it is read. -/
  read_error : ∀ {room error} {device left : δ}, Hearing.Sound device →
    (Device.signal device).waiting = true →
    (Device.read room : Operation δ Reception).run device = (.error error, left) →
      Rests device left ∧ error ≠ .receiveFailed
  read_ok : ∀ {room reception} {device left : δ}, Hearing.Sound device →
    (Device.signal device).waiting = true →
    (Device.read room : Operation δ Reception).run device = (.ok reception, left) →
      Hearing.announced device = some reception ∧ Hearing.echoed left = Hearing.echoed device
  acknowledge : ∀ device : δ, (Device.signal (Device.acknowledge device)).waiting = false ∧
    Hearing.echoed (Device.acknowledge device) = Hearing.echoed device
  transmit : ∀ data (device : δ),
    let left := ((Device.transmit data : Operation δ Unit).run device).2
    Brings (Multiset.replicate (Hearing.echoed left - Hearing.echoed device)
      { data, intact := true }) device left ∧
    Hearing.echoed device ≤ Hearing.echoed left
  poke : ∀ poke (device : δ), Brings poke.receptions device (Pokeable.poke poke device) ∧
    Hearing.echoed (Pokeable.poke poke device) = Hearing.echoed device ∧
    ((Device.signal device).waiting = true →
      (Device.signal (Pokeable.poke poke device)).waiting = true)

/-! ### The echo radio -/

namespace Echo

/-- The frames that an echo radio sends are the frames that it hears itself. -/
instance : Hearing Echo where
  announced echo :=
    if echo.signal.waiting then some { data := echo.buffer, intact := echo.intact } else none
  echoed echo := echo.sent
  Sound _ := True

variable {before after : Echo}

theorem rests_of_eq (signal_eq : after.signal = before.signal)
    (buffer_eq : after.buffer = before.buffer) (intact_eq : after.intact = before.intact)
    (sent_eq : after.sent = before.sent) : Rests before after := by
  refine ⟨⟨fun _ => trivial, ?_⟩, signal_eq, sent_eq⟩
  intro reception mem
  simp only [Hearing.announced, signal_eq, buffer_eq, intact_eq] at mem ⊢
  exact .inl mem

theorem rests_enter (mode : Mode) (echo : Echo) :
    Rests echo ((enter mode).run echo).2 ∧ ((enter mode).run echo).1 ≠ .error .receiveFailed := by
  simp only [enter, run_of]
  split
  · exact ⟨rests_of_eq rfl rfl rfl rfl, by simp⟩
  · exact ⟨.refl echo, by simp⟩

theorem rests_probe : probe.Moves Rests := by
  intro echo
  simp only [probe, run_of]
  split
  · exact .refl echo
  · split <;> exact rests_of_eq rfl rfl rfl rfl

theorem brings_inject (data : Bytes) (intact : Bool) (echo : Echo) :
    Brings {{ data := data.take bufferSize, intact }} echo (echo.inject data intact) := by
  refine ⟨fun _ => trivial, ?_⟩
  simp [Hearing.announced, inject, Signal.raise]

theorem brings_transmit (data : Bytes) (echo : Echo) :
    Brings (Multiset.replicate (((transmit data).run echo).2.sent - echo.sent)
      { data, intact := true }) echo ((transmit data).run echo).2 ∧
    echo.sent ≤ ((transmit data).run echo).2.sent := by
  simp only [transmit, run_of]
  split
  · exact ⟨.refl _ echo, Nat.le_refl _⟩
  · cases echo.failure with
    | some error => exact ⟨⟨fun _ => trivial, fun _ => .inl⟩, Nat.le_refl _⟩
    | none =>
        dsimp only
        split
        · exact ⟨.refl _ echo, Nat.le_refl _⟩
        · rename_i short
          refine ⟨⟨fun _ => trivial, ?_⟩, Nat.le_succ _⟩
          simp [Hearing.announced, inject, Signal.raise,
            List.take_of_length_le (Nat.le_of_not_lt short)]

theorem run_read_cases (room : Nat) (echo : Echo) :
    (∃ error, (read room).run echo = (.error error, echo) ∧ error ≠ .receiveFailed) ∨
      (read room).run echo = (.ok { data := echo.buffer, intact := echo.intact }, echo) := by
  simp only [read, run_of]
  split
  · exact .inl ⟨_, rfl, by decide⟩
  · split
    · exact .inl ⟨_, rfl, by decide⟩
    · exact .inr rfl

instance : LawfulHearing Echo where
  attend _ := rfl
  silent silent := ⟨trivial, if_neg (Bool.eq_false_iff.mp silent)⟩
  waiting _ waiting := ⟨_, if_pos waiting⟩
  bringUp device silent := by
    change device.signal.waiting = false at silent
    refine ⟨⟨fun _ => trivial, ?_⟩, rfl, rfl⟩
    simp [Hearing.announced, Device.bringUp, bringUp, silent]
  listen := rests_enter .continuous
  dutyCycle := rests_enter .dutyCycle
  sleep device := ⟨rests_of_eq rfl rfl rfl rfl, by simp [Device.sleep]⟩
  probe := rests_probe
  setPreamble side length device := by
    cases side <;> exact rests_of_eq rfl rfl rfl rfl
  read_error {room _ device _} _ _ failed := by
    change (read room).run device = _ at failed
    rcases run_read_cases room device with ⟨error, run_eq, error_ne⟩ | run_eq
    · cases run_eq.symm.trans failed
      exact ⟨.refl device, error_ne⟩
    · cases run_eq.symm.trans failed
  read_ok {room _ device _} _ waiting answered := by
    change (read room).run device = _ at answered
    rcases run_read_cases room device with ⟨error, run_eq, _⟩ | run_eq
    · cases run_eq.symm.trans answered
    · cases run_eq.symm.trans answered
      exact ⟨if_pos waiting, rfl⟩
  acknowledge _ := ⟨rfl, rfl⟩
  transmit := brings_transmit
  poke poke device := by
    cases poke with
    | inject data intact => exact ⟨brings_inject data intact device, rfl, fun _ => rfl⟩
    | busy count => exact ⟨⟨fun _ => trivial, fun _ => .inl⟩, rfl, id⟩
    | fail error => exact ⟨⟨fun _ => trivial, fun _ => .inl⟩, rfl, id⟩

end Echo

/-! ### A radio on a medium -/

/-- A radio on a medium that frames of other stations reach at any time. -/
structure Exposed where
  endpoint : Endpoint

namespace Exposed

variable {α : Type}

/-- What happens to the radio alone. -/
def lift (operation : Operation Endpoint α) : Operation Exposed α :=
  .of fun exposed =>
    let (answer, endpoint) := operation.run exposed.endpoint
    (answer, { endpoint })

instance : Device Exposed where
  bringUp := lift Device.bringUp
  transmit data := lift (Device.transmit data)
  read room := lift (Device.read room)
  probe := lift Device.probe
  listen := lift Device.listen
  dutyCycle := lift Device.dutyCycle
  sleep := lift Device.sleep
  setPreamble side length exposed := { endpoint := Device.setPreamble side length exposed.endpoint }
  attend exposed := { endpoint := Device.attend exposed.endpoint }
  signal exposed := Device.signal exposed.endpoint
  acknowledge exposed := { endpoint := Device.acknowledge exposed.endpoint }

/-- The radio after a frame reached it. -/
def deliver (reception : Reception) (exposed : Exposed) : Exposed :=
  { endpoint := exposed.endpoint.update (Node.deliver reception) }

/-- A frame that is injected is one that another station sent. -/
instance : Pokeable Exposed where
  poke
    | .inject data intact, exposed => exposed.deliver { data := data.take bufferSize, intact }
    | .busy count, exposed => { endpoint := Pokeable.poke (.busy count) exposed.endpoint }
    | .fail error, exposed => { endpoint := Pokeable.poke (.fail error) exposed.endpoint }
  busyLeft exposed := Pokeable.busyLeft exposed.endpoint

/-- The radio does not hear itself. -/
instance : Hearing Exposed where
  announced exposed := exposed.endpoint.node?.bind fun node =>
    if node.signal.waiting then node.buffer else none
  echoed _ := 0
  Sound exposed := ∀ node, exposed.endpoint.node? = some node → node.signal.waiting = true →
    node.buffer ≠ none

/-- The node has the frame that it had, and announces it as before. -/
structure SameFrame (before after : Node) : Prop where
  signal_eq : after.signal = before.signal
  buffer_eq : after.buffer = before.buffer

theorem rests_of_node? {before after : Exposed} (change : Node → Node)
    (node_eq : after.endpoint.node? = before.endpoint.node?.map change)
    (same : ∀ node, before.endpoint.node? = some node → SameFrame node (change node)) :
    Rests before after := by
  cases found : before.endpoint.node? with
  | none =>
      rw [found, Option.map_none] at node_eq
      refine ⟨⟨?_, ?_⟩, ?_, rfl⟩
      · simp [Hearing.Sound, node_eq]
      · simp [Hearing.announced, node_eq]
      · simp [Device.signal, node_eq, found]
  | some node =>
      rcases same node found with ⟨signal_eq, buffer_eq⟩
      rw [found, Option.map_some] at node_eq
      refine ⟨⟨?_, ?_⟩, ?_, rfl⟩
      · simp [Hearing.Sound, node_eq, found, signal_eq, buffer_eq]
      · simp [Hearing.announced, node_eq, found, signal_eq, buffer_eq]
      · simp [Device.signal, node_eq, found, signal_eq]

theorem rests_update {before after : Exposed} (change : Node → Node)
    (update_eq : after.endpoint = before.endpoint.update change)
    (same : ∀ node, SameFrame node (change node)) : Rests before after := by
  apply rests_of_node? change
  · rw [update_eq]
    exact Endpoint.node?_update change before.endpoint
  · exact fun node _ => same node

theorem rests_locally {operation : Operation Node α} (same : operation.Moves SameFrame) :
    (lift (Endpoint.locally operation)).Moves Rests := by
  rintro ⟨endpoint⟩
  simp only [lift, run_of]
  rcases Endpoint.run_locally operation endpoint with
    ⟨error, run_eq⟩ | ⟨node, node_eq, run_eq⟩
  · rw [run_eq]
    exact .refl _
  · rw [run_eq]
    apply rests_of_node? _ (Endpoint.node?_update _ endpoint)
    intro other other_eq
    cases node_eq.symm.trans other_eq
    exact same node

theorem sameFrame_enter (mode : Mode) : (Endpoint.enter mode).Moves SameFrame := by
  intro node
  simp only [Endpoint.enter, run_of]
  split <;> exact ⟨rfl, rfl⟩

theorem sameFrame_probe : Endpoint.probe.Moves SameFrame := by
  intro node
  simp only [Endpoint.probe, run_of]
  split
  · exact ⟨rfl, rfl⟩
  · split <;> exact ⟨rfl, rfl⟩

/-- A call that only the radio takes part in fails because the radio is not there, or by itself. -/
theorem locally_ne_receiveFailed {operation : Operation Node α}
    (unfailing : ∀ node, (operation.run node).1 ≠ .error .receiveFailed) (exposed : Exposed) :
    ((lift (Endpoint.locally operation)).run exposed).1 ≠ .error .receiveFailed := by
  simp only [lift, run_of, Endpoint.locally]
  cases exposed.endpoint.node? with
  | none => simp
  | some node => exact unfailing node

theorem enter_ne_receiveFailed (mode : Mode) (node : Node) :
    ((Endpoint.enter mode).run node).1 ≠ .error .receiveFailed := by
  simp only [Endpoint.enter, run_of]
  split <;> simp

theorem rests_transmit (data : Bytes) : (lift (Endpoint.transmit data)).Moves Rests := by
  rintro ⟨endpoint⟩
  simp only [lift, Endpoint.transmit, Medium.broadcast, run_of]
  split
  · exact .refl _
  · cases endpoint.medium.nodes[endpoint.index]? with
    | none => exact .refl _
    | some sender =>
        dsimp only
        split
        · exact .refl _
        · cases sender.failure with
          | some error =>
              apply rests_update (fun node => { node with failure := none, up := false }) rfl
              exact fun _ => ⟨rfl, rfl⟩
          | none =>
              apply rests_of_node? fun node =>
                { node with transmitted := node.transmitted + 1, mode := .standby }
              · dsimp only
                rw [Endpoint.node?, Endpoint.getElem?_nodes_spread]
                exact Endpoint.node?_update _ endpoint
              · exact fun _ _ => ⟨rfl, rfl⟩

/-- A radio that is not on the medium announces nothing. -/
theorem exists_node?_of_waiting {exposed : Exposed}
    (waiting : (Device.signal exposed).waiting = true) :
    ∃ node, exposed.endpoint.node? = some node ∧ node.signal.waiting = true := by
  change ((exposed.endpoint.node?.map Node.signal).getD {}).waiting = true at waiting
  cases node_eq : exposed.endpoint.node? with
  | none => simp [node_eq] at waiting
  | some node => exact ⟨node, rfl, by simpa [node_eq] using waiting⟩

theorem silent_iff {exposed : Exposed} : (Device.signal exposed).waiting = false ↔
    ∀ node, exposed.endpoint.node? = some node → node.signal.waiting = false := by
  change ((exposed.endpoint.node?.map Node.signal).getD {}).waiting = false ↔ _
  cases exposed.endpoint.node? <;> simp

theorem announced_eq_none_of_silent {exposed : Exposed}
    (silent : (Device.signal exposed).waiting = false) :
    Hearing.Sound exposed ∧ Hearing.announced exposed = none := by
  rw [silent_iff] at silent
  constructor
  · intro node node_eq waiting
    simp [silent node node_eq] at waiting
  · simp only [Hearing.announced]
    cases node_eq : exposed.endpoint.node? with
    | none => rfl
    | some node => simp [silent node node_eq]

theorem signal_locally {operation : Operation Node α}
    (same : operation.Moves fun before after => after.signal = before.signal) :
    (lift (Endpoint.locally operation)).Moves fun before after =>
      Device.signal after = Device.signal before := by
  rintro ⟨endpoint⟩
  simp only [lift, run_of]
  rcases Endpoint.run_locally operation endpoint with
    ⟨error, run_eq⟩ | ⟨node, node_eq, run_eq⟩
  · rw [run_eq]
  · rw [run_eq]
    simp [Device.signal, Endpoint.node?_update, node_eq, same node]

theorem rests_bringUp {exposed : Exposed} (silent : (Device.signal exposed).waiting = false) :
    Rests exposed ((Device.bringUp : Operation Exposed Unit).run exposed).2 := by
  have signal_eq : Device.signal ((Device.bringUp : Operation Exposed Unit).run exposed).2 =
      Device.signal exposed := signal_locally (fun _ => rfl) exposed
  rcases announced_eq_none_of_silent ((congrArg Signal.waiting signal_eq).trans silent) with
    ⟨sound, announced_eq⟩
  exact ⟨⟨fun _ => sound, by simp [announced_eq]⟩, signal_eq, rfl⟩

theorem run_node_read_cases (room : Nat) {node : Node} {reception : Reception}
    (buffer_eq : node.buffer = some reception) :
    (∃ error, (Endpoint.read room).run node = (.error error, node) ∧ error ≠ .receiveFailed) ∨
      (Endpoint.read room).run node = (.ok reception, { node with buffer := none }) := by
  simp only [Endpoint.read, run_of, buffer_eq]
  split
  · exact .inl ⟨_, rfl, by decide⟩
  · split
    · exact .inl ⟨_, rfl, by decide⟩
    · exact .inr rfl

/-- A frame that is announced is read, or stays. -/
theorem run_read_cases (room : Nat) {exposed : Exposed} (sound : Hearing.Sound exposed)
    (waiting : (Device.signal exposed).waiting = true) :
    (∃ error left, (lift (Endpoint.locally (Endpoint.read room))).run exposed =
        (.error error, left) ∧ Rests exposed left ∧ error ≠ .receiveFailed) ∨
      ∃ reception left, (lift (Endpoint.locally (Endpoint.read room))).run exposed =
        (.ok reception, left) ∧ Hearing.announced exposed = some reception := by
  rcases exists_node?_of_waiting waiting with ⟨node, node_eq, nodeWaiting⟩
  rcases Option.ne_none_iff_exists'.mp (sound node node_eq nodeWaiting) with
    ⟨reception, buffer_eq⟩
  simp only [lift, run_of, Endpoint.locally, node_eq]
  rcases run_node_read_cases room buffer_eq with ⟨error, run_eq, error_ne⟩ | run_eq
  · rw [run_eq]
    refine .inl ⟨error, _, rfl, ?_, error_ne⟩
    apply rests_of_node? _ (Endpoint.node?_update _ exposed.endpoint)
    intro other other_eq
    cases node_eq.symm.trans other_eq
    exact ⟨rfl, rfl⟩
  · rw [run_eq]
    exact .inr ⟨reception, _, rfl, by simp [Hearing.announced, node_eq, nodeWaiting, buffer_eq]⟩

theorem brings_deliver (reception : Reception) (exposed : Exposed) :
    Brings {reception} exposed (exposed.deliver reception) := by
  have node_eq := Endpoint.node?_update (Node.deliver reception) exposed.endpoint
  cases found : exposed.endpoint.node? with
  | none =>
      constructor
      · simp [Hearing.Sound, deliver, node_eq, found]
      · simp [Hearing.announced, deliver, node_eq, found]
  | some node =>
      constructor
      · simp [Hearing.Sound, deliver, node_eq, found, Node.deliver]
      · simp [Hearing.announced, deliver, node_eq, found, Node.deliver, Signal.raise]

theorem waiting_deliver (reception : Reception) {exposed : Exposed}
    (waiting : (Device.signal exposed).waiting = true) :
    (Device.signal (exposed.deliver reception)).waiting = true := by
  rcases exists_node?_of_waiting waiting with ⟨node, node_eq, _⟩
  simp [Device.signal, deliver, Endpoint.node?_update, node_eq, Node.deliver, Signal.raise]

instance : LawfulHearing Exposed where
  attend _ := rfl
  silent := announced_eq_none_of_silent
  waiting {exposed} sound waiting := by
    rcases exists_node?_of_waiting waiting with ⟨node, node_eq, nodeWaiting⟩
    rcases Option.ne_none_iff_exists'.mp (sound node node_eq nodeWaiting) with
      ⟨reception, buffer_eq⟩
    exact ⟨reception, by simp [Hearing.announced, node_eq, nodeWaiting, buffer_eq]⟩
  bringUp _ := rests_bringUp
  listen exposed := ⟨rests_locally (sameFrame_enter .continuous) exposed,
    locally_ne_receiveFailed (enter_ne_receiveFailed .continuous) exposed⟩
  dutyCycle exposed := ⟨rests_locally (sameFrame_enter .dutyCycle) exposed,
    locally_ne_receiveFailed (enter_ne_receiveFailed .dutyCycle) exposed⟩
  sleep exposed := ⟨rests_locally (fun _ => ⟨rfl, rfl⟩) exposed,
    locally_ne_receiveFailed (fun _ => by simp) exposed⟩
  probe := rests_locally sameFrame_probe
  setPreamble side length exposed := by
    cases side with
    | transmit =>
        apply rests_update (fun node => { node with transmitPreamble := length }) rfl
        exact fun _ => ⟨rfl, rfl⟩
    | receive =>
        apply rests_update (fun node => { node with receivePreamble := length }) rfl
        exact fun _ => ⟨rfl, rfl⟩
  read_error {room _ exposed _} sound waiting failed := by
    rcases run_read_cases room sound waiting with
      ⟨error, _, run_eq, rests, error_ne⟩ | ⟨_, _, run_eq, _⟩
    · cases run_eq.symm.trans failed
      exact ⟨rests, error_ne⟩
    · cases run_eq.symm.trans failed
  read_ok {room _ exposed _} sound waiting answered := by
    rcases run_read_cases room sound waiting with
      ⟨_, _, run_eq, _⟩ | ⟨reception, left, run_eq, announced_eq⟩
    · cases run_eq.symm.trans answered
    · cases run_eq.symm.trans answered
      exact ⟨announced_eq, rfl⟩
  acknowledge exposed := by
    refine ⟨?_, rfl⟩
    rw [silent_iff]
    intro node node_eq
    change (exposed.endpoint.update _).node? = some node at node_eq
    rw [Endpoint.node?_update, Option.map_eq_some_iff] at node_eq
    rcases node_eq with ⟨_, _, rfl⟩
    rfl
  transmit data exposed := by
    have rests := rests_transmit data exposed
    exact ⟨rests.toBrings, Nat.le_refl 0⟩
  poke poke exposed := by
    cases poke with
    | inject data intact => exact ⟨brings_deliver _ exposed, rfl, waiting_deliver _⟩
    | busy count =>
        have rests : Rests exposed (Pokeable.poke (.busy count) exposed) := by
          apply rests_update (fun node => { node with busyLeft := count }) rfl
          exact fun _ => ⟨rfl, rfl⟩
        exact ⟨rests.toBrings, rfl, fun waiting => by rwa [rests.signal_eq]⟩
    | fail error =>
        have rests : Rests exposed (Pokeable.poke (.fail error) exposed) := by
          apply rests_update (fun node => { node with failure := some error }) rfl
          exact fun _ => ⟨rfl, rfl⟩
        exact ⟨rests.toBrings, rfl, fun waiting => by rwa [rests.signal_eq]⟩

end Exposed

end StationMesh.Radio
