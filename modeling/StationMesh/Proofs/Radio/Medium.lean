import StationMesh.Proofs.Radio.Horizon
import StationMesh.Radio.Medium

/-!
# What is still to come to a radio on a medium

Frames come to a radio from the other stations on the medium, and only while those act. So while one
station acts, its radio is going to bring no more than what was planned to happen to it, and it does
not hear itself.
-/

namespace StationMesh.Radio.Endpoint

open StationMesh.Action

variable {α : Type}

theorem node?_update (change : Node → Node) (endpoint : Endpoint) :
    (endpoint.update change).node? = endpoint.node?.map change := by
  simp [node?, update, Medium.update]

theorem busyLeft_eq (endpoint : Endpoint) :
    Pokeable.busyLeft endpoint = (endpoint.node?.map (·.busyLeft)).getD 0 := rfl

theorem load_eq (endpoint : Endpoint) : load endpoint = (endpoint.node?.map fun node =>
    node.busyLeft + if node.signal.waiting then 1 else 0).getD 0 := by
  rw [load, busyLeft_eq]
  change _ + (if ((endpoint.node?.map Node.signal).getD {}).waiting then 1 else 0) = _
  cases endpoint.node? with
  | none => rfl
  | some node => rfl

/-- What happens to other radios of the medium does not matter. -/
theorem gains_of_node? {before after : Endpoint} {change : Node → Node} {amount : Nat}
    (node_eq : after.node? = before.node?.map change)
    (busyLeft_le : ∀ node, before.node? = some node →
      (change node).busyLeft ≤ node.busyLeft + amount)
    (signal_eq : ∀ node, before.node? = some node → (change node).signal = node.signal) :
    Gains amount before after := by
  constructor
  · rw [busyLeft_eq, busyLeft_eq, node_eq]
    cases node_eq : before.node? with
    | none => exact Nat.zero_le _
    | some node => exact busyLeft_le node node_eq
  · rw [load_eq, load_eq, node_eq]
    cases node_eq : before.node? with
    | none => exact Nat.zero_le _
    | some node =>
        have le := busyLeft_le node node_eq
        simp only [Option.map_some, Option.getD_some, signal_eq node node_eq]
        omega

theorem gains_update {change : Node → Node} (endpoint : Endpoint)
    (busyLeft_eq : ∀ node, (change node).busyLeft = node.busyLeft)
    (signal_eq : ∀ node, (change node).signal = node.signal) :
    Gains 0 endpoint (endpoint.update change) := by
  apply gains_of_node? (node?_update change endpoint)
  · intro node _
    exact Nat.le_of_eq (busyLeft_eq node)
  · intro node _
    exact signal_eq node

theorem run_locally (operation : Operation Node α) (endpoint : Endpoint) :
    (∃ error, (locally operation).run endpoint = (.error error, endpoint)) ∨
    ∃ node, endpoint.node? = some node ∧ (locally operation).run endpoint =
      ((operation.run node).1, endpoint.update fun _ => (operation.run node).2) := by
  simp only [locally, run_of]
  cases node_eq : endpoint.node? with
  | none => exact .inl ⟨_, rfl⟩
  | some node => exact .inr ⟨node, rfl, rfl⟩

/-- The radio is no busier and announces what it did. -/
structure Quiet (before after : Node) : Prop where
  busyLeft_le : after.busyLeft ≤ before.busyLeft
  signal_eq : after.signal = before.signal

theorem Quiet.refl (node : Node) : Quiet node node := ⟨Nat.le_refl _, rfl⟩

theorem gains_locally {operation : Operation Node α} (quiet : operation.Moves Quiet) :
    (locally operation).Moves (Gains 0) := by
  intro endpoint
  rcases run_locally operation endpoint with ⟨error, run_eq⟩ | ⟨node, node_eq, run_eq⟩
  · rw [run_eq]
    exact ⟨Nat.le_refl _, Nat.le_refl _⟩
  · rw [run_eq]
    apply gains_of_node? (node?_update _ endpoint)
    · intro other other_eq
      rw [node_eq, Option.some.injEq] at other_eq
      subst other_eq
      exact (quiet node).busyLeft_le
    · intro other other_eq
      rw [node_eq, Option.some.injEq] at other_eq
      subst other_eq
      exact (quiet node).signal_eq

theorem quiet_enter (mode : Mode) : (enter mode).Moves Quiet := by
  intro node
  simp only [enter, run_of]
  split
  · exact ⟨Nat.le_refl _, rfl⟩
  · exact .refl node

theorem quiet_read (room : Nat) : (read room).Moves Quiet := by
  intro node
  simp only [read, run_of]
  split
  · exact .refl node
  · split
    · exact .refl node
    · split
      · exact .refl node
      · exact ⟨Nat.le_refl _, rfl⟩

theorem quiet_probe : probe.Moves Quiet := by
  intro node
  simp only [probe, run_of]
  split
  · exact .refl node
  · split
    · exact ⟨Nat.sub_le _ _, rfl⟩
    · exact .refl node

theorem busyLeft_probe_lt_of_busy {node : Node} (busy : (probe.run node).1 = .ok .busy) :
    (probe.run node).2.busyLeft < node.busyLeft ∧ (probe.run node).2.signal = node.signal := by
  simp only [probe, run_of] at busy ⊢
  split at busy
  · contradiction
  · rename_i up
    rw [if_neg up]
    split at busy
    · rename_i positive
      rw [if_pos positive]
      exact ⟨Nat.sub_lt positive Nat.one_pos, rfl⟩
    · simp at busy

theorem load_probe_lt_of_busy {endpoint : Endpoint}
    (busy : ((locally probe).run endpoint).1 = .ok .busy) :
    load ((locally probe).run endpoint).2 < load endpoint := by
  rcases run_locally probe endpoint with ⟨error, run_eq⟩ | ⟨node, node_eq, run_eq⟩
  · rw [run_eq] at busy
    contradiction
  · rw [run_eq] at busy ⊢
    rcases busyLeft_probe_lt_of_busy busy with ⟨lt, signal_eq⟩
    rw [load_eq, load_eq, node?_update, node_eq]
    simp only [Option.map_some, Option.getD_some, signal_eq]
    omega

theorem gains_poke (poke : Poke) (endpoint : Endpoint) :
    Gains poke.weight endpoint (Pokeable.poke poke endpoint) := by
  cases poke with
  | inject data intact => exact ⟨Nat.le_succ _, Nat.le_succ _⟩
  | fail error =>
      change Gains 0 endpoint (endpoint.update _)
      exact gains_update endpoint (fun _ => rfl) fun _ => rfl
  | busy count =>
      apply gains_of_node? (node?_update _ endpoint)
      · intro node _
        exact Nat.le_add_left _ _
      · intro node _
        rfl

theorem load_acknowledge_le (endpoint : Endpoint) :
    load (Device.acknowledge endpoint) ≤ Pokeable.busyLeft endpoint := by
  change load (endpoint.update _) ≤ _
  rw [load_eq, busyLeft_eq, node?_update]
  cases endpoint.node? with
  | none => exact Nat.le_refl _
  | some node => exact Nat.le_refl _

/-- A radio does not hear itself. -/
theorem getElem?_nodes_spread (source : Nat) (data : Bytes) (preamble : UInt16)
    (medium : Medium) :
    (medium.spread source data preamble).nodes[source]? = medium.nodes[source]? := by
  simp [Medium.spread]

theorem busyLeft_transmit_le (data : Bytes) (endpoint : Endpoint) :
    Pokeable.busyLeft ((transmit data).run endpoint).2 ≤ Pokeable.busyLeft endpoint := by
  simp only [transmit, Medium.broadcast, run_of]
  split
  · exact Nat.le_refl _
  · cases endpoint.medium.nodes[endpoint.index]? with
    | none => exact Nat.le_refl _
    | some sender =>
        dsimp only
        split
        · exact Nat.le_refl _
        · cases sender.failure with
          | some error =>
              have failed : Gains 0 endpoint (endpoint.update fun node =>
                  { node with failure := none, up := false }) :=
                gains_update endpoint (fun _ => rfl) fun _ => rfl
              exact failed.busyLeft_le
          | none =>
              have noted : Gains 0 endpoint (endpoint.update fun node =>
                  { node with transmitted := node.transmitted + 1, mode := .standby }) :=
                gains_update endpoint (fun _ => rfl) fun _ => rfl
              have sent := noted.busyLeft_le
              rw [busyLeft_eq, node?] at sent ⊢
              dsimp only
              rw [getElem?_nodes_spread]
              exact sent

instance : Weighed Endpoint where
  bringUp := gains_locally fun _ => ⟨Nat.le_refl _, rfl⟩
  read room := gains_locally (quiet_read room)
  probe := gains_locally quiet_probe
  listen := gains_locally (quiet_enter .continuous)
  dutyCycle := gains_locally (quiet_enter .dutyCycle)
  sleep := gains_locally fun _ => ⟨Nat.le_refl _, rfl⟩
  setPreamble side _ endpoint := by
    change Gains 0 endpoint (endpoint.update _)
    cases side <;> exact gains_update endpoint (fun _ => rfl) fun _ => rfl
  attend _ := ⟨Nat.le_refl _, Nat.le_refl _⟩
  poke := gains_poke
  acknowledge := load_acknowledge_le
  busy _ := load_probe_lt_of_busy
  transmit := busyLeft_transmit_le

end StationMesh.Radio.Endpoint
