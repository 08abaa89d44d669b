import Mathlib.Data.List.DropRight
import StationMesh.Proofs.Radio.Medium

/-!
# What a medium delivers

Stations use their radios in any order, while links change, channels are made busy and transmitters
fail. What happened is told by its moments, and what a station holds is told by them as well: it
holds the frame that was delivered to it last, if it was neither read nor thrown away by bringing
the radio up since then, and it has counted all that were ever delivered. A moment leaves a station
in one of three ways: nothing is heard, a frame is heard, or the frame is gone.
-/

namespace StationMesh.Radio

open StationMesh.Action

/-- What a call is answered with. -/
inductive Reply where
  | done
  | received (reception : Reception)
  | sensed (activity : Activity)
deriving DecidableEq, Repr

def Call.operation {δ : Type} [Device δ] : Call → Operation δ Reply
  | bringUp => (fun _ => .done) <$> Device.bringUp
  | transmit data => (fun _ => .done) <$> Device.transmit data
  | read room => .received <$> Device.read room
  | probe => .sensed <$> Device.probe
  | listen => (fun _ => .done) <$> Device.listen
  | dutyCycle => (fun _ => .done) <$> Device.dutyCycle
  | sleep => (fun _ => .done) <$> Device.sleep
  | preamble side length =>
      .of fun device => (.ok .done, Device.setPreamble side length device)

/-- The receiver listens, the link is there, and the preamble is long enough. -/
def Node.Catches (link : Link) (preamble : UInt16) (node : Node) : Prop :=
  link ≠ .down ∧ (node.mode = .continuous ∨ node.mode = .dutyCycle) ∧
    node.receivePreamble ≤ preamble

instance (link : Link) (preamble : UInt16) (node : Node) :
    Decidable (node.Catches link preamble) :=
  inferInstanceAs (Decidable (_ ∧ _ ∧ _))

namespace Medium

/-! ### Moments -/

/-- What can be done on a medium. -/
inductive Act where
  /-- A station uses its radio. -/
  | call (index : Nat) (call : Call)
  /-- A station takes note of the frames that were announced to it. -/
  | acknowledge (index : Nat)
  | happen (index : Nat) (poke : Poke)
  | setLink (source target : Nat) (state : Link)
  | connect (a b : Nat) (state : Link)
deriving DecidableEq, Repr

def perform (medium : Medium) : Act → Except DeviceError Reply × Medium
  | .call index call =>
      let (answer, endpoint) := call.operation.run ({ medium, index } : Endpoint)
      (answer, endpoint.medium)
  | .acknowledge index => (.ok .done, (Device.acknowledge ({ medium, index } : Endpoint)).medium)
  | .happen index poke => (.ok .done, (Pokeable.poke poke ({ medium, index } : Endpoint)).medium)
  | .setLink source target state => (.ok .done, medium.setLink source target state)
  | .connect a b state => (.ok .done, medium.connect a b state)

/-- Something that is done, and the medium it is done on. -/
structure Moment where
  medium : Medium
  act : Act

namespace Moment

def answer (moment : Moment) : Except DeviceError Reply := (moment.medium.perform moment.act).1

/-- The frame that is delivered to a station: a transmission succeeds, and the station catches it.
-/
def delivered? (target : Nat) (moment : Moment) : Option Reception :=
  match moment.act, moment.answer with
  | .call source (.transmit data), .ok _ =>
      match moment.medium.nodes[source]?, moment.medium.nodes[target]? with
      | some sender, some receiver =>
          let link := moment.medium.link source target
          if target ≠ source ∧ receiver.Catches link sender.transmitPreamble then
            some { data, intact := link = .clean }
          else
            none
      | _, _ => none
  | _, _ => none

/-- The frame that a station reads. -/
def handedOut? (target : Nat) (moment : Moment) : Option Reception :=
  match moment.act, moment.answer with
  | .call index (.read _), .ok (.received reception) =>
      if index = target then some reception else none
  | _, _ => none

/-- A station reads its frame, or is brought up. -/
def clears (target : Nat) (moment : Moment) : Bool :=
  match moment.act with
  | .call index (.read _) | .call index .bringUp => index = target && moment.answer.isOk
  | _ => false

end Moment

/-- The moments of a run, and the medium it leaves. -/
def run (acts : List Act) (medium : Medium) : List Moment × Medium :=
  acts.foldl (fun (moments, medium) act =>
    (moments ++ [{ medium, act }], (medium.perform act).2)) ([], medium)

theorem run_concat (acts : List Act) (act : Act) (medium : Medium) :
    run (acts ++ [act]) medium =
      ((run acts medium).1 ++ [{ medium := (run acts medium).2, act }],
        ((run acts medium).2.perform act).2) :=
  List.foldl_concat ..

/-- The frames that were delivered to a station. -/
def deliveries (target : Nat) (moments : List Moment) : List Reception :=
  moments.filterMap (·.delivered? target)

/-- The frames that a station read. -/
def handedOut (target : Nat) (moments : List Moment) : List Reception :=
  moments.filterMap (·.handedOut? target)

/-- The latest of the frames that were delivered to a station since it last read one or was brought
up. -/
def unread (target : Nat) (moments : List Moment) : Option Reception :=
  (deliveries target (moments.rtakeWhile fun moment => !moment.clears target)).getLast?

theorem unread_concat (target : Nat) (moments : List Moment) (moment : Moment) :
    unread target (moments ++ [moment]) =
      if moment.clears target then none
      else (moment.delivered? target).or (unread target moments) := by
  cases cleared : moment.clears target with
  | true => simp [unread, deliveries, cleared]
  | false => cases found : moment.delivered? target <;> simp [unread, deliveries, cleared, found]

/-! ### What a moment does to a station -/

/-- The station has the frame that it had, and counted no other. -/
structure Unheard (before after : Node) : Prop where
  delivered_eq : after.delivered = before.delivered
  counter_eq : after.signal.counter = before.signal.counter
  buffer_eq : after.buffer = before.buffer

/-- How a moment leaves a station. -/
inductive Fares (moment : Moment) (target : Nat) (before : Node) : Node → Prop where
  | unheard {after : Node} (silent : moment.delivered? target = none)
      (kept : moment.clears target = false) (unread : moment.handedOut? target = none)
      (same : Unheard before after) : Fares moment target before after
  | heard {reception : Reception} (delivered : moment.delivered? target = some reception)
      (kept : moment.clears target = false) (unread : moment.handedOut? target = none) :
      Fares moment target before (before.deliver reception)
  | emptied {after : Node} (silent : moment.delivered? target = none)
      (cleared : moment.clears target = true)
      (taken : ∀ reception, moment.handedOut? target = some reception →
        before.buffer = some reception)
      (same : Unheard { before with buffer := none } after) : Fares moment target before after

/-- What is known of a station after some moments. -/
structure Tracks (moments : List Moment) (target : Nat) (node : Node) : Prop where
  delivered_eq : node.delivered = (deliveries target moments).length
  counter_eq : node.signal.counter = UInt16.ofNat node.delivered
  buffer_eq : node.buffer = unread target moments
  sublist : (handedOut target moments ++ node.buffer.toList).Sublist (deliveries target moments)

theorem tracks_nil (target : Nat) : Tracks [] target {} := ⟨rfl, rfl, rfl, .slnil⟩

variable {moments : List Moment} {moment : Moment} {target : Nat} {node after : Node}

theorem Tracks.fares (tracks : Tracks moments target node)
    (fares : Fares moment target node after) : Tracks (moments ++ [moment]) target after := by
  have unread_eq := unread_concat target moments moment
  rw [← tracks.buffer_eq] at unread_eq
  have read_sublist : (handedOut target moments).Sublist (deliveries target moments) :=
    (List.sublist_append_left _ _).trans tracks.sublist
  cases fares with
  | unheard silent kept unread same =>
      rcases same with ⟨delivered_eq, counter_eq, buffer_eq⟩
      constructor
      · simp [deliveries, silent, delivered_eq, tracks.delivered_eq]
      · rw [counter_eq, delivered_eq, tracks.counter_eq]
      · simp [unread_eq, silent, kept, buffer_eq]
      · simpa [deliveries, handedOut, silent, unread, buffer_eq] using tracks.sublist
  | heard delivered kept unread =>
      constructor
      · simp [deliveries, delivered, Node.deliver, tracks.delivered_eq]
      · simp [Node.deliver, Signal.raise, tracks.counter_eq]
      · simp [unread_eq, delivered, kept, Node.deliver]
      · simpa [deliveries, handedOut, delivered, unread, Node.deliver] using read_sublist
  | emptied silent cleared taken same =>
      rcases same with ⟨delivered_eq, counter_eq, buffer_eq⟩
      constructor
      · simp [deliveries, silent, delivered_eq, tracks.delivered_eq]
      · rw [counter_eq, delivered_eq, tracks.counter_eq]
      · simp [unread_eq, cleared, buffer_eq]
      · cases read : moment.handedOut? target with
        | none => simpa [deliveries, handedOut, silent, read, buffer_eq] using read_sublist
        | some reception =>
            have sublist := tracks.sublist
            rw [taken reception read] at sublist
            simpa [deliveries, handedOut, silent, read, buffer_eq] using sublist

/-! ### One act -/

variable {medium : Medium} {index source : Nat} {data : Bytes} {preamble : UInt16} {α : Type}

theorem getElem?_update (index : Nat) (change : Node → Node)
    (found : medium.nodes[target]? = some node) :
    (medium.update index change).nodes[target]? =
      some (if target = index then change node else node) := by
  by_cases same : target = index
  · subst same
    simp [update, found]
  · simp [update, found, same, Ne.symm same]

theorem nodes_setLink (source target : Nat) (state : Link) (medium : Medium) :
    (medium.setLink source target state).nodes = medium.nodes := by
  unfold setLink
  split <;> rfl

theorem getElem?_locally (operation : Operation Node α)
    (found : medium.nodes[target]? = some node) :
    ((Endpoint.locally operation).run { medium, index }).2.medium.nodes[target]? =
      some (if target = index then (operation.run node).2 else node) := by
  simp only [Endpoint.locally, run_of, Endpoint.node?]
  by_cases same : target = index
  · subst same
    simp [found, Endpoint.update, update]
  · cases medium.nodes[index]? <;>
      simp [found, same, Ne.symm same, Endpoint.update, update]

theorem answer_locally (operation : Operation Node α) (found : medium.nodes[index]? = some node) :
    ((Endpoint.locally operation).run { medium, index }).1 = (operation.run node).1 := by
  simp [Endpoint.locally, Endpoint.node?, found]

/-- What only one radio takes part in, and that without hearing anything, is nothing to be heard for
all stations. -/
theorem exists_unheard_locally {operation : Operation Node α} (quiet : operation.Moves Unheard)
    (index : Nat) (found : medium.nodes[target]? = some node) :
    ∃ after, ((Endpoint.locally operation).run { medium, index }).2.medium.nodes[target]? =
      some after ∧ Unheard node after := by
  refine ⟨_, getElem?_locally operation found, ?_⟩
  split
  · exact quiet node
  · exact ⟨rfl, rfl, rfl⟩

theorem exists_unheard_update {change : Node → Node} (quiet : ∀ node, Unheard node (change node))
    (index : Nat) (found : medium.nodes[target]? = some node) :
    ∃ after, (medium.update index change).nodes[target]? = some after ∧ Unheard node after := by
  refine ⟨_, getElem?_update index change found, ?_⟩
  split
  · exact quiet node
  · exact ⟨rfl, rfl, rfl⟩

theorem unheard_enter (mode : Mode) : (Endpoint.enter mode).Moves Unheard := by
  intro node
  simp only [Endpoint.enter, run_of]
  split <;> exact ⟨rfl, rfl, rfl⟩

theorem unheard_probe : Endpoint.probe.Moves Unheard := by
  intro node
  simp only [Endpoint.probe, run_of]
  split
  · exact ⟨rfl, rfl, rfl⟩
  · split <;> exact ⟨rfl, rfl, rfl⟩

theorem read_cases (room : Nat) (node : Node) :
    (∃ error, (Endpoint.read room).run node = (.error error, node)) ∨
      ∃ reception, node.buffer = some reception ∧
        (Endpoint.read room).run node = (.ok reception, { node with buffer := none }) := by
  simp only [Endpoint.read, run_of]
  split
  · exact .inl ⟨_, rfl⟩
  · cases found : node.buffer with
    | none => exact .inl ⟨_, rfl⟩
    | some reception =>
        dsimp only
        split
        · exact .inl ⟨_, rfl⟩
        · exact .inr ⟨reception, rfl, rfl⟩

/-! ### Sending -/

/-- The station is there, its radio is up and is not going to fail, and the frame fits. -/
structure Sends (medium : Medium) (source : Nat) (data : Bytes) (sender : Node) : Prop where
  found : medium.nodes[source]? = some sender
  up : sender.up = true
  sound : sender.failure = none
  fits : data.length ≤ bufferSize

def noteSent (node : Node) : Node :=
  { node with transmitted := node.transmitted + 1, mode := .standby }

/-- A frame is sent to all stations, or the transmission fails and nothing is heard of it. -/
theorem perform_transmit (medium : Medium) (source : Nat) (data : Bytes) :
    (∃ sender, Sends medium source data sender ∧
      medium.perform (.call source (.transmit data)) =
        (.ok .done, (medium.update source noteSent).spread source data sender.transmitPreamble)) ∨
    ((∀ sender, ¬Sends medium source data sender) ∧ ∃ error change,
      (∀ node, Unheard node (change node)) ∧
      medium.perform (.call source (.transmit data)) =
        (.error error, medium.update source change)) := by
  have same : medium.update source id = medium := by simp [update]
  have quiet (node : Node) : Unheard node (id node) := ⟨rfl, rfl, rfl⟩
  simp only [perform, Call.operation, run_map, Device.transmit, Endpoint.transmit, broadcast,
    run_of]
  by_cases long : bufferSize < data.length
  · right
    refine ⟨fun sender sends => absurd sends.fits (Nat.not_le_of_lt long), .transmissionFailed, id,
      quiet, ?_⟩
    simp [long, same, Except.map]
  · cases found : medium.nodes[source]? with
    | none =>
        right
        refine ⟨fun sender sends => ?_, .hardwareFault, id, quiet, ?_⟩
        · have there := sends.found
          simp [found] at there
        · simp [long, same, Except.map]
    | some sender =>
        have sender_eq {other : Node} (sends : Sends medium source data other) : other = sender :=
          Option.some.inj (sends.found.symm.trans found)
        cases up : sender.up with
        | false =>
            right
            refine ⟨fun other sends => ?_, .initializationFailed, id, quiet, ?_⟩
            · have otherUp := sends.up
              simp [sender_eq sends, up] at otherUp
            · simp [long, up, same, Except.map]
        | true =>
            cases failure : sender.failure with
            | some error =>
                right
                refine ⟨fun other sends => ?_, error,
                  fun node => { node with failure := none, up := false },
                  fun _ => ⟨rfl, rfl, rfl⟩, ?_⟩
                · have otherSound := sends.sound
                  simp [sender_eq sends, failure] at otherSound
                · simp [long, up, failure, Except.map]
            | none =>
                left
                refine ⟨sender, ⟨found, up, failure, Nat.le_of_not_lt long⟩, ?_⟩
                have noted : noteSent = fun node =>
                  { node with transmitted := node.transmitted + 1, mode := .standby } := rfl
                simp [long, up, failure, Except.map, noted]

theorem arrive_eq (fits : data.length ≤ bufferSize) (link : Link) :
    arrive data preamble link node =
      if node.Catches link preamble then node.deliver { data, intact := link = .clean }
      else node := by
  have catches_iff : node.Catches link preamble ↔ ¬(link = .down ∨ !node.hears preamble) := by
    simp only [Node.Catches, Node.hears]
    cases node.mode <;> simp [Mode.listens]
  simp only [arrive, List.take_of_length_le fits, catches_iff, ite_not]

theorem getElem?_spread (fits : data.length ≤ bufferSize)
    (found : medium.nodes[target]? = some node) :
    (medium.spread source data preamble).nodes[target]? =
      some (if target ≠ source ∧ node.Catches (medium.link source target) preamble then
        node.deliver { data, intact := medium.link source target = .clean } else node) := by
  simp only [spread, List.getElem?_mapIdx, found, Option.map_some, Option.some.injEq]
  by_cases same : target = source
  · simp [same]
  · simp [same, arrive_eq fits]

/-- What a successful transmission leaves of another station. -/
theorem getElem?_sent (fits : data.length ≤ bufferSize) (other : target ≠ source)
    (found : medium.nodes[target]? = some node) :
    ((medium.update source noteSent).spread source data preamble).nodes[target]? =
      some (if node.Catches (medium.link source target) preamble then
        node.deliver { data, intact := medium.link source target = .clean } else node) := by
  have noted := getElem?_update source noteSent found
  simp only [other, if_false] at noted
  -- Noting the transmission leaves the links and the other stations alone.
  have spread_eq : ((medium.update source noteSent).spread source data preamble).nodes[target]? =
      some (if target ≠ source ∧ node.Catches (medium.link source target) preamble then
        node.deliver { data, intact := medium.link source target = .clean } else node) :=
    getElem?_spread fits noted
  simpa [other] using spread_eq

variable {sender : Node}

/-- A station on the medium sends a frame that fits unless its radio is down or fails. -/
theorem sends_iff (found : medium.nodes[source]? = some sender) (fits : data.length ≤ bufferSize) :
    (medium.perform (.call source (.transmit data))).1 = .ok .done ↔
      sender.up = true ∧ sender.failure = none := by
  rcases perform_transmit medium source data with
    ⟨other, sends, perform_eq⟩ | ⟨idle, error, change, _, perform_eq⟩
  · cases found.symm.trans sends.found
    simp [perform_eq, sends.up, sends.sound]
  · simp only [perform_eq, reduceCtorEq, false_iff, not_and]
    intro up sound
    exact idle sender ⟨found, up, sound, fits⟩

theorem getElem?_of_sent (found : medium.nodes[source]? = some sender)
    (succeeded : (medium.perform (.call source (.transmit data))).1 = .ok .done)
    (other : target ≠ source) (caught : medium.nodes[target]? = some node) :
    (medium.perform (.call source (.transmit data))).2.nodes[target]? =
      some (if node.Catches (medium.link source target) sender.transmitPreamble then
        node.deliver { data, intact := medium.link source target = .clean } else node) := by
  rcases perform_transmit medium source data with
    ⟨_, sends, perform_eq⟩ | ⟨_, error, change, _, perform_eq⟩
  · cases found.symm.trans sends.found
    rw [perform_eq]
    exact getElem?_sent sends.fits other caught
  · simp [perform_eq] at succeeded

theorem getElem?_of_unsent {error : DeviceError}
    (failed : (medium.perform (.call source (.transmit data))).1 = .error error)
    (other : target ≠ source) :
    (medium.perform (.call source (.transmit data))).2.nodes[target]? = medium.nodes[target]? := by
  rcases perform_transmit medium source data with
    ⟨_, _, perform_eq⟩ | ⟨_, _, change, _, perform_eq⟩
  · simp [perform_eq] at failed
  · simp [perform_eq, update, Ne.symm other]

theorem link_transmit (medium : Medium) (source : Nat) (data : Bytes) :
    (medium.perform (.call source (.transmit data))).2.link = medium.link := by
  rcases perform_transmit medium source data with
    ⟨sender, _, perform_eq⟩ | ⟨_, error, change, _, perform_eq⟩
  · rw [perform_eq]
    rfl
  · rw [perform_eq]
    rfl

/-! ### All acts -/

theorem perform_locally (call : Call) {operation : Operation Node α} {answer : α → Reply}
    (operation_eq : (call.operation : Operation Endpoint Reply) =
      answer <$> Endpoint.locally operation) (medium : Medium) (index : Nat) :
    medium.perform (.call index call) =
      (((Endpoint.locally operation).run { medium, index }).1.map answer,
        ((Endpoint.locally operation).run { medium, index }).2.medium) := by
  simp only [perform, operation_eq, run_map]

theorem exists_unheard_call (call : Call) {operation : Operation Node α} {answer : α → Reply}
    (operation_eq : (call.operation : Operation Endpoint Reply) =
      answer <$> Endpoint.locally operation) (quiet : operation.Moves Unheard) (index : Nat)
    (found : medium.nodes[target]? = some node) :
    ∃ after, (medium.perform (.call index call)).2.nodes[target]? = some after ∧
      Unheard node after := by
  rw [perform_locally call operation_eq]
  exact exists_unheard_locally quiet index found

theorem exists_fares_of_unheard {act : Act}
    (silent : Moment.delivered? target { medium, act } = none)
    (kept : Moment.clears target { medium, act } = false)
    (unread : Moment.handedOut? target { medium, act } = none)
    (unheard : ∃ after, (medium.perform act).2.nodes[target]? = some after ∧ Unheard node after) :
    ∃ after, (medium.perform act).2.nodes[target]? = some after ∧
      Fares { medium, act } target node after := by
  rcases unheard with ⟨after, left, same⟩
  exact ⟨after, left, .unheard silent kept unread same⟩

theorem exists_fares_bringUp (index : Nat) (found : medium.nodes[target]? = some node) :
    ∃ after, (medium.perform (.call index .bringUp)).2.nodes[target]? = some after ∧
      Fares { medium, act := .call index .bringUp } target node after := by
  have perform_eq := perform_locally .bringUp rfl medium index
  refine ⟨_, (congrArg (·.2.nodes[target]?) perform_eq).trans (getElem?_locally _ found), ?_⟩
  by_cases same : target = index
  · subst same
    simp only [if_true]
    refine .emptied rfl ?_ nofun ⟨rfl, rfl, rfl⟩
    simp [Moment.clears, Moment.answer, perform_eq, answer_locally _ found, Except.map,
      Except.isOk, Except.toBool]
  · simp only [same, if_false]
    refine .unheard rfl ?_ rfl ⟨rfl, rfl, rfl⟩
    simp [Moment.clears, Ne.symm same]

theorem exists_fares_read (index room : Nat) (found : medium.nodes[target]? = some node) :
    ∃ after, (medium.perform (.call index (.read room))).2.nodes[target]? = some after ∧
      Fares { medium, act := .call index (.read room) } target node after := by
  have perform_eq := perform_locally (.read room) rfl medium index
  refine ⟨_, (congrArg (·.2.nodes[target]?) perform_eq).trans (getElem?_locally _ found), ?_⟩
  by_cases same : target = index
  · subst same
    have answer_eq := answer_locally (Endpoint.read room) found
    simp only [if_true]
    rcases read_cases room node with ⟨error, run_eq⟩ | ⟨reception, buffer_eq, run_eq⟩
    · rw [run_eq] at answer_eq ⊢
      refine .unheard rfl ?_ ?_ ⟨rfl, rfl, rfl⟩
      · simp [Moment.clears, Moment.answer, perform_eq, answer_eq, Except.map, Except.isOk,
          Except.toBool]
      · simp [Moment.handedOut?, Moment.answer, perform_eq, answer_eq, Except.map]
    · rw [run_eq] at answer_eq ⊢
      refine .emptied rfl ?_ ?_ ⟨rfl, rfl, rfl⟩
      · simp [Moment.clears, Moment.answer, perform_eq, answer_eq, Except.map, Except.isOk,
          Except.toBool]
      · simp [Moment.handedOut?, Moment.answer, perform_eq, answer_eq, Except.map, buffer_eq]
  · simp only [same, if_false]
    refine .unheard rfl ?_ ?_ ⟨rfl, rfl, rfl⟩
    · simp [Moment.clears, Ne.symm same]
    · simp only [Moment.handedOut?]
      split
      · rename_i act_eq _
        cases act_eq
        exact if_neg (Ne.symm same)
      · rfl

theorem exists_fares_transmit (source : Nat) (data : Bytes)
    (found : medium.nodes[target]? = some node) :
    ∃ after, (medium.perform (.call source (.transmit data))).2.nodes[target]? = some after ∧
      Fares { medium, act := .call source (.transmit data) } target node after := by
  rcases perform_transmit medium source data with
    ⟨sender, sends, perform_eq⟩ | ⟨_, error, change, quiet, perform_eq⟩
  · -- What is delivered is told by the medium before the call, what is left by the one behind it.
    have delivered_eq : Moment.delivered? target { medium, act := .call source (.transmit data) } =
        if target ≠ source ∧ node.Catches (medium.link source target) sender.transmitPreamble then
          some { data, intact := medium.link source target = .clean }
        else none := by
      simp [Moment.delivered?, Moment.answer, perform_eq, sends.found, found]
    rw [perform_eq]
    by_cases same : target = source
    · subst same
      have noted := getElem?_update target noteSent found
      simp only [if_true] at noted
      refine ⟨_, (Endpoint.getElem?_nodes_spread _ _ _ _).trans noted,
        .unheard ?_ rfl rfl ⟨rfl, rfl, rfl⟩⟩
      simp [delivered_eq]
    · refine ⟨_, getElem?_sent sends.fits same found, ?_⟩
      split
      · rename_i catches
        refine .heard ?_ rfl rfl
        simp [delivered_eq, same, catches]
      · rename_i misses
        refine .unheard ?_ rfl rfl ⟨rfl, rfl, rfl⟩
        simp [delivered_eq, misses]
  · refine exists_fares_of_unheard ?_ rfl rfl ?_
    · simp only [Moment.delivered?, Moment.answer, perform_eq]
    · rw [perform_eq]
      exact exists_unheard_update quiet source found

theorem exists_fares (act : Act) (found : medium.nodes[target]? = some node) :
    ∃ after, (medium.perform act).2.nodes[target]? = some after ∧
      Fares { medium, act } target node after := by
  cases act with
  | call index call =>
      cases call with
      | bringUp => exact exists_fares_bringUp index found
      | transmit data => exact exists_fares_transmit index data found
      | read room => exact exists_fares_read index room found
      | probe =>
          apply exists_fares_of_unheard rfl rfl rfl
          exact exists_unheard_call .probe rfl unheard_probe index found
      | listen =>
          apply exists_fares_of_unheard rfl rfl rfl
          exact exists_unheard_call .listen rfl (unheard_enter .continuous) index found
      | dutyCycle =>
          apply exists_fares_of_unheard rfl rfl rfl
          exact exists_unheard_call .dutyCycle rfl (unheard_enter .dutyCycle) index found
      | sleep =>
          apply exists_fares_of_unheard rfl rfl rfl
          exact exists_unheard_call .sleep rfl (fun _ => ⟨rfl, rfl, rfl⟩) index found
      | preamble side length =>
          apply exists_fares_of_unheard rfl rfl rfl
          apply exists_unheard_update _ index found
          cases side <;> exact fun _ => ⟨rfl, rfl, rfl⟩
  | acknowledge index =>
      apply exists_fares_of_unheard rfl rfl rfl
      refine exists_unheard_update (fun _ => ?_) index found
      exact ⟨rfl, rfl, rfl⟩
  | happen index poke =>
      cases poke with
      | inject data intact => exact ⟨node, found, .unheard rfl rfl rfl ⟨rfl, rfl, rfl⟩⟩
      | busy count =>
          apply exists_fares_of_unheard rfl rfl rfl
          refine exists_unheard_update (fun _ => ?_) index found
          exact ⟨rfl, rfl, rfl⟩
      | fail error =>
          apply exists_fares_of_unheard rfl rfl rfl
          refine exists_unheard_update (fun _ => ?_) index found
          exact ⟨rfl, rfl, rfl⟩
  | setLink source other state =>
      refine ⟨node, ?_, .unheard rfl rfl rfl ⟨rfl, rfl, rfl⟩⟩
      simp [perform, nodes_setLink, found]
  | connect a b state =>
      refine ⟨node, ?_, .unheard rfl rfl rfl ⟨rfl, rfl, rfl⟩⟩
      simp [perform, connect, nodes_setLink, found]

/-! ### Runs -/

/-- Whatever is done on a medium that is new, each of its stations is there and is kept track of. -/
theorem exists_tracks_run {size : Nat} (link : Nat → Nat → Link) (lt : target < size)
    (acts : List Act) :
    ∃ node, (run acts { nodes := List.replicate size {}, link }).2.nodes[target]? = some node ∧
      Tracks (run acts { nodes := List.replicate size {}, link }).1 target node := by
  induction acts using List.reverseRecOn with
  | nil => exact ⟨{}, by simp [run, lt], tracks_nil target⟩
  | append_singleton acts act ih =>
      rcases ih with ⟨node, found, tracks⟩
      rcases exists_fares act found with ⟨after, left, fares⟩
      rw [run_concat]
      exact ⟨after, left, tracks.fares fares⟩

theorem update_const (change : Node → Node) (found : medium.nodes[target]? = some node) :
    medium.update target (fun _ => change node) = medium.update target change := by
  simp only [update, mk.injEq, and_true]
  apply List.ext_getElem?
  intro place
  by_cases same : place = target
  · subst same
    simp [found]
  · simp [Ne.symm same]

theorem update_self (found : medium.nodes[target]? = some node) :
    medium.update target (fun _ => node) = medium := by
  apply (update_const id found).trans
  simp [update]

/-- A read by what the station holds. -/
theorem perform_read (room : Nat) (found : medium.nodes[target]? = some node) :
    (node.up = false → medium.perform (.call target (.read room)) =
      (.error .initializationFailed, medium)) ∧
    (node.up = true →
      (node.buffer = none → medium.perform (.call target (.read room)) =
        (.error .receiveFailed, medium)) ∧
      ∀ reception, node.buffer = some reception →
        (room < reception.data.length → medium.perform (.call target (.read room)) =
          (.error .bufferTooSmall, medium)) ∧
        (reception.data.length ≤ room → medium.perform (.call target (.read room)) =
          (.ok (.received reception),
            medium.update target fun node => { node with buffer := none }))) := by
  have perform_eq : medium.perform (.call target (.read room)) =
      (((Endpoint.read room).run node).1.map .received,
        medium.update target fun _ => ((Endpoint.read room).run node).2) := by
    rw [perform_locally (.read room) rfl]
    simp [Endpoint.locally, Endpoint.node?, found, Endpoint.update]
  have kept := update_self found
  have emptied := update_const (fun node => { node with buffer := none }) found
  rw [perform_eq]
  refine ⟨?_, fun up => ⟨?_, ?_⟩⟩
  · intro down
    simp [Endpoint.read, down, kept, Except.map]
  · intro buffer_eq
    simp [Endpoint.read, up, buffer_eq, kept, Except.map]
  · intro reception buffer_eq
    refine ⟨?_, ?_⟩
    · intro long
      simp [Endpoint.read, up, buffer_eq, long, kept, Except.map]
    · intro fits
      simp [Endpoint.read, up, buffer_eq, Nat.not_lt_of_le fits, ← emptied, Except.map]

/-- Each station counts the frames that are delivered to it, in a word of sixteen bits, and reads
each of them at most once. What it reads is the latest one since it last read or was brought up, and
a frame that does not fit stays. A station sends if its radio is up and is not going to fail. The
frame then reaches those other stations that catch it, and nothing else changes for them; if the
transmission fails, nothing changes at all for them. The links stay as they are either way. -/
theorem delivers_where_caught (size : Nat) (link : Nat → Nat → Link) (acts : List Act) :
    let start : Medium := { nodes := List.replicate size {}, link }
    let moments := (run acts start).1
    let medium := (run acts start).2
    (∀ target < size, ∃ node, medium.nodes[target]? = some node ∧
      node.delivered = (deliveries target moments).length ∧
      node.signal.counter.toNat = node.delivered % 2 ^ 16 ∧
      (handedOut target moments).Sublist (deliveries target moments) ∧
      ∀ room,
        (node.up = false → medium.perform (.call target (.read room)) =
          (.error .initializationFailed, medium)) ∧
        (node.up = true →
          (unread target moments = none → medium.perform (.call target (.read room)) =
            (.error .receiveFailed, medium)) ∧
          ∀ reception, unread target moments = some reception →
            (room < reception.data.length → medium.perform (.call target (.read room)) =
              (.error .bufferTooSmall, medium)) ∧
            (reception.data.length ≤ room → medium.perform (.call target (.read room)) =
              (.ok (.received reception),
                medium.update target fun node => { node with buffer := none })))) ∧
    ∀ source data,
      let sent := medium.perform (.call source (.transmit data))
      sent.2.link = medium.link ∧
      (∀ sender, medium.nodes[source]? = some sender → data.length ≤ bufferSize →
        (sent.1 = .ok .done ↔ sender.up = true ∧ sender.failure = none) ∧
        (sent.1 = .ok .done → ∀ target receiver, target ≠ source →
          medium.nodes[target]? = some receiver →
            sent.2.nodes[target]? = some (
              if receiver.Catches (medium.link source target) sender.transmitPreamble then
                { receiver with
                  buffer := some { data, intact := medium.link source target = .clean }
                  delivered := receiver.delivered + 1
                  signal := { waiting := true, counter := receiver.signal.counter + 1 } }
              else
                receiver))) ∧
      ∀ error, sent.1 = .error error → ∀ target ≠ source,
        sent.2.nodes[target]? = medium.nodes[target]? := by
  intro start moments medium
  refine ⟨?_, ?_⟩
  · intro target lt
    rcases exists_tracks_run link lt acts with ⟨node, found, tracks⟩
    refine ⟨node, found, tracks.delivered_eq, ?_, ?_, ?_⟩
    · rw [tracks.counter_eq, UInt16.toNat_ofNat']
    · exact (List.sublist_append_left _ _).trans tracks.sublist
    · intro room
      have read := perform_read room found
      rw [tracks.buffer_eq] at read
      exact read
  · intro source data sent
    refine ⟨link_transmit medium source data, ?_, ?_⟩
    · intro sender found fits
      refine ⟨sends_iff found fits, ?_⟩
      intro succeeded target receiver other caught
      exact getElem?_of_sent found succeeded other caught
    · intro error failed target other
      exact getElem?_of_unsent failed other

/-- The second frame overwrites the first one, over a link that was made bad in between, and finds
too little room once; the third station sleeps through both of them, behind preambles that are too
short, catches the next one, and cannot send itself. -/
theorem delivers_where_caught_overwritten :
    let acts : List Act := [.call 0 .bringUp, .call 1 .bringUp, .call 1 .listen, .call 2 .bringUp,
      .call 2 (.preamble .receive 400), .call 2 .dutyCycle, .call 0 (.preamble .transmit 8),
      .call 0 (.transmit [1]), .setLink 0 1 .corrupting, .call 0 (.transmit [2, 3]),
      .call 0 (.preamble .transmit 500), .happen 2 (.fail .hardwareFault)]
    let moments := (run acts (fullyConnected 3)).1
    let medium := (run acts (fullyConnected 3)).2
    let sent := medium.perform (.call 0 (.transmit [4]))
    let unsent := medium.perform (.call 2 (.transmit [5]))
    deliveries 1 moments = [⟨[1], true⟩, ⟨[2, 3], false⟩] ∧ deliveries 2 moments = [] ∧
      medium.perform (.call 1 (.read 1)) = (.error .bufferTooSmall, medium) ∧
      (medium.perform (.call 1 (.read 2))).1 = .ok (.received ⟨[2, 3], false⟩) ∧
      medium.perform (.call 2 (.read 255)) = (.error .receiveFailed, medium) ∧
      sent.1 = .ok .done ∧
      (sent.2.nodes[2]?.bind (·.buffer)) = some ⟨[4], true⟩ ∧
      unsent.1 = .error .hardwareFault ∧ unsent.2.nodes[1]? = medium.nodes[1]? := by
  intro acts moments medium sent unsent
  rcases delivers_where_caught 3
    (fun source target => if source = target then .down else .clean) acts with ⟨stations, sending⟩
  rcases stations 1 (by decide) with ⟨listener, listener_eq, _, _, _, reads⟩
  rcases stations 2 (by decide) with ⟨waker, waker_eq, _, _, _, wakerReads⟩
  have listenerUp : listener.up = true := by
    have up : (medium.nodes[1]?.map (·.up)) = some true := by decide
    have found : medium.nodes[1]? = some listener := listener_eq
    simpa [found] using up
  have wakerUp : waker.up = true := by
    have up : (medium.nodes[2]?.map (·.up)) = some true := by decide
    have found : medium.nodes[2]? = some waker := waker_eq
    simpa [found] using up
  have unread_eq : unread 1 moments = some ⟨[2, 3], false⟩ := by decide
  have unheard : unread 2 moments = none := by decide
  refine ⟨by decide, by decide, ?_, ?_, ?_, by decide, ?_, by decide, ?_⟩
  · exact (((reads 1).2 listenerUp).2 _ unread_eq).1 (by decide)
  · exact congrArg Prod.fst ((((reads 2).2 listenerUp).2 _ unread_eq).2 (by decide))
  · exact ((wakerReads 255).2 wakerUp).1 unheard
  · have caught := (((sending 0 [4]).2.1 _ rfl (by decide)).2 (by decide)) 2 _ (by decide) rfl
    exact congrArg (·.bind (·.buffer)) caught
  · exact (sending 2 [5]).2.2 .hardwareFault (by decide) 1 (by decide)

end Medium

end StationMesh.Radio
