import StationMesh.Channel.CarrierSense
import StationMesh.Proofs.Invariant
import StationMesh.Radio.Bench

/-!
# Sessions of a controller

In a session a controller, whose radio is on the bench, is asked for one thing after the other. In
between, something may happen to the radio, faults may be queued, and time may pass. Whatever a turn
answers, the next one starts in the state that was left. The history of a session keeps all that
there is to know of each turn.
-/

namespace StationMesh.Radio.Bench

/-- Lets something happen to the device at once. -/
def poke {δ : Type} [Pokeable δ] (poke : Poke) (bench : Bench δ) : Bench δ :=
  { bench with device := Pokeable.poke poke bench.device }

end StationMesh.Radio.Bench

namespace StationMesh.Channel.Session

open Radio StationMesh.Action

/-- What a controller can be asked for. -/
inductive Request where
  | transmit (data : Bytes) (preamble : Preamble)
  | senseCarrier
  | read
  | service
  | dequeue
  | setIdle (idle : IdleState)
  /-- To bring the radio up and put it into the idle state. -/
  | restart
deriving DecidableEq, Repr

/-- What a request is answered with. -/
inductive Answer where
  | done
  | waited (time : Nat)
  | received (length : Option Nat)
  | serviced (count : Nat)
  | handedOut (frame : Option Bytes)
deriving DecidableEq, Repr

def Request.operation {ρ : Type} [Timed ρ] : Request → Controller.Operation ρ Answer
  | .transmit data preamble => do
      Controller.transmit data preamble
      return .done
  | .senseCarrier => return .waited (← Controller.senseCarrier)
  | .read => return .received (← Controller.readIfPossible)
  | .service => return .serviced (← Controller.serviceReceiver)
  | .dequeue => .of fun controller => (.ok (.handedOut controller.dequeue.1), controller.dequeue.2)
  | .setIdle idle => do
      Controller.setIdle idle
      return .done
  | .restart => do
      Controller.reinitialize
      return .done

/-- What can be done in a turn. -/
inductive Act where
  | ask (request : Request)
  /-- Something happens to the radio at once. -/
  | happen (poke : Poke)
  | plan (time : Nat) (poke : Poke)
  | addFaults (kind : CallKind) (error : DeviceError) (skip count : Nat)
  | elapse (time : Nat)
deriving DecidableEq, Repr

variable {δ : Type} [Device δ] [Pokeable δ]

def Act.operation : Act → Controller.Operation (Bench δ) Answer
  | .ask request => request.operation
  | .happen poke => do
      Controller.adjust (Bench.poke poke)
      return .done
  | .plan time poke => do
      Controller.adjust (Bench.plan time poke)
      return .done
  | .addFaults kind error skip count => do
      Controller.adjust (Bench.addFaults kind error skip count)
      return .done
  | .elapse time => do
      Controller.adjust (Bench.elapse time)
      return .done

/-- A turn of a session. -/
structure Turn (δ : Type) where
  act : Act
  before : Controller (Bench δ)
  answer : Except ChannelError Answer
  after : Controller (Bench δ)

/-- The radio failed. -/
def Turn.faulted (turn : Turn δ) : Bool :=
  match turn.answer with
  | .error (.driverFault _) => true
  | .error _ | .ok _ => false

/-- The frame that was handed out. -/
def Turn.handedOut (turn : Turn δ) : List Bytes :=
  match turn.answer with
  | .ok (.handedOut (some frame)) => [frame]
  | .ok _ | .error _ => []

def take (act : Act) (controller : Controller (Bench δ)) : Turn δ where
  act
  before := controller
  answer := (act.operation.run controller).1
  after := (act.operation.run controller).2

/-- The turns of a session. -/
def history : List Act → Controller (Bench δ) → List (Turn δ)
  | [], _ => []
  | act :: acts, controller =>
      let turn := take act controller
      turn :: history acts turn.after

/-- The controller after a session. -/
def after (acts : List Act) (controller : Controller (Bench δ)) : Controller (Bench δ) :=
  acts.foldl (fun controller act => (take act controller).after) controller

theorem run_answer {ρ α : Type} (operation : Controller.Operation ρ α) (answer : α → Answer)
    (controller : Controller ρ) :
    (operation >>= fun value => pure (answer value)).run controller =
      ((operation.run controller).1.map answer, (operation.run controller).2) := by
  rw [run_bind]
  rcases operation.run controller with ⟨_ | _, _⟩ <;> rfl

variable {act : Act} {acts : List Act} {start : Controller (Bench δ)}

theorem take_of_operation {α : Type} {operation : Controller.Operation (Bench δ) α}
    {answer : α → Answer}
    (operation_eq : act.operation = operation >>= fun value => pure (answer value)) :
    (take act start).answer = (operation.run start).1.map answer ∧
      (take act start).after = (operation.run start).2 := by
  have run_eq := run_answer operation answer start
  rw [← operation_eq] at run_eq
  exact ⟨congrArg Prod.fst run_eq, congrArg Prod.snd run_eq⟩

@[simp]
theorem after_nil : after [] start = start := rfl

@[simp]
theorem after_cons : after (act :: acts) start = after acts (take act start).after := rfl

@[simp]
theorem history_nil : history [] start = [] := rfl

@[simp]
theorem history_cons :
    history (act :: acts) start = take act start :: history acts (take act start).after := rfl

theorem after_append (former latter : List Act) :
    after (former ++ latter) start = after latter (after former start) :=
  List.foldl_append

theorem history_append (former latter : List Act) : history (former ++ latter) start =
    history former start ++ history latter (after former start) := by
  induction former generalizing start with
  | nil => rfl
  | cons act former ih => simp [ih]

theorem mem_history_iff {turn : Turn δ} :
    turn ∈ history acts start ↔
      ∃ former act latter, acts = former ++ act :: latter ∧
        turn = take act (after former start) := by
  induction acts generalizing start with
  | nil => simp
  | cons first acts ih =>
      rw [history_cons, List.mem_cons, ih]
      constructor
      · rintro (rfl | ⟨former, act, latter, rfl, rfl⟩)
        · exact ⟨[], first, acts, rfl, rfl⟩
        · exact ⟨first :: former, act, latter, rfl, rfl⟩
      · rintro ⟨former, act, latter, acts_eq, rfl⟩
        cases former with
        | nil =>
            rw [List.nil_append, List.cons.injEq] at acts_eq
            rcases acts_eq with ⟨rfl, rfl⟩
            exact .inl rfl
        | cons _ former =>
            rw [List.cons_append, List.cons.injEq] at acts_eq
            rcases acts_eq with ⟨rfl, rfl⟩
            exact .inr ⟨former, act, latter, rfl, rfl⟩

/-- What the turns of a session keep, the session keeps. -/
theorem kept_after {kept : Controller (Bench δ) → Prop} (holds : kept start)
    (keeps : ∀ turn ∈ history acts start, kept turn.before → kept turn.after) :
    kept (after acts start) := by
  induction acts generalizing start with
  | nil => exact holds
  | cons act acts ih =>
      rw [history_cons, List.forall_mem_cons] at keeps
      exact ih (keeps.1 holds) keeps.2

end StationMesh.Channel.Session
