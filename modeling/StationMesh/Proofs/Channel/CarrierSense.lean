import StationMesh.Proofs.Channel.Timing

/-!
# Carrier sense comes to an end

On a virtual clock a station that waits for the channel gets it or gives up in time. The deadline
is only looked at while the channel is busy, but whenever a round ends with the channel free again,
its last probe began before the deadline. So the round after it, which begins with a slot and a
probe, can go past the deadline only by as much as these take.

The relations below follow the loops of carrier sense without a bound on the number of turns, and
write down what the probes answered.
-/

namespace StationMesh.Channel.Controller

open Radio StationMesh.Action

variable {ρ : Type} [Timed ρ] {works : ρ → Prop} {due : ρ → Nat} {probeTime deadline : Nat}
variable {heardBusy : Bool} {controller before after : Controller ρ}
variable {answers : List Activity} {answer : Except ChannelError Unit}

/-! ### The loops -/

/-- The controller draws a byte if the channel was busy, and unless that falls below the persistence
it waits a slot. -/
inductive BacksOff : Bool → Controller ρ → Controller ρ → Prop
  | first {controller : Controller ρ} : BacksOff false controller controller
  | below {before : Controller ρ}
      (below : before.random.nextByte.1 < before.settings.persistence) :
      BacksOff true before { before with random := before.random.nextByte.2 }
  | slot {before after : Controller ρ}
      (above : before.settings.persistence ≤ before.random.nextByte.1)
      (passes : PassesSlot (Timed.now before.radio + before.settings.slotTime)
        { before with random := before.random.nextByte.2 } after) : BacksOff true before after

/-- The controller takes frames off the radio and probes until the channel is free, or until it
finds the deadline past. -/
inductive Awaits (deadline : Nat) :
    Controller ρ → List Activity → Except ChannelError Unit → Controller ρ → Prop
  | late {before after : Controller ρ} {received : Nat} (empties : Empties before received after)
      (late : deadline ≤ Timed.now after.radio) : Awaits deadline before [] (.error .timeout) after
  | free {before ready after : Controller ρ} {received : Nat}
      (empties : Empties before received ready) (early : Timed.now ready.radio < deadline)
      (probed : probe.run ready = (.ok .free, after)) :
      Awaits deadline before [.free] (.ok ()) after
  | busy {before ready middle after : Controller ρ} {received : Nat} {answers : List Activity}
      {answer : Except ChannelError Unit} (empties : Empties before received ready)
      (early : Timed.now ready.radio < deadline) (probed : probe.run ready = (.ok .busy, middle))
      (rest : Awaits deadline middle answers answer after) :
      Awaits deadline before (.busy :: answers) answer after

/-- The controller goes through rounds until the first probe of one finds the channel free, or until
it gives up. -/
inductive Contends (deadline : Nat) : Bool →
    Controller ρ → List Activity → Except ChannelError Unit → Controller ρ → Prop
  | free {heardBusy : Bool} {before ready after : Controller ρ}
      (backs : BacksOff heardBusy before ready) (probed : probe.run ready = (.ok .free, after)) :
      Contends deadline heardBusy before [.free] (.ok ()) after
  | stop {heardBusy : Bool} {before ready middle after : Controller ρ} {answers : List Activity}
      {cause : ChannelError} (backs : BacksOff heardBusy before ready)
      (probed : probe.run ready = (.ok .busy, middle))
      (awaits : Awaits deadline middle answers (.error cause) after) :
      Contends deadline heardBusy before (.busy :: answers) (.error cause) after
  | again {heardBusy : Bool} {before ready middle next after : Controller ρ}
      {answers more : List Activity} {answer : Except ChannelError Unit}
      (backs : BacksOff heardBusy before ready) (probed : probe.run ready = (.ok .busy, middle))
      (awaits : Awaits deadline middle answers (.ok ()) next)
      (rest : Contends deadline true next more answer after) :
      Contends deadline heardBusy before (.busy :: answers ++ more) answer after

/-- The controller contends for the channel, and once it has it, records how many milliseconds that
took. -/
inductive Senses :
    Controller ρ → List Activity → Except ChannelError Nat → Controller ρ → Prop
  | gaveUp {before after : Controller ρ} {answers : List Activity} {cause : ChannelError}
      (contends : Contends (Timed.now before.radio + before.settings.accessTimeout) false before
        answers (.error cause) after) : Senses before answers (.error cause) after
  | got {before after : Controller ρ} {answers : List Activity} {elapsed : Nat}
      (contends : Contends (Timed.now before.radio + before.settings.accessTimeout) false before
        answers (.ok ()) after)
      (elapsed_eq : elapsed = Timed.now after.radio - Timed.now before.radio) :
      Senses before answers (.ok elapsed)
        { after with
          statistics := { after.statistics with
            accessDelay := after.statistics.accessDelay.record
              (UInt32.ofNat (min (elapsed / 1000) 0xFFFFFFFF)) } }

/-! ### How long they take and what the probes answer -/

theorem exists_run_probe (punctual : Punctual works due probeTime)
    (working : works controller.radio) :
    ∃ activity after, (probe : Operation ρ Activity).run controller = (.ok activity, after) ∧
      Lasts works probeTime controller after := by
  rcases punctual.probe controller.radio working with ⟨activity, radio, run_eq, works, now_eq⟩
  refine ⟨activity, { controller with radio }, ?_, ⟨works, now_eq, rfl, rfl⟩⟩
  rw [probe, onRadio, run_zoom, run_eq]
  rfl

theorem lasts_probe (punctual : Punctual works due probeTime) {activity : Activity}
    (working : works before.radio)
    (probed : (probe : Operation ρ Activity).run before = (.ok activity, after)) :
    Lasts works probeTime before after := by
  rcases exists_run_probe punctual working with ⟨_, left, run_eq, lasts⟩
  rw [probed, Prod.mk.injEq] at run_eq
  rw [run_eq.2]
  exact lasts

theorem BacksOff.lasts (punctual : Punctual works due probeTime)
    (backs : BacksOff heardBusy before after) (working : works before.radio) :
    ∃ time ≤ before.settings.slotTime, Lasts works time before after := by
  cases backs with
  | first => exact ⟨0, Nat.zero_le _, ⟨working, rfl, rfl, rfl⟩⟩
  | below _ => exact ⟨0, Nat.zero_le _, ⟨working, rfl, rfl, rfl⟩⟩
  | slot _ passes =>
      rcases passes.lasts punctual working rfl with ⟨works, now_eq, settings_eq, delay_eq⟩
      exact ⟨_, Nat.le_refl _, ⟨works, now_eq, settings_eq, delay_eq⟩⟩

/-- A round takes one probe, and a slot at most, until it is known whether the channel is free. -/
theorem BacksOff.lasts_probe (punctual : Punctual works due probeTime) {ready : Controller ρ}
    {activity : Activity} (backs : BacksOff heardBusy before ready) (working : works before.radio)
    (probed : (probe : Operation ρ Activity).run ready = (.ok activity, after)) :
    ∃ time, probeTime ≤ time ∧ time ≤ before.settings.slotTime + probeTime ∧
      Lasts works time before after := by
  rcases backs.lasts punctual working with ⟨time, le, backed⟩
  have tried := Controller.lasts_probe punctual backed.works probed
  exact ⟨time + probeTime, Nat.le_add_left _ _, Nat.add_le_add_right le _, backed.trans tried⟩

/-- All answers but the last are busy. If the channel comes free, the last probe began before the
deadline. -/
theorem Awaits.ends (punctual : Punctual works due probeTime)
    (awaits : Awaits deadline before answers answer after) (working : works before.radio) :
    (∃ time, Lasts works time before after) ∧ ∃ more,
      (answer = .ok () ∧ answers = List.replicate more .busy ++ [.free] ∧
        Timed.now before.radio < deadline ∧ Timed.now after.radio < deadline + probeTime) ∨
      (answer = .error .timeout ∧ answers = List.replicate more .busy ∧
        deadline ≤ Timed.now after.radio ∧
        (Timed.now after.radio = Timed.now before.radio ∨
          Timed.now after.radio < deadline + probeTime)) := by
  induction awaits with
  | late empties late =>
      have emptied := empties.lasts punctual working
      exact ⟨⟨_, emptied⟩, 0, .inr ⟨rfl, rfl, late, .inl emptied.now_eq⟩⟩
  | free empties early probed =>
      have emptied := empties.lasts punctual working
      have tried := lasts_probe punctual emptied.works probed
      have emptied_now := emptied.now_eq
      have tried_now := tried.now_eq
      exact ⟨⟨_, emptied.trans tried⟩, 0, .inl ⟨rfl, rfl, by omega, by omega⟩⟩
  | busy empties early probed _ ih =>
      have emptied := empties.lasts punctual working
      have tried := lasts_probe punctual emptied.works probed
      have emptied_now := emptied.now_eq
      have tried_now := tried.now_eq
      rcases ih tried.works with ⟨⟨time, rest⟩, more, ⟨answer_eq, answers_eq, bounds⟩ |
        ⟨answer_eq, answers_eq, late, bounds⟩⟩
      · refine ⟨⟨_, (emptied.trans tried).trans rest⟩, more + 1, .inl ⟨answer_eq, ?_, ?_⟩⟩
        · rw [answers_eq, List.replicate_succ, List.cons_append]
        · omega
      · refine ⟨⟨_, (emptied.trans tried).trans rest⟩, more + 1, .inr ⟨answer_eq, ?_, late, ?_⟩⟩
        · rw [answers_eq, List.replicate_succ]
        · omega

/-- The answers of rounds in each of which the channel was busy before it was free: for every round
the number of busy answers after the first. -/
def busyRounds (rounds : List Nat) : List Activity :=
  rounds.flatMap fun more => List.replicate (more + 1) .busy ++ [.free]

theorem busyRounds_cons (more : Nat) (rounds : List Nat) :
    busyRounds (more :: rounds) =
      .busy :: (List.replicate more .busy ++ [.free]) ++ busyRounds rounds := rfl

theorem Contends.ends (punctual : Punctual works due probeTime)
    (contends : Contends deadline heardBusy before answers answer after)
    (working : works before.radio) (early : Timed.now before.radio < deadline + probeTime) :
    (∃ time, Lasts works time before after) ∧
    Timed.now after.radio < deadline + before.settings.slotTime + 2 * probeTime ∧
    ∃ rounds,
      (answer = .ok () ∧ answers = busyRounds rounds ++ [.free]) ∨
      (answer = .error .timeout ∧ deadline ≤ Timed.now after.radio ∧
        ∃ more, answers = busyRounds rounds ++ List.replicate (more + 1) .busy) := by
  -- What carries over from round to round is that the last probe began before the deadline.
  induction contends with
  | free backs probed =>
      rcases backs.lasts_probe punctual working probed with ⟨time, _, le, tried⟩
      have tried_now := tried.now_eq
      exact ⟨⟨_, tried⟩, by omega, [], .inl ⟨rfl, rfl⟩⟩
  | stop backs probed awaits =>
      rcases backs.lasts_probe punctual working probed with ⟨time, _, le, tried⟩
      have tried_now := tried.now_eq
      rcases awaits.ends punctual tried.works with
        ⟨⟨_, awaited⟩, more, ⟨answer_eq, _⟩ | ⟨answer_eq, answers_eq, late, bounds⟩⟩
      · contradiction
      · refine ⟨⟨_, tried.trans awaited⟩, by omega, [], .inr ⟨answer_eq, late, more, ?_⟩⟩
        rw [answers_eq, List.replicate_succ]
        rfl
  | again backs probed awaits _ ih =>
      rcases backs.lasts_probe punctual working probed with ⟨time, _, _, tried⟩
      rcases awaits.ends punctual tried.works with
        ⟨⟨_, awaited⟩, more, ⟨_, answers_eq, _, bound⟩ | ⟨answer_eq, _⟩⟩
      · have round := tried.trans awaited
        rcases ih awaited.works bound with ⟨⟨_, rest⟩, ends, rounds, shape⟩
        rw [round.settings_eq] at ends
        refine ⟨⟨_, round.trans rest⟩, ends, more :: rounds, ?_⟩
        rw [answers_eq, busyRounds_cons]
        rcases shape with ⟨answer_eq, rest_eq⟩ | ⟨answer_eq, late, last, rest_eq⟩
        · exact .inl ⟨answer_eq, by rw [rest_eq, List.append_assoc]⟩
        · exact .inr ⟨answer_eq, late, last, by rw [rest_eq, List.append_assoc]⟩
      · contradiction

/-! ### They come to an end -/

theorem exists_awaits (punctual : Punctual works due probeTime) {fuel : Nat}
    (working : works controller.radio) (enough : deadline - Timed.now controller.radio < fuel) :
    ∃ answers answer after, Awaits deadline controller answers answer after ∧
      (awaitFree deadline fuel).run controller = (answer, after) := by
  have probeTime_pos := punctual.probeTime_pos
  -- Every probe brings the deadline closer, so there is fuel left when it has come.
  induction fuel generalizing controller with
  | zero => omega
  | succ fuel ih =>
      rcases exists_run_serviceReceiver punctual working with
        ⟨received, ready, served, empties, emptied⟩
      rw [awaitFree, run_bind_ok served, run_bind_ok (run_now ready)]
      by_cases late : deadline ≤ Timed.now ready.radio
      · rw [if_pos late]
        exact ⟨[], .error .timeout, ready, .late empties late, rfl⟩
      · rw [if_neg late]
        have early := Nat.lt_of_not_le late
        rcases exists_run_probe punctual emptied.works with ⟨activity, middle, probed, tried⟩
        have emptied_now := emptied.now_eq
        have tried_now := tried.now_eq
        cases activity with
        | free =>
            exact ⟨[.free], .ok (), middle, .free empties early probed, run_bind_ok probed⟩
        | busy =>
            rcases ih tried.works (by omega) with ⟨answers, answer, after, awaits, rest_eq⟩
            exact ⟨.busy :: answers, answer, after, .busy empties early probed awaits,
              (run_bind_ok probed).trans rest_eq⟩

omit [Timed ρ] in
theorem run_drawByte (controller : Controller ρ) :
    (drawByte : Operation ρ UInt8).run controller =
      (.ok controller.random.nextByte.1,
        { controller with random := controller.random.nextByte.2 }) := rfl

theorem exists_backsOff (punctual : Punctual works due probeTime) (heardBusy : Bool)
    (working : works controller.radio) :
    ∃ ready, BacksOff heardBusy controller ready ∧ ∀ deadline fuel,
      (contend deadline (fuel + 1) heardBusy).run controller =
        (contend deadline (fuel + 1) false).run ready := by
  cases heardBusy with
  | false => exact ⟨controller, .first, fun _ _ => rfl⟩
  | true =>
      by_cases above : controller.settings.persistence ≤ controller.random.nextByte.1
      · have drawn : works
            ({ controller with random := controller.random.nextByte.2 } : Controller ρ).radio :=
          working
        rcases exists_run_waitSlot punctual drawn with ⟨ready, run_eq, passes⟩
        refine ⟨ready, .slot above passes, ?_⟩
        intro deadline fuel
        rw [contend, if_pos rfl]
        rw [run_bind_ok (run_get controller), run_bind_ok (run_drawByte controller), if_pos above,
          run_bind_ok run_eq]
        rfl
      · refine ⟨_, .below (UInt8.not_le.mp above), ?_⟩
        intro deadline fuel
        rw [contend, if_pos rfl]
        rw [run_bind_ok (run_get controller), run_bind_ok (run_drawByte controller), if_neg above]
        rfl

theorem exists_contends (punctual : Punctual works due probeTime) {fuel : Nat}
    (heardBusy : Bool) (working : works controller.radio)
    (enough : deadline - Timed.now controller.radio < fuel) :
    ∃ answers answer after, Contends deadline heardBusy controller answers answer after ∧
      (contend deadline fuel heardBusy).run controller = (answer, after) := by
  have probeTime_pos := punctual.probeTime_pos
  -- A round that another one follows was not over with its first probe. The deadline was ahead
  -- after that probe, so the round brought it closer.
  induction fuel generalizing controller heardBusy with
  | zero => omega
  | succ fuel ih =>
      rcases exists_backsOff punctual heardBusy working with ⟨ready, backs, backed_eq⟩
      rcases backs.lasts punctual working with ⟨_, _, backed⟩
      rcases exists_run_probe punctual backed.works with ⟨activity, middle, probed, _⟩
      rcases backs.lasts_probe punctual working probed with ⟨time, le, _, tried⟩
      rw [backed_eq, contend, if_neg Bool.false_ne_true, run_bind_ok probed]
      cases activity with
      | free => exact ⟨[.free], .ok (), middle, .free backs probed, rfl⟩
      | busy =>
          have tried_now := tried.now_eq
          have left_lt := Nat.lt_succ_self (deadline - Timed.now middle.radio)
          rcases exists_awaits punctual tried.works left_lt with
            ⟨answers, answer, next, awaits, awaited_eq⟩
          rcases awaits.ends punctual tried.works with ⟨⟨further, awaited⟩, more, outcome⟩
          dsimp only
          rw [run_bind_ok (run_now middle), run_bind, awaited_eq]
          cases answer with
          | error cause =>
              exact ⟨.busy :: answers, .error cause, next, .stop backs probed awaits, rfl⟩
          | ok _ =>
              have awaited_now := awaited.now_eq
              have enoughLeft : deadline - Timed.now next.radio < fuel := by
                rcases outcome with ⟨_, _, early, _⟩ | ⟨answer_eq, _⟩
                · omega
                · contradiction
              rcases ih true awaited.works enoughLeft with
                ⟨others, answer, after, rest, rest_eq⟩
              exact ⟨.busy :: answers ++ others, answer, after, .again backs probed awaits rest,
                rest_eq⟩

/-- Carrier sense always comes to an end, and it takes less than the access timeout, a slot and two
probes. Either the station gives up, which it only does past the timeout and after a busy answer,
and records no access delay. Or it gets the channel: in rounds the channel was busy and then free,
until the first probe of a round found it free, and the time that passed, in milliseconds, is
recorded as one access delay. -/
theorem senseCarrier_bounded (punctual : Punctual works due probeTime)
    (working : works before.radio) :
    ∃ answers answer after, (senseCarrier : Operation ρ Nat).run before = (answer, after) ∧
      Senses before answers answer after ∧
      Timed.now after.radio < Timed.now before.radio + before.settings.accessTimeout +
        before.settings.slotTime + 2 * probeTime ∧
      ((answer = .error .timeout ∧
          Timed.now before.radio + before.settings.accessTimeout ≤ Timed.now after.radio ∧
          answers.getLast? = some .busy ∧
          after.statistics.accessDelay = before.statistics.accessDelay) ∨
        ∃ elapsed rounds, answer = .ok elapsed ∧
          Timed.now after.radio = Timed.now before.radio + elapsed ∧
          answers = busyRounds rounds ++ [.free] ∧
          after.statistics.accessDelay = before.statistics.accessDelay.record
            (UInt32.ofNat (min (elapsed / 1000) 0xFFFFFFFF))) := by
  have probeTime_pos := punctual.probeTime_pos
  have enough : Timed.now before.radio + before.settings.accessTimeout - Timed.now before.radio <
      before.settings.accessTimeout + 2 := by omega
  have early : Timed.now before.radio <
      Timed.now before.radio + before.settings.accessTimeout + probeTime := by omega
  rcases exists_contends punctual false working enough with
    ⟨answers, answer, after, contends, run_eq⟩
  rcases contends.ends punctual working early with ⟨⟨time, lasts⟩, bound, rounds, outcome⟩
  rcases outcome with ⟨rfl, answers_eq⟩ | ⟨rfl, late, more, answers_eq⟩
  · have elapsed_eq : time = Timed.now after.radio - Timed.now before.radio := by
      rw [lasts.now_eq, Nat.add_sub_cancel_left]
    refine ⟨answers, .ok time, { after with statistics := after.statistics.recordDelay time }, ?_,
      .got contends elapsed_eq, bound, .inr ⟨time, rounds, rfl, lasts.now_eq, answers_eq, ?_⟩⟩
    · rw [senseCarrier, run_bind_ok (run_now before), run_bind_ok (run_get before),
        run_bind_ok run_eq, run_bind_ok (run_now after), ← elapsed_eq]
      rfl
    · change after.statistics.accessDelay.record _ = _
      rw [lasts.delay_eq]
  · refine ⟨answers, .error .timeout, after, ?_, .gaveUp contends, bound,
      .inl ⟨rfl, late, ?_, lasts.delay_eq⟩⟩
    · rw [senseCarrier, run_bind_ok (run_now before), run_bind_ok (run_get before),
        run_bind_error run_eq]
    · rw [answers_eq]
      simp [List.replicate_succ']

/-- A controller that never holds back, on a channel that is busy twice. Meanwhile a frame arrives.
The second busy answer comes just before the timeout, and the slot after it goes past that. -/
def jammed : Controller (Bench Echo) where
  radio :=
    { device := { up := true }
      planned := [⟨0, .busy 1⟩, ⟨2500, .inject [1, 2, 3] true⟩, ⟨5000, .busy 1⟩] }
  settings := { persistence := 0, slotTime := 3000, accessTimeout := 7000 }
  idle := .continuousReceive
  lastCounter := 0
  random := .ofSeed .wyRand 1

theorem senseCarrier_bounded_jammed : ∃ rounds after,
    (senseCarrier : Operation (Bench Echo) Nat).run jammed = (.ok 11000, after) ∧
      Senses jammed (busyRounds rounds ++ [.free]) (.ok 11000) after ∧
      Timed.now after.radio = 11000 ∧ after.statistics.accessDelay = { accumulator := 11 } := by
  have working : jammed.radio.Works 1000 := ⟨rfl, rfl, fun _ => rfl⟩
  have answered : ((senseCarrier : Operation (Bench Echo) Nat).run jammed).1.toOption =
      some 11000 := by decide +kernel
  rcases senseCarrier_bounded (Bench.punctual (by decide)) working with
    ⟨answers, answer, after, run_eq, senses, _, ⟨rfl, _⟩ |
      ⟨elapsed, rounds, rfl, now_eq, rfl, delay_eq⟩⟩
  · rw [run_eq] at answered
    contradiction
  · rw [run_eq] at answered
    have elapsed_eq : elapsed = 11000 := Option.some.inj answered
    subst elapsed_eq
    exact ⟨rounds, after, run_eq, senses, now_eq, delay_eq.trans (by decide)⟩

end StationMesh.Channel.Controller
