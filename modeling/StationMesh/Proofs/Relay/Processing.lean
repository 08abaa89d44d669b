import StationMesh.Proofs.Relay.Execution

/-!
# The steps of processing a message

A message that is not discarded is first heard: it is passed on to the host, a command is carried
out and answered, and the sender of weather is noted. Then it is relayed, and last it is logged.
Each of these steps leaves alone what belongs to the others.
-/

namespace StationMesh.Relay

open StationMesh.Action

namespace Hub

variable {κ φ : Type} {logSize : Nat}

/-- What a station remembers of the traffic and what it is about to send are as before: only
services, pending work and random numbers were touched. -/
structure OnlyExecutes (hub next : Hub κ φ logSize) : Prop where
  outbox : next.outbox = hub.outbox
  turnedAway : next.turnedAway = hub.turnedAway
  host : next.host = hub.host
  seen : next.engine.seen = hub.engine.seen
  relayed : next.engine.relayed = hub.engine.relayed
  handled : next.engine.handled = hub.engine.handled
  batch : next.engine.batch = hub.engine.batch
  nextUid : next.engine.nextUid = hub.engine.nextUid

theorem OnlyExecutes.refl (hub : Hub κ φ logSize) : hub.OnlyExecutes hub := by
  constructor <;> rfl

variable [Config.Store κ] [FirmwareUpdater φ]

theorem onlyExecutes_execute (command : Command) (report : Channel.Report) (now : Nat)
    (hub : Hub κ φ logSize) : hub.OnlyExecutes (hub.execute command report now).2 := by
  have ends := hub.ends_execute command report now
  generalize hub.execute command report now = ended at ends ⊢
  cases ends
  all_goals constructor <;> rfl

theorem onlyExecutes_executeBytes (command : Bytes) (report : Channel.Report) (now : Nat)
    (hub : Hub κ φ logSize) : hub.OnlyExecutes (hub.executeBytes command report now).2 := by
  simp only [executeBytes]
  cases Command.parse command with
  | none => exact OnlyExecutes.refl hub
  | some command => exact onlyExecutes_execute command report now hub

omit [Config.Store κ] [FirmwareUpdater φ] in
/-- The hub after a command was remembered as handled. -/
def afterCommand (uid : UInt8) (hub : Hub κ φ logSize) : Hub κ φ logSize :=
  hub.withEngine fun engine => { engine with handled := engine.handled.record uid }

/-- What obeying a command comes to: it was handled lately, or it was carried out and remembered,
and then answered if an answer is owed. -/
theorem obey_cases (header : Header) (own : UInt8) (command : Bytes) (report : Channel.Report)
    (now : Nat) (hub : Hub κ φ logSize) :
    (hub.engine.handled.contains header.uid = true ∧
        hub.obey header own command report now = (false, hub)) ∨
      (hub.engine.handled.contains header.uid = false ∧
        let carriedOut := hub.executeBytes command report now
        let recorded := carriedOut.2.afterCommand header.uid
        (hub.obey header own command report now).1 = carriedOut.1.handled ∧
          ((hub.obey header own command report now).2 = recorded ∨
            ∃ payload, (hub.obey header own command report now).2 =
              recorded.acknowledge own header.uid payload)) := by
  cases known : hub.engine.handled.contains header.uid with
  | true =>
      left
      simp only [obey, known, ↓reduceIte, and_self]
  | false =>
      right
      refine ⟨rfl, ?_⟩
      simp only [obey, known, Bool.false_eq_true, ↓reduceIte]
      generalize hub.executeBytes command report now = ended
      rcases ended with ⟨answer, left⟩
      dsimp only
      split
      · exact ⟨rfl, .inl rfl⟩
      · exact ⟨rfl, .inr ⟨_, rfl⟩⟩

/-- The hub when a message of another station has been heard and is about to be relayed, with
whether a command was carried out. -/
def hear (header : Header) (frame : Bytes) (report : Channel.Report) (now : Nat)
    (hub : Hub κ φ logSize) : Bool × Hub κ φ logSize :=
  let forwarded := if hub.flags.hostBridge then hub.forward frame else hub
  let obeyed :=
    if header.kind = .command ∧
        (header.station = hub.stationId ∨ header.station = everyStation) then
      forwarded.obey header hub.stationId (frame.drop Header.size) report now
    else
      (false, forwarded)
  (obeyed.1,
    if header.kind = .weather then obeyed.2.observe header.station now else obeyed.2)

omit [Config.Store κ] [FirmwareUpdater φ] in
theorem forward_eq (frame : Bytes) (hub : Hub κ φ logSize) :
    ∃ host, hub.forward frame = { hub with host } := by
  simp only [forward]
  split
  · exact ⟨_, rfl⟩
  · exact ⟨hub.host, rfl⟩

omit [FirmwareUpdater φ] in
/-- Passing a message on to the host changes the host line at most. -/
theorem exists_told_eq (frame : Bytes) (hub : Hub κ φ logSize) :
    ∃ host, (if hub.flags.hostBridge then hub.forward frame else hub) = { hub with host } := by
  split
  · exact hub.forward_eq frame
  · exact ⟨hub.host, rfl⟩

/-- What hearing a message comes to, once it was passed on to the host. -/
theorem hear_cases (header : Header) (frame : Bytes) (report : Channel.Report) (now : Nat)
    (hub : Hub κ φ logSize) :
    ∃ host,
      (header.kind = .command ∧ (header.station = hub.stationId ∨ header.station = everyStation) ∧
          hub.hear header frame report now =
            { hub with host }.obey header hub.stationId (frame.drop Header.size) report now) ∨
        (header.kind = .weather ∧ hub.hear header frame report now =
            (false, { hub with host }.observe header.station now)) ∨
        (header.kind ≠ .weather ∧
          hub.hear header frame report now = (false, { hub with host })) := by
  rcases hub.exists_told_eq frame with ⟨host, told_eq⟩
  refine ⟨host, ?_⟩
  unfold hear
  simp only [told_eq]
  by_cases isCommand : header.kind = .command
  · by_cases forUs : header.station = hub.stationId ∨ header.station = everyStation
    · left
      refine ⟨isCommand, forUs, ?_⟩
      simp only [isCommand, forUs, and_self, ↓reduceIte, reduceCtorEq]
    · right; right
      simp only [isCommand, forUs, and_false, ↓reduceIte, reduceCtorEq, ne_eq, not_false_eq_true,
        and_self]
  · by_cases isWeather : header.kind = .weather
    · right; left
      simp only [isWeather, reduceCtorEq, false_and, ↓reduceIte, and_self]
    · right; right
      simp only [isCommand, isWeather, false_and, ↓reduceIte, ne_eq, not_false_eq_true, and_self]

/-- What was relayed and the readings that wait are as before, as they are until a message is
relayed. -/
structure OnlyHears (hub next : Hub κ φ logSize) : Prop where
  relayed : next.engine.relayed = hub.engine.relayed
  batch : next.engine.batch = hub.engine.batch

omit [Config.Store κ] [FirmwareUpdater φ] in
theorem OnlyHears.hasSoundBatch {hub next : Hub κ φ logSize} (hears : hub.OnlyHears next)
    (sound : hub.HasSoundBatch) : next.HasSoundBatch := by
  simp only [HasSoundBatch]
  rw [hears.batch]
  exact sound

theorem onlyHears_obey (header : Header) (own : UInt8) (command : Bytes)
    (report : Channel.Report) (now : Nat) (hub : Hub κ φ logSize) :
    hub.OnlyHears (hub.obey header own command report now).2 := by
  have executes := onlyExecutes_executeBytes command report now hub
  rcases hub.obey_cases header own command report now with
    ⟨_, obey_eq⟩ | ⟨_, _, left_eq | ⟨payload, left_eq⟩⟩
  · rw [obey_eq]
    exact ⟨rfl, rfl⟩
  · rw [left_eq]
    exact ⟨executes.relayed, executes.batch⟩
  · rw [left_eq, acknowledge]
    constructor
    · rw [engine_enqueue]
      exact executes.relayed
    · rw [engine_enqueue]
      exact executes.batch

theorem onlyHears_hear (header : Header) (frame : Bytes) (report : Channel.Report) (now : Nat)
    (hub : Hub κ φ logSize) : hub.OnlyHears (hub.hear header frame report now).2 := by
  rcases hub.hear_cases header frame report now with
    ⟨host, ⟨_, _, hear_eq⟩ | ⟨_, hear_eq⟩ | ⟨_, hear_eq⟩⟩
  · rw [hear_eq]
    have hears := onlyHears_obey header hub.stationId (frame.drop Header.size) report now
      { hub with host }
    exact ⟨hears.relayed, hears.batch⟩
  · rw [hear_eq]
    exact ⟨rfl, rfl⟩
  · rw [hear_eq]
    exact ⟨rfl, rfl⟩

/-- Nothing was sent and the services are as before: the host was told at most, and the sender
noted. -/
structure OnlyObserves (hub next : Hub κ φ logSize) : Prop where
  outbox : next.outbox = hub.outbox
  turnedAway : next.turnedAway = hub.turnedAway
  services : next.services = hub.services

omit [FirmwareUpdater φ] in
theorem OnlyObserves.stationId_eq {hub next : Hub κ φ logSize} (observes : hub.OnlyObserves next) :
    next.stationId = hub.stationId := by
  simp only [stationId, observes.services]

theorem onlyObserves_hear {header : Header} (isWeather : header.kind = .weather) (frame : Bytes)
    (report : Channel.Report) (now : Nat) (hub : Hub κ φ logSize) :
    hub.OnlyObserves (hub.hear header frame report now).2 := by
  rcases hub.hear_cases header frame report now with
    ⟨host, ⟨isCommand, _⟩ | ⟨_, hear_eq⟩ | ⟨other, _⟩⟩
  · simp [isWeather] at isCommand
  · simp only [hear_eq]
    exact ⟨rfl, rfl, rfl⟩
  · exact absurd isWeather other

omit [FirmwareUpdater φ] in
/-- How relaying one message ended: it was not to be relayed, it could not be handed on, or it was
handed on and is remembered. -/
theorem relay_cases (header : Header) (own : UInt8) (frame : Bytes) (hub : Hub κ φ logSize) :
    ((hub.wantsRelay header own = false ∨ hub.engine.relayed.contains header.identity = true) ∧
        hub.relay header own frame = (false, hub)) ∨
      (hub.wantsRelay header own = true ∧
        hub.engine.relayed.contains header.identity = false ∧
        ((∃ cause left, (relayFrame header frame).run hub = (.error cause, left) ∧
            hub.relay header own frame = (false, left)) ∨
          ∃ left, (relayFrame header frame).run hub = (.ok (), left) ∧
            hub.relay header own frame =
              (true, left.withEngine fun engine =>
                { engine with relayed := engine.relayed.record header.identity }))) := by
  simp only [relay]
  cases wanted : hub.wantsRelay header own with
  | false =>
      left
      exact ⟨Or.inl rfl, rfl⟩
  | true =>
      cases known : hub.engine.relayed.contains header.identity with
      | true =>
          left
          exact ⟨Or.inr rfl, rfl⟩
      | false =>
          right
          refine ⟨rfl, rfl, ?_⟩
          rcases (relayFrame header frame).run hub with ⟨cause | _, next⟩
          · left
            exact ⟨cause, next, rfl, rfl⟩
          · right
            exact ⟨next, rfl, rfl⟩

omit [FirmwareUpdater φ] in
theorem relay_of_unwanted {header : Header} {own : UInt8} {hub : Hub κ φ logSize}
    (unwanted : ¬(hub.wantsRelay header own = true ∧
      hub.engine.relayed.contains header.identity = false)) (frame : Bytes) :
    hub.relay header own frame = (false, hub) := by
  rcases hub.relay_cases header own frame with ⟨_, relay_eq⟩ | ⟨wanted, fresh, _⟩
  · exact relay_eq
  · exact absurd ⟨wanted, fresh⟩ unwanted

omit [FirmwareUpdater φ] in
/-- Relaying a message only sends, and the message is remembered if it was relayed. -/
theorem exists_onlySends_relay (header : Header) (own : UInt8) (frame : Bytes)
    (hub : Hub κ φ logSize) :
    ∃ left, hub.OnlySends left ∧
      (hub.relay header own frame = (false, left) ∨
        hub.relay header own frame = (true, left.withEngine fun engine =>
          { engine with relayed := engine.relayed.record header.identity })) := by
  have sends := moves_relayFrame header frame hub
  rcases hub.relay_cases header own frame with
    ⟨_, relay_eq⟩ | ⟨_, _, ⟨cause, left, run_eq, relay_eq⟩ | ⟨left, run_eq, relay_eq⟩⟩
  · exact ⟨hub, OnlySends.refl hub, .inl relay_eq⟩
  · rw [run_eq] at sends
    exact ⟨left, sends, .inl relay_eq⟩
  · rw [run_eq] at sends
    exact ⟨left, sends, .inr relay_eq⟩

/-- The message is sent by this station itself, so it is not to be dealt with. -/
def IsOwn (header : Header) (hub : Hub κ φ logSize) : Prop :=
  header.kind ≠ .command ∧ header.station = hub.stationId

theorem process_of_accepted {header : Header} {frame : Bytes} {hub : Hub κ φ logSize}
    (parsed : Header.parse frame = .ok header) (foreign : ¬hub.IsOwn header)
    (report : Channel.Report) (now : Nat) :
    hub.process frame report now =
      let heard := hub.hear header frame report now
      let relayed := heard.2.relay header hub.stationId frame
      let logged := isLoggable header.kind && (relayed.1 || hub.flags.recordNonRelayed)
      ({ executed := heard.1, relayed := relayed.1, logged },
        if logged then relayed.2.log header frame else relayed.2) := by
  simp only [process, parsed]
  rw [if_neg (show ¬(header.kind ≠ .command ∧ header.station = hub.stationId) from foreign)]
  rfl

theorem process_of_own {header : Header} {frame : Bytes} {hub : Hub κ φ logSize}
    (parsed : Header.parse frame = .ok header) (own : hub.IsOwn header)
    (report : Channel.Report) (now : Nat) :
    hub.process frame report now = ({ discarded := true }, hub) := by
  simp only [process, parsed]
  rw [if_pos (show header.kind ≠ .command ∧ header.station = hub.stationId from own)]

theorem process_of_malformed {error : HeaderError} {frame : Bytes}
    (malformed : Header.parse frame = .error error) (report : Channel.Report) (now : Nat)
    (hub : Hub κ φ logSize) :
    hub.process frame report now = ({ discarded := true }, hub) := by
  simp only [process]
  rw [malformed]

/-- How processing one message ended: it was discarded, or it was heard, relayed and logged. -/
theorem process_cases (frame : Bytes) (report : Channel.Report) (now : Nat)
    (hub : Hub κ φ logSize) :
    hub.process frame report now = ({ discarded := true }, hub) ∨
      ∃ header services, Header.parse frame = .ok header ∧ ¬hub.IsOwn header ∧
        let heard := (hub.hear header frame report now).2
        let relayed := heard.relay header hub.stationId frame
        (hub.process frame report now).1.relayed = relayed.1 ∧
          (hub.process frame report now).2 = { relayed.2 with services } ∧
          Config.Store.stationId services.config = relayed.2.stationId := by
  cases parsed : Header.parse frame with
  | error error =>
      left
      exact process_of_malformed parsed report now hub
  | ok header =>
      by_cases own : hub.IsOwn header
      · left
        exact process_of_own parsed own report now
      · right
        simp only [process_of_accepted parsed own]
        split
        · exact ⟨header, _, rfl, own, rfl, rfl, rfl⟩
        · exact ⟨header, _, rfl, own, rfl, rfl, rfl⟩

theorem keeps_sound_process (frame : Bytes) (report : Channel.Report) (now : Nat)
    {hub : Hub κ φ logSize} (sound : hub.HasSoundBatch) :
    (hub.process frame report now).2.HasSoundBatch := by
  rcases hub.process_cases frame report now with
    process_eq | ⟨header, services, _, _, _, process_eq, _⟩
  · rw [process_eq]
    exact sound
  · rw [process_eq]
    have heardSound := (hub.onlyHears_hear header frame report now).hasSoundBatch sound
    generalize (hub.hear header frame report now).2 = heard at heardSound ⊢
    have kept := keeps_sound_relayFrame header frame heard heardSound
    rcases heard.relay_cases header hub.stationId frame with
      ⟨_, relay_eq⟩ | ⟨_, _, ⟨cause, left, run_eq, relay_eq⟩ | ⟨left, run_eq, relay_eq⟩⟩
    · rw [relay_eq]
      exact heardSound
    · rw [run_eq] at kept
      rw [relay_eq]
      exact kept
    · rw [run_eq] at kept
      rw [relay_eq]
      exact kept

end Hub

end StationMesh.Relay
