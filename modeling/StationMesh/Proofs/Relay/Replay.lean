import StationMesh.Proofs.Relay.Run

/-!
# A command is carried out once

A command that came over the radio is told apart by its unique id alone. Once it was carried out,
with success or without, it is not carried out again before as many others were as the history
holds, whatever the station does in between. Under the id 0 a command is carried out each time it
comes.
-/

namespace StationMesh.Relay.Hub

open StationMesh.Action

variable {κ φ : Type} {logSize : Nat} [Config.Store κ]

/-- The message is a command for this station or for every station. -/
def IsAddressed (header : Header) (hub : Hub κ φ logSize) : Prop :=
  header.kind = .command ∧ (header.station = hub.stationId ∨ header.station = everyStation)

instance (header : Header) (hub : Hub κ φ logSize) : Decidable (hub.IsAddressed header) :=
  inferInstanceAs (Decidable (_ ∧ _))

/-- The unique id of the command that is carried out in a call: one that is addressed to the station
and was not handled lately. -/
def Event.dispatched? (event : Event κ φ logSize) : Option UInt8 :=
  match event.received? with
  | some header =>
      if event.hub.IsAddressed header ∧ ¬event.hub.engine.handled.contains header.uid then
        some header.uid
      else none
  | none => none

theorem Event.dispatched?_process {header : Header} {frame : Bytes}
    (parsed : Header.parse frame = .ok header) (report : Channel.Report) (now : Nat)
    (hub : Hub κ φ logSize) : (⟨hub, .process frame report now⟩ : Event _ _ _).dispatched? =
      if hub.IsAddressed header ∧ ¬hub.engine.handled.contains header.uid then some header.uid
      else none := by
  simp only [dispatched?, received?_process parsed]

/-! ### One message -/

/-- Services, pending work and the commands handled before are as they were: other things may have
been sent and remembered. -/
structure OnlyRelays (hub next : Hub κ φ logSize) : Prop where
  services : next.services = hub.services
  pending : next.engine.pending = hub.engine.pending
  handled : next.engine.handled = hub.engine.handled

omit [Config.Store κ] in
theorem OnlyRelays.trans {hub next last : Hub κ φ logSize} (first : hub.OnlyRelays next)
    (second : next.OnlyRelays last) : hub.OnlyRelays last where
  services := second.services.trans first.services
  pending := second.pending.trans first.pending
  handled := second.handled.trans first.handled

omit [Config.Store κ] in
theorem OnlySends.onlyRelays {hub next : Hub κ φ logSize} (sends : hub.OnlySends next) :
    hub.OnlyRelays next :=
  ⟨sends.services, sends.pending, sends.handled⟩

theorem onlyRelays_relay (header : Header) (own : UInt8) (frame : Bytes) (hub : Hub κ φ logSize) :
    hub.OnlyRelays (hub.relay header own frame).2 := by
  rcases hub.exists_onlySends_relay header own frame with ⟨left, sends, relay_eq | relay_eq⟩
  · rw [relay_eq]
    exact sends.onlyRelays
  · rw [relay_eq]
    exact ⟨sends.services, sends.pending, sends.handled⟩

variable [FirmwareUpdater φ]

/-- A command that was not handled lately comes to what its bytes come to, and is remembered. -/
theorem obey_of_fresh {header : Header} (hub : Hub κ φ logSize)
    (fresh : hub.engine.handled.contains header.uid = false) (own : UInt8) (command : Bytes)
    (report : Channel.Report) (now : Nat) :
    let carriedOut := hub.executeBytes command report now
    let obeyed := hub.obey header own command report now
    obeyed.1 = carriedOut.1.handled ∧ obeyed.2.services = carriedOut.2.services ∧
      obeyed.2.engine =
        { carriedOut.2.engine with handled := carriedOut.2.engine.handled.record header.uid } := by
  intro carriedOut obeyed
  rcases hub.obey_cases header own command report now with
    ⟨known, _⟩ | ⟨_, handled_eq, left_eq | ⟨payload, left_eq⟩⟩
  · rw [fresh] at known
    contradiction
  · simp only [obeyed, handled_eq, left_eq]
    exact ⟨rfl, rfl, rfl⟩
  · -- The answer goes into the outbox or is dropped, and nothing else depends on it.
    simp only [obeyed, handled_eq, left_eq, acknowledge, engine_enqueue]
    exact ⟨rfl, (onlySends_enqueue _ _ _).services, rfl⟩

theorem hear_of_addressed {header : Header} {hub : Hub κ φ logSize}
    (addressed : hub.IsAddressed header) (frame : Bytes) (report : Channel.Report) (now : Nat) :
    ∃ host, hub.hear header frame report now =
      { hub with host }.obey header hub.stationId (frame.drop Header.size) report now := by
  rcases hub.exists_told_eq frame with ⟨host, told_eq⟩
  refine ⟨host, ?_⟩
  rcases addressed with ⟨isCommand, forUs⟩
  simp only [hear, told_eq, isCommand, forUs, and_self, ↓reduceIte, reduceCtorEq]

theorem hear_of_not_dispatched {header : Header} {hub : Hub κ φ logSize}
    (idle : ¬(hub.IsAddressed header ∧ ¬hub.engine.handled.contains header.uid)) (frame : Bytes)
    (report : Channel.Report) (now : Nat) :
    (hub.hear header frame report now).1 = false ∧
      hub.OnlyRelays (hub.hear header frame report now).2 := by
  rcases hub.hear_cases header frame report now with
    ⟨host, ⟨isCommand, forUs, hear_eq⟩ | ⟨_, hear_eq⟩ | ⟨_, hear_eq⟩⟩
  · have known : hub.engine.handled.contains header.uid = true := by
      simpa using fun fresh => idle ⟨⟨isCommand, forUs⟩, fresh⟩
    have obey_eq : { hub with host }.obey header hub.stationId (frame.drop Header.size) report now =
        (false, { hub with host }) := by
      simp only [obey, known, ↓reduceIte]
    rw [hear_eq, obey_eq]
    exact ⟨rfl, ⟨rfl, rfl, rfl⟩⟩
  · rw [hear_eq]
    exact ⟨rfl, ⟨rfl, rfl, rfl⟩⟩
  · rw [hear_eq]
    exact ⟨rfl, ⟨rfl, rfl, rfl⟩⟩

/-- A message under whose id a command is carried out does to the services, and calls for, what the
command does, and the id is remembered. -/
theorem process_of_dispatched {frame : Bytes} {report : Channel.Report} {now : Nat}
    {hub : Hub κ φ logSize} {uid : UInt8}
    (dispatched : (⟨hub, .process frame report now⟩ : Event _ _ _).dispatched? = some uid) :
    ∃ host,
      let carriedOut := { hub with host }.executeBytes (frame.drop Header.size) report now
      let processed := hub.process frame report now
      processed.1.executed = carriedOut.1.handled ∧
        processed.2.services = carriedOut.2.services ∧
        processed.2.engine.pending = carriedOut.2.engine.pending ∧
        processed.2.engine.handled = hub.engine.handled.record uid := by
  cases parsed : Header.parse frame with
  | error error => simp [Event.dispatched?, Event.received?, parsed, Except.toOption] at dispatched
  | ok header =>
      rw [Event.dispatched?_process parsed] at dispatched
      split at dispatched
      · rename_i carried
        rcases carried with ⟨addressed, fresh⟩
        rw [Bool.not_eq_true] at fresh
        rw [Option.some.injEq] at dispatched
        subst dispatched
        have foreign : ¬hub.IsOwn header := fun own => own.1 addressed.1
        rcases hear_of_addressed addressed frame report now with ⟨host, hear_eq⟩
        obtain ⟨executed_eq, services_eq, engine_eq⟩ := obey_of_fresh { hub with host } fresh
          hub.stationId (frame.drop Header.size) report now
        have executes := onlyExecutes_executeBytes (frame.drop Header.size) report now
          { hub with host }
        have relays := onlyRelays_relay header hub.stationId frame
          (hub.hear header frame report now).2
        refine ⟨host, ?_⟩
        -- Commands are not logged, so the services stay as the command left them.
        have unlogged : isLoggable header.kind = false := by rw [addressed.1]; rfl
        simp only [process_of_accepted parsed foreign, unlogged, Bool.false_and, Bool.false_eq_true,
          ↓reduceIte]
        rw [relays.services, relays.pending, relays.handled, hear_eq, executed_eq, services_eq,
          engine_eq]
        exact ⟨rfl, rfl, rfl, congrArg (History.Handled.record header.uid) executes.handled⟩
      · contradiction

/-- Any other message is discarded, or it is only relayed and then logged. -/
theorem process_cases_of_not_dispatched {frame : Bytes} {report : Channel.Report} {now : Nat}
    {hub : Hub κ φ logSize}
    (idle : (⟨hub, .process frame report now⟩ : Event _ _ _).dispatched? = none) :
    hub.process frame report now = ({ discarded := true }, hub) ∨
      ∃ header relayed next, Header.parse frame = .ok header ∧ hub.OnlyRelays next ∧
        let logged := isLoggable header.kind && (relayed || hub.flags.recordNonRelayed)
        hub.process frame report now =
          ({ relayed, logged }, if logged then next.log header frame else next) := by
  cases parsed : Header.parse frame with
  | error error => exact .inl (process_of_malformed parsed report now hub)
  | ok header =>
      by_cases own : hub.IsOwn header
      · exact .inl (process_of_own parsed own report now)
      · rw [Event.dispatched?_process parsed] at idle
        have unmet : ¬(hub.IsAddressed header ∧ ¬hub.engine.handled.contains header.uid) := by
          simpa using idle
        rcases hear_of_not_dispatched unmet frame report now with ⟨unexecuted, heard⟩
        let relayed := (hub.hear header frame report now).2.relay header hub.stationId frame
        have relays := heard.trans (onlyRelays_relay header hub.stationId frame _)
        refine .inr ⟨header, relayed.1, relayed.2, rfl, relays, ?_⟩
        simp only [process_of_accepted parsed own, unexecuted, relayed]

/-- So it leaves configuration, firmware, pending work and the commands handled before alone. -/
theorem process_of_not_dispatched {frame : Bytes} {report : Channel.Report} {now : Nat}
    {hub : Hub κ φ logSize}
    (idle : (⟨hub, .process frame report now⟩ : Event _ _ _).dispatched? = none) :
    let processed := hub.process frame report now
    processed.1.executed = false ∧
      processed.2.services.config = hub.services.config ∧
      processed.2.services.firmware = hub.services.firmware ∧
      processed.2.engine.pending = hub.engine.pending ∧
      processed.2.engine.handled = hub.engine.handled := by
  rcases process_cases_of_not_dispatched idle with process_eq | ⟨_, _, next, _, relays, process_eq⟩
  · rw [process_eq]
    exact ⟨rfl, rfl, rfl, rfl, rfl⟩
  · have config_eq := congrArg Services.config relays.services
    have firmware_eq := congrArg Services.firmware relays.services
    simp only [process_eq]
    split
    · exact ⟨trivial, config_eq, firmware_eq, relays.pending, relays.handled⟩
    · exact ⟨trivial, config_eq, firmware_eq, relays.pending, relays.handled⟩

/-! ### Runs -/

/-- The unique ids of the commands carried out in a run, in order. -/
def dispatches (calls : List (Call κ φ logSize)) (hub : Hub κ φ logSize) : List UInt8 :=
  (trace calls hub).filterMap Event.dispatched?

theorem handled_next (event : Event κ φ logSize) :
    event.next.engine.handled = event.hub.engine.handled.recordAll event.dispatched?.toList := by
  rcases event with ⟨hub, call⟩
  cases call with
  | process frame report now =>
      cases dispatched : (⟨hub, .process frame report now⟩ : Event κ φ logSize).dispatched? with
      | none => exact (process_of_not_dispatched dispatched).2.2.2.2
      | some uid =>
          rcases process_of_dispatched dispatched with ⟨host, _, _, _, handled_eq⟩
          exact handled_eq
  | sendHostFrame frame =>
      rcases hub.run_sendHostFrame frame with ⟨preamble, run_eq⟩
      change ((sendHostFrame frame).run hub).2.engine.handled = hub.engine.handled
      rw [run_eq, engine_enqueue]
      simp only [remember]
      cases Header.parse frame <;> rfl
  | sendWeather reading => exact (moves_sendWeather reading hub).handled
  | sendStatus report => exact (moves_sendStatus report hub).handled
  | flushBatch => exact (moves_flushBatch hub).handled
  | outside outbox services host => rfl

theorem handled_run (calls : List (Call κ φ logSize)) (hub : Hub κ φ logSize) :
    (run calls hub).engine.handled = hub.engine.handled.recordAll (dispatches calls hub) :=
  run_eq_foldl (fun hub => hub.engine.handled) handled_next calls hub

omit [FirmwareUpdater φ] in
theorem not_contains_of_dispatched {event : Event κ φ logSize} {uid : UInt8}
    (dispatched : event.dispatched? = some uid) :
    event.hub.engine.handled.contains uid = false := by
  unfold Event.dispatched? at dispatched
  split at dispatched
  · split at dispatched
    · rename_i carried
      rw [Option.some.injEq] at dispatched
      rw [← dispatched]
      simpa using carried.2
    · contradiction
  · contradiction

theorem le_others_dispatched {hub : Hub κ φ logSize} {uid : UInt8} (uid_ne : uid ≠ 0)
    {first second : Call κ φ logSize} (between : List (Call κ φ logSize))
    (firstDispatched : (⟨hub, first⟩ : Event _ _ _).dispatched? = some uid)
    (secondDispatched :
      (⟨run between (hub.perform first), second⟩ : Event _ _ _).dispatched? = some uid) :
    historySize ≤ (dispatches between (hub.perform first)).countP fun other =>
      other ≠ 0 ∧ other ≠ uid := by
  have remembered : (hub.perform first).engine.handled = hub.engine.handled.record uid := by
    have next_eq := handled_next (⟨hub, first⟩ : Event κ φ logSize)
    rw [firstDispatched] at next_eq
    exact next_eq
  have forgotten := not_contains_of_dispatched secondDispatched
  simp only [handled_run, remembered] at forgotten
  exact History.Handled.capacity_le_countP_of_unremembered uid_ne forgotten

omit [FirmwareUpdater φ] in
theorem dispatched_of_zero {header : Header} {frame : Bytes} {hub : Hub κ φ logSize}
    (parsed : Header.parse frame = .ok header) (addressed : hub.IsAddressed header)
    (uid_eq : header.uid = 0) (report : Channel.Report) (now : Nat) :
    (⟨hub, .process frame report now⟩ : Event _ _ _).dispatched? = some 0 := by
  have fresh : ¬hub.engine.handled.contains header.uid := by
    simp [uid_eq, History.Handled.contains]
  rw [Event.dispatched?_process parsed, if_pos ⟨addressed, fresh⟩, uid_eq]

/-- A message under whose id a command is carried out does to the services, and calls for, what the
command does, whether it is handled or not, and no other message does. In any run, between two
commands that are carried out under the same id, at least as many others are carried out as the
history holds, not counting those under the id 0. A command under the id 0 for this station or for
all is always carried out and never remembered. -/
theorem historySize_le_others_dispatched :
    (∀ (hub : Hub κ φ logSize) (frame : Bytes) (report : Channel.Report) (now : Nat),
      let event : Event κ φ logSize := ⟨hub, .process frame report now⟩
      let processed := hub.process frame report now
      (∀ uid, event.dispatched? = some uid → ∃ host,
        let carriedOut := { hub with host }.executeBytes (frame.drop Header.size) report now
        processed.1.executed = carriedOut.1.handled ∧
          processed.2.services = carriedOut.2.services ∧
          processed.2.engine.pending = carriedOut.2.engine.pending ∧
          processed.2.engine.handled = hub.engine.handled.record uid) ∧
      (event.dispatched? = none → processed.1.executed = false ∧
        processed.2.services.config = hub.services.config ∧
        processed.2.services.firmware = hub.services.firmware ∧
        processed.2.engine.pending = hub.engine.pending ∧
        processed.2.engine.handled = hub.engine.handled)) ∧
    (∀ (hub : Hub κ φ logSize) (first second : Call κ φ logSize)
      (between : List (Call κ φ logSize)) (uid : UInt8), uid ≠ 0 →
        (⟨hub, first⟩ : Event _ _ _).dispatched? = some uid →
        (⟨run between (hub.perform first), second⟩ : Event _ _ _).dispatched? = some uid →
          historySize ≤ (dispatches between (hub.perform first)).countP fun other =>
            other ≠ 0 ∧ other ≠ uid) ∧
    ∀ (hub : Hub κ φ logSize) (header : Header) (frame : Bytes) (report : Channel.Report)
      (now : Nat), Header.parse frame = .ok header → hub.IsAddressed header → header.uid = 0 →
        (⟨hub, .process frame report now⟩ : Event _ _ _).dispatched? = some 0 ∧
          (hub.process frame report now).2.engine.handled = hub.engine.handled := by
  refine ⟨fun hub frame report now => ⟨fun uid => process_of_dispatched,
    process_of_not_dispatched⟩, ?_, ?_⟩
  · intro hub first second between uid uid_ne firstDispatched secondDispatched
    exact le_others_dispatched uid_ne between firstDispatched secondDispatched
  · intro hub header frame report now parsed addressed uid_eq
    have dispatched := dispatched_of_zero parsed addressed uid_eq report now
    rcases process_of_dispatched dispatched with ⟨host, _, _, _, handled_eq⟩
    exact ⟨dispatched, handled_eq.trans (History.Handled.record_zero _)⟩

/-- A command under the id 0, one that gives the station another id, one that cannot be read, and
fourteen more. -/
def otherCommands : List (Call Config.Settings RuleUpdater 0) :=
  [.process [0x43, 0, 0, 0x4E] {} 0, .process [0x43, 1, 200, 0x49] {} 0,
    .process [0x43, 0, 201] {} 0] ++
  (List.range 14).map fun uid => .process [0x43, 0, UInt8.ofNat (uid + 10), 0x4E] {} 0

theorem historySize_le_others_dispatched_otherCommands :
    let hub := ofSettings {}
    let first : Call Config.Settings RuleUpdater 0 := .process [0xC3, 1, 5, 0x4E] {} 0
    let second : Call Config.Settings RuleUpdater 0 := .process [0x43, 0, 5] {} 9
    ((⟨hub, first⟩ : Event _ _ _).dispatched? = some 5 ∧
      (⟨run otherCommands (hub.perform first), second⟩ : Event _ _ _).dispatched? = some 5) ∧
    (run otherCommands (hub.perform first)).stationId ≠ hub.stationId ∧
    (historySize ≤ (dispatches otherCommands (hub.perform first)).countP fun other =>
      other ≠ 0 ∧ other ≠ 5) ∧
    (⟨hub, .process [0x43, 0, 0] {} 0⟩ : Event _ _ _).dispatched? = some 0 := by
  intro hub first second
  have firstDispatched : (⟨hub, first⟩ : Event _ _ _).dispatched? = some 5 := by decide +kernel
  have secondDispatched : (⟨run otherCommands (hub.perform first), second⟩ :
      Event _ _ _).dispatched? = some 5 := by
    decide +kernel
  have replayed := @historySize_le_others_dispatched Config.Settings RuleUpdater 0 _ _
  have few := replayed.2.1 hub first second otherCommands 5 (by decide) firstDispatched
    secondDispatched
  have again := replayed.2.2 hub ⟨⟨.command, false⟩, 0, 0⟩ [0x43, 0, 0] {} 0 rfl (by decide) rfl
  exact ⟨⟨firstDispatched, secondDispatched⟩, by decide +kernel, few, again.1⟩

end StationMesh.Relay.Hub
