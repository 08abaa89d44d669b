import StationMesh.Proofs.Config.Image
import StationMesh.Proofs.Relay.Copying
import StationMesh.Proofs.Relay.OwnTraffic

/-!
# Commands to every station

A command to every station is carried out first and relayed after that, by any station that relays
for anyone. The list that decides on it is read only then, when the command may have replaced it.
Among all commands there is one kind that stops itself in this way: a change of the message relay
list to one that names nobody. Whatever else it changes, a command goes on its way.
-/

namespace StationMesh

namespace Config

/-- A store that hands out what was put in. A change of one field leaves the others alone. -/
class LawfulStore (κ : Type) [Store κ] : Prop where
  get_of_set {field : Field} {value : Bytes} {store left : κ} :
    Store.set field value store = .ok left → Store.get field left = value
  get_of_set_of_ne {field other : Field} {value : Bytes} {store left : κ} :
    Store.set field value store = .ok left → other ≠ field →
      Store.get other left = Store.get other store

instance : LawfulStore Settings where
  get_of_set := by
    intro field value settings left accepted
    rcases Settings.set_eq_ok_iff.mp accepted with ⟨fits, rfl⟩
    exact Settings.get_write fits.length_eq settings
  get_of_set_of_ne := by
    intro field other value settings left accepted ne
    rcases Settings.set_eq_ok_iff.mp accepted with ⟨_, rfl⟩
    exact Settings.get_write_of_ne ne settings value

end Config

namespace Relay

open Config

/-! ### What a command does to the list -/

namespace Command

/-- The ids that a command asks to have on the message relay list. -/
def messageRelays? : Command → Option Bytes
  | .setField .messageRelayList value => some value
  | .setRelayList .messageRelayList list => some list.ids
  | _ => none

variable {κ : Type} [Store κ]

/-- The command puts these ids on the message relay list. -/
def Lists (ids : Bytes) (store : κ) (command : Command) : Prop :=
  command.messageRelays? = some ids ∧ ∃ left, Store.set .messageRelayList ids store = .ok left

end Command

variable {κ : Type} [Store κ]

/-- The bytes are a command that takes everyone off the message relay list. -/
def Silences (bytes : Bytes) (store : κ) : Prop :=
  ∃ command ids, Command.parse bytes = some command ∧ command.Lists ids store ∧
    ∀ id ∈ ids.take RelayList.size, id = everyStation

theorem silences_iff {bytes : Bytes} {command : Command}
    (parsed : Command.parse bytes = some command) (store : κ) :
    Silences bytes store ↔
      ∃ ids, command.Lists ids store ∧ ∀ id ∈ ids.take RelayList.size, id = everyStation := by
  simp [Silences, parsed]

namespace Hub

variable {φ : Type} {logSize : Nat} [FirmwareUpdater φ]

theorem get_execute_of_lists [LawfulStore κ] {command : Command} {ids : Bytes}
    {hub : Hub κ φ logSize} (lists : command.Lists ids hub.services.config)
    (report : Channel.Report) (now : Nat) :
    Store.get .messageRelayList (hub.execute command report now).2.services.config = ids := by
  rcases lists with ⟨asked, left, accepted⟩
  have got := LawfulStore.get_of_set accepted
  cases command with
  | setField field value =>
      cases field <;> simp only [Command.messageRelays?, Option.some.injEq, reduceCtorEq] at asked
      subst asked
      simp only [execute.eq_def, accepted]
      exact got
  | setRelayList field list =>
      cases field <;> simp only [Command.messageRelays?, Option.some.injEq, reduceCtorEq] at asked
      subst asked
      simp only [execute.eq_def, accepted]
      exact got
  | _ => simp [Command.messageRelays?] at asked

theorem get_execute_of_not_lists [LawfulStore κ] {command : Command} {hub : Hub κ φ logSize}
    (others : ∀ ids, ¬command.Lists ids hub.services.config) (report : Channel.Report) (now : Nat) :
    Store.get .messageRelayList (hub.execute command report now).2.services.config =
      Store.get .messageRelayList hub.services.config := by
  have ends := hub.ends_execute command report now
  have keeps {field : Field} {value : Bytes} {left : κ}
      (accepted : Store.set field value hub.services.config = .ok left)
      (asks : field = .messageRelayList → command.messageRelays? = some value) :
      Store.get .messageRelayList left = Store.get .messageRelayList hub.services.config := by
    refine LawfulStore.get_of_set_of_ne accepted ?_
    rintro rfl
    exact others value ⟨asks rfl, left, accepted⟩
  generalize hub.execute command report now = ended at ends ⊢
  cases ends with
  | fieldSet accepted => exact keeps accepted (by rintro rfl; rfl)
  | channelFieldSet accepted => exact keeps accepted (by rintro rfl; rfl)
  | listSet accepted => exact keeps accepted (by rintro rfl; rfl)
  | csmaHalfSet accepted => exact keeps accepted nofun
  | csmaSet accepted acceptedToo =>
      exact (LawfulStore.get_of_set_of_ne acceptedToo (by decide)).trans (keeps accepted nofun)
  | idTaken picked accepted => exact keeps accepted nofun
  | _ => rfl

omit [FirmwareUpdater φ] in
theorem callsFor_everyone_iff (store : κ) :
    Store.CallsFor .command everyStation store ↔
      ∃ id ∈ (Store.get .messageRelayList store).take RelayList.size, id ≠ everyStation := by
  simp [Store.CallsFor, Store.listed]

/-- A station that relays for anyone does so after a command, unless the command silenced it. -/
theorem callsFor_executeBytes_iff [LawfulStore κ] {hub : Hub κ φ logSize}
    (called : Store.CallsFor .command everyStation hub.services.config) (bytes : Bytes)
    (report : Channel.Report) (now : Nat) :
    Store.CallsFor .command everyStation (hub.executeBytes bytes report now).2.services.config ↔
      ¬Silences bytes hub.services.config := by
  cases parsed : Command.parse bytes with
  | none =>
      simp only [executeBytes, Silences, parsed, reduceCtorEq, false_and, exists_false,
        not_false_eq_true, iff_true]
      exact called
  | some command =>
      simp only [executeBytes, parsed, silences_iff parsed]
      by_cases lists : ∃ ids, command.Lists ids hub.services.config
      · rcases lists with ⟨ids, lists⟩
        simp only [callsFor_everyone_iff, get_execute_of_lists lists]
        constructor
        · rintro ⟨id, mem, id_ne⟩ ⟨others, listsOthers, free⟩
          have same : ids = others := Option.some.inj (lists.1.symm.trans listsOthers.1)
          subst same
          exact id_ne (free id mem)
        · intro loud
          by_contra free
          apply loud
          refine ⟨ids, lists, ?_⟩
          simpa using free
      · simp only [not_exists] at lists
        apply iff_of_true
        · rw [callsFor_everyone_iff, get_execute_of_not_lists lists]
          exact (callsFor_everyone_iff _).mp called
        · rintro ⟨ids, listsIds, _⟩
          exact lists ids listsIds

/-- The same after a command to every station was heard, which is carried out if it was not handled
lately. -/
theorem callsFor_hear_iff [LawfulStore κ] {header : Header} {hub : Hub κ φ logSize}
    (isCommand : header.kind = .command) (global : header.station = everyStation)
    (called : Store.CallsFor .command everyStation hub.services.config) (frame : Bytes)
    (report : Channel.Report) (now : Nat) :
    Store.CallsFor .command everyStation (hub.hear header frame report now).2.services.config ↔
      ¬(hub.engine.handled.contains header.uid = false ∧
        Silences (frame.drop Header.size) hub.services.config) := by
  cases known : hub.engine.handled.contains header.uid with
  | true =>
      have idle : ¬(hub.IsAddressed header ∧ ¬hub.engine.handled.contains header.uid) := by
        simp [known]
      have heard := (hear_of_not_dispatched idle frame report now).2
      simp only [heard.services, reduceCtorEq, false_and, not_false_eq_true, iff_true]
      exact called
  | false =>
      have addressed : hub.IsAddressed header := ⟨isCommand, .inr global⟩
      rcases hear_of_addressed addressed frame report now with ⟨host, hear_eq⟩
      have obeyed := obey_of_fresh { hub with host } known hub.stationId
        (frame.drop Header.size) report now
      simp only [hear_eq, obeyed.2.1, true_and]
      apply callsFor_executeBytes_iff
      exact called

theorem wantsRelay_hear_iff [LawfulStore κ] {header : Header} {hub : Hub κ φ logSize}
    (isCommand : header.kind = .command) (global : header.station = everyStation)
    (named : hub.stationId ≠ everyStation)
    (called : Store.CallsFor .command everyStation hub.services.config) (frame : Bytes)
    (report : Channel.Report) (now : Nat) :
    (hub.hear header frame report now).2.wantsRelay header hub.stationId = true ↔
      ¬(header.forced = false ∧ hub.engine.handled.contains header.uid = false ∧
        Silences (frame.drop Header.size) hub.services.config) := by
  rw [wantsRelay_iff, isCommand, global, callsFor_hear_iff isCommand global called]
  simp only [ne_eq, named.symm, not_false_eq_true, true_and]
  cases header.forced with
  | false => simp
  | true => simp

omit [Store κ] [FirmwareUpdater φ] in
theorem OnlyAcknowledges.exists_answers {own uid : UInt8} {hub next : Hub κ φ logSize}
    (acknowledges : hub.OnlyAcknowledges own uid next) :
    ∃ answers : List OutFrame, next.outbox.frames = hub.outbox.frames ++ answers ∧
      answers.length ≤ 1 := by
  rcases acknowledges.frames with frames_eq | ⟨answer, _, frames_eq, _⟩
  · exact ⟨[], by simpa using frames_eq, by simp⟩
  · exact ⟨[answer], frames_eq, by simp⟩

/-! ### On its way -/

/-- A command to every station that reaches a station which relays for anyone is reported as
relayed, unless the station carries it out, it takes everyone off the message relay list, and it
does not demand relay itself. So no command to do anything else is ever stopped, nor one that was
handled lately. The copy is queued behind the answer, if there is one: the two need a slot each. -/
theorem relayed_iff_not_silences [LawfulStore κ] {header : Header} {frame : Bytes}
    {hub : Hub κ φ logSize} (parsed : Header.parse frame = .ok header)
    (isCommand : header.kind = .command) (global : header.station = everyStation)
    (length_le : frame.length ≤ OutFrame.maxSize) (named : hub.stationId ≠ everyStation)
    (called : Store.CallsFor .command everyStation hub.services.config)
    (fresh : header.identity ∉ hub.engine.relayed.recent) (room : 2 ≤ hub.outbox.free)
    (report : Channel.Report) (now : Nat) :
    let processed := hub.process frame report now
    (processed.1.relayed = true ↔
      ¬(header.forced = false ∧ hub.engine.handled.contains header.uid = false ∧
        Silences (frame.drop Header.size) hub.services.config)) ∧
    (processed.1.relayed = true → ∃ (answers : List OutFrame) (copy : OutFrame),
      processed.2.outbox.frames = hub.outbox.frames ++ answers ++ [copy] ∧ answers.length ≤ 1 ∧
        copy.data = copyOf .command frame ∧ copy.preamble = .long ∧
        processed.2.engine.relayed = hub.engine.relayed.record header.identity) := by
  intro processed
  have accepted : ¬hub.IsOwn header := fun own => own.1 isCommand
  have acknowledges := onlyAcknowledges_hear header frame report now hub
  have wanted_iff := wantsRelay_hear_iff isCommand global named called frame report now
  -- Commands are not logged, so the message ends with the relaying.
  have processed_eq : processed =
      let heard := hub.hear header frame report now
      let relayed := heard.2.relay header hub.stationId frame
      ({ executed := heard.1, relayed := relayed.1 }, relayed.2) := by
    simp only [processed, process_of_accepted parsed accepted, isCommand, isLoggable,
      Bool.false_and, Bool.false_eq_true, ↓reduceIte]
  simp only [processed_eq]
  generalize (hub.hear header frame report now).2 = heard at acknowledges wanted_iff ⊢
  rcases acknowledges.exists_answers with ⟨answers, answers_eq, answers_le⟩
  have slot : 0 < heard.outbox.free := by
    have added := congrArg List.length answers_eq
    simp only [List.length_append] at added
    simp only [Outbox.free, Outbox.length] at room ⊢
    omega
  have unrelayed : heard.engine.relayed.contains header.identity = false := by
    rw [not_remembered_iff, acknowledges.relayed]
    exact fresh
  have other : header.kind ≠ .weather := by simp [isCommand]
  cases wanted : heard.wantsRelay header hub.stationId with
  | false =>
      have stopped : ¬(heard.wantsRelay header hub.stationId = true ∧
          heard.engine.relayed.contains header.identity = false) := by simp [wanted]
      rw [relay_of_unwanted stopped]
      rw [wanted] at wanted_iff
      exact ⟨wanted_iff, fun relayed => absurd relayed Bool.false_ne_true⟩
  | true =>
      rcases relay_of_wanted other parsed length_le wanted unrelayed with ⟨relayed_iff, copies⟩
      refine ⟨?_, ?_⟩
      · rw [relayed_iff, ← wanted_iff]
        exact iff_of_true slot wanted
      · intro relayed
        rcases copies slot with ⟨⟨copy, frames_eq, data_eq, preamble_eq⟩, recorded⟩
        refine ⟨answers, copy, ?_, answers_le, ?_, ?_, ?_⟩
        · rw [frames_eq, answers_eq]
        · rw [data_eq, isCommand]
        · simpa [isCommand] using preamble_eq
        · rw [recorded, acknowledges.relayed]

/-- A command to every station that takes everyone off the weather relay list goes on its way. -/
theorem relayed_iff_not_silences_weatherList :
    let hub := ofSettings { messageRelays := .padded [0, 8], weatherRelays := .padded [8] }
    let frame : Bytes := [0x43, 0, 5, 0x4C, 0x57]
    let header : Header := { kind := .command, forced := false, station := 0, uid := 5 }
    (Header.parse frame = .ok header ∧ frame.length ≤ OutFrame.maxSize ∧
      hub.stationId ≠ everyStation ∧
      Store.CallsFor .command everyStation hub.services.config ∧
      header.identity ∉ hub.engine.relayed.recent ∧ 2 ≤ hub.outbox.free) ∧
    (hub.process frame {} 0).1 = { executed := true, relayed := true } ∧
    ∃ answers copy, (hub.process frame {} 0).2.outbox.frames = answers ++ [copy] ∧
      copy.data = [0xC3, 0, 5, 0x4C, 0x57] ∧ copy.preamble = .long := by
  intro hub frame header
  have called : Store.CallsFor .command everyStation hub.services.config := by decide
  have room : 2 ≤ hub.outbox.free := by decide
  have fresh : header.identity ∉ hub.engine.relayed.recent := by decide
  have named : hub.stationId ≠ everyStation := by decide
  have parsed : Header.parse frame = .ok header := rfl
  have propagated :=
    relayed_iff_not_silences parsed rfl rfl (by decide) named called fresh room {} 0
  have loud : ¬Silences (frame.drop Header.size) hub.services.config := by
    rw [silences_iff rfl]
    rintro ⟨ids, ⟨asked, _⟩, _⟩
    simp [Command.messageRelays?] at asked
  have relayed := propagated.1.mpr fun silenced => loud silenced.2.2
  rcases propagated.2 relayed with ⟨answers, copy, frames_eq, _, data_eq, preamble_eq, _⟩
  exact ⟨⟨parsed, by decide, named, called, fresh, room⟩, by decide +kernel, answers, copy,
    frames_eq, data_eq, preamble_eq⟩

/-- A command to every station that takes everyone off the message relay list goes no further: it is
carried out and answered by a station that relays for station 8, and not relayed. -/
theorem not_relayed_of_silenced :
    let hub := ofSettings { messageRelays := .padded [8] }
    let frame : Bytes := [0x43, 0, 5, 0x4C, 0x4D]
    let header : Header := { kind := .command, forced := false, station := 0, uid := 5 }
    Header.parse frame = .ok header ∧ header.station = everyStation ∧
      hub.stationId ≠ everyStation ∧
      Store.CallsFor .command everyStation hub.services.config ∧
      header.identity ∉ hub.engine.relayed.recent ∧ hub.outbox.free = Outbox.slots ∧
      (hub.process frame {} 0).1 = { executed := true, relayed := false } ∧
      (hub.process frame {} 0).2.outbox.frames.map OutFrame.data = [[0x41, 1, 5, 0x4F, 0x4B]] ∧
      (hub.process frame {} 0).2.engine.relayed = hub.engine.relayed := by
  decide +kernel

end Hub

end Relay

end StationMesh
