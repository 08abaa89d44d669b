import Mathlib.Data.List.TakeWhile
import StationMesh.Proofs.Kiss.RoundTrip

/-!
# A message is handed over once

While a draft is open it gathers what is appended and leaves its carrier alone. The first call that
finishes it hands the message over, unless it was given up before, and after that nothing is added
and nothing is handed over any more, whatever is called. A draft that is let go while it is open is
handed over then. This is so for every carrier; the radio puts one frame into its outbox, and the
serial line writes one frame to the host.
-/

namespace StationMesh

/-! ### What a carrier takes -/

namespace Outbox

variable {data : Bytes} {outbox : Outbox}

/-- A message that fits in a frame comes behind the others, if a slot is free. -/
theorem send_of_free (preamble : Preamble) (fits : data.length ≤ OutFrame.maxSize)
    (free : outbox.length < slots) :
    ∃ (frame : OutFrame) (next : Outbox), frame.data = data ∧ frame.preamble = preamble ∧
      next.frames = outbox.frames ++ [frame] ∧ outbox.send data preamble = .ok next := by
  have room : outbox.frames.length < slots := free
  simp only [send, OutFrame.ofBytes?, fits, dite_true, push, room]
  exact ⟨_, _, rfl, rfl, rfl, rfl⟩

theorem send_of_full (preamble : Preamble) (fits : data.length ≤ OutFrame.maxSize)
    (full : ¬outbox.length < slots) :
    outbox.send data preamble = .error .outboxFull := by
  have crowded : ¬outbox.frames.length < slots := full
  simp only [send, OutFrame.ofBytes?, fits, dite_true, push, crowded, dite_false]

end Outbox

/-- The line took one message: it is one frame behind the others in the outbox, or was turned away
by it if there was no slot. -/
def RadioLine.Took (content : Bytes) (line next : RadioLine) : Prop :=
  ∃ frame : OutFrame, frame.data = content ∧ frame.preamble = line.preamble ∧
    next.preamble = line.preamble ∧
    next.outbox.frames =
      line.outbox.frames ++ if line.outbox.length < Outbox.slots then [frame] else []

theorem RadioLine.took_deliver {content : Bytes} (fits : content.length ≤ OutFrame.maxSize)
    (line : RadioLine) : line.Took content (Carrier.deliver content line).2 := by
  by_cases free : line.outbox.length < Outbox.slots
  · rcases Outbox.send_of_free line.preamble fits free with
      ⟨frame, next, data_eq, preamble_eq, frames_eq, send_eq⟩
    refine ⟨frame, data_eq, preamble_eq, ?_⟩
    simp [Carrier.deliver, send_eq, free, frames_eq]
  · have send_eq := Outbox.send_of_full line.preamble fits free
    refine ⟨⟨content, line.preamble, fits⟩, rfl, rfl, ?_⟩
    simp [Carrier.deliver, send_eq, free]

/-- The line took one message: its written form was put behind what was written before. -/
def Kiss.SerialLine.Took (content : Bytes) (line next : Kiss.SerialLine) : Prop :=
  next.kind = line.kind ∧
    next.sink.bytes = line.sink.bytes ++ Kiss.encode line.kind content

theorem Kiss.SerialLine.took_deliver {line : Kiss.SerialLine}
    (unlimited : line.sink.capacity = none)
    (content : Bytes) : line.Took content (Carrier.deliver content line).2 := by
  simp [Took, Carrier.deliver, write, Host.Sink.writeAll_of_unlimited _ unlimited, flatten_pieces]

namespace Draft

/-! ### Calls -/

/-- What can be done with a draft. -/
inductive Call where
  | append (bytes : Bytes)
  | appendByte (byte : UInt8)
  | appendValue (type : WireType) (value : Int)
  | finish
  | abort
deriving DecidableEq, Repr

namespace Call

/-- The bytes that are to be added. -/
def bytes? : Call → Option Bytes
  | append bytes => some bytes
  | appendByte byte => some [byte]
  | appendValue type value => some (type.encode value)
  | finish | abort => none

/-- The draft is finished or given up. -/
def closes : Call → Bool
  | finish | abort => true
  | append _ | appendByte _ | appendValue _ _ => false

end Call

variable {κ : Type} [Carrier κ]

omit [Carrier κ] in
/-- The draft with what was added to it, or as it was if that was refused. -/
def keep (draft : Draft κ) : Except TransportError (Draft κ) → Except TransportError Unit × Draft κ
  | .ok next => (.ok (), next)
  | .error error => (.error error, draft)

/-- What a call answers, and the draft it leaves. -/
def perform (draft : Draft κ) : Call → Except TransportError Unit × Draft κ
  | .append bytes => draft.keep (draft.append bytes)
  | .appendByte byte => draft.keep (draft.append [byte])
  | .appendValue type value => draft.keep (draft.appendValue type value)
  | .finish => draft.finish
  | .abort => (.ok (), draft.abort)

/-- The draft after some calls. -/
def run (calls : List Call) (draft : Draft κ) : Draft κ :=
  calls.foldl (fun draft call => (draft.perform call).2) draft

/-- What a call adds: its bytes, if it is answered with success. -/
def added (draft : Draft κ) (call : Call) : Bytes :=
  match (draft.perform call).1 with
  | .ok () => call.bytes?.getD []
  | .error _ => []

/-- What some calls add, one after the other. -/
def accepted : List Call → Draft κ → Bytes
  | [], _ => []
  | call :: calls, draft => draft.added call ++ accepted calls (draft.perform call).2

/-- What the message holds: what was in it at the start, and what was added before it was finished
or given up. -/
def content (calls : List Call) (start : Draft κ) : Bytes :=
  start.bytes ++ accepted (calls.takeWhile (!·.closes)) start

variable {draft start : Draft κ} {call : Call} {calls : List Call} {bytes : Bytes}

theorem perform_of_bytes (adds : call.bytes? = some bytes) :
    draft.perform call = draft.keep (draft.append bytes) := by
  cases call with
  | append more =>
      cases adds
      rfl
  | appendByte byte =>
      cases adds
      rfl
  | appendValue type value =>
      cases adds
      rfl
  | finish => contradiction
  | abort => contradiction

/-! ### A draft that is closed -/

omit [Carrier κ] in
/-- A draft that was finished or given up. -/
def closed (carrier : κ) : Draft κ := { carrier, isOpen := false }

theorem perform_closed (carrier : κ) (notAbort : call ≠ .abort) :
    (closed carrier).perform call = (.error .notInMessage, closed carrier) := by
  cases call with
  | abort => contradiction
  | _ => rfl

theorem run_closed (calls : List Call) (carrier : κ) :
    run calls (closed carrier) = closed carrier := by
  induction calls with
  | nil => rfl
  | cons call calls ih =>
      have kept : ((closed carrier).perform call).2 = closed carrier := by
        cases call <;> rfl
      simpa [run, kept] using ih

/-! ### A draft that is open -/

omit [Carrier κ] in
theorem append_of_open (isOpen : draft.isOpen = true) (bytes : Bytes) :
    draft.append bytes =
      if draft.bytes.length + bytes.length ≤ capacity then
        .ok { draft with bytes := draft.bytes ++ bytes }
      else .error .bufferOverrun := by
  simp [append, isOpen]

/-- An open draft takes all bytes of a call or none of them. -/
theorem perform_of_open (isOpen : draft.isOpen = true) (adds : call.bytes? = some bytes) :
    draft.perform call =
      if draft.bytes.length + bytes.length ≤ capacity then
        (.ok (), { draft with bytes := draft.bytes ++ bytes })
      else (.error .bufferOverrun, draft) := by
  rw [perform_of_bytes adds, append_of_open isOpen]
  split <;> rfl

/-- As long as it is not closed, a draft gathers what is added to it, and that is never more than it
can hold. -/
theorem run_of_unclosed (isOpen : start.isOpen = true) (fits : start.bytes.length ≤ capacity)
    (unclosed : ∀ call ∈ calls, call.closes = false) :
    run calls start = { start with bytes := start.bytes ++ accepted calls start } ∧
      (start.bytes ++ accepted calls start).length ≤ capacity := by
  induction calls generalizing start with
  | nil => simp [run, accepted, fits]
  | cons call calls ih =>
      simp only [List.mem_cons, forall_eq_or_imp] at unclosed
      obtain ⟨bytes, adds⟩ : ∃ bytes, call.bytes? = some bytes := by
        cases call <;> simp_all [Call.bytes?, Call.closes]
      have performed := perform_of_open isOpen adds
      by_cases room : start.bytes.length + bytes.length ≤ capacity
      · simp only [room, if_true] at performed
        have others := @ih { start with bytes := start.bytes ++ bytes } isOpen
          (by simpa using room) unclosed.2
        simpa [run, accepted, added, performed, adds] using others
      · simp only [room, if_false] at performed
        simpa [run, accepted, added, performed] using ih isOpen fits unclosed.2

theorem content_of_unclosed (unclosed : ∀ call ∈ calls, call.closes = false) :
    content calls start = start.bytes ++ accepted calls start := by
  have all_eq : calls.takeWhile (!·.closes) = calls := by
    simpa [List.takeWhile_eq_self_iff] using unclosed
  rw [content, all_eq]

/-- The first call that closes a draft decides what becomes of the message, and no call behind it
changes that. -/
theorem run_of_find?_eq_some {closing : Call} (isOpen : start.isOpen = true)
    (fits : start.bytes.length ≤ capacity) (found : calls.find? (·.closes) = some closing) :
    run calls start =
        closed (if closing = .abort then start.carrier
          else (Carrier.deliver (content calls start) start.carrier).2) ∧
      (content calls start).length ≤ capacity := by
  rcases List.find?_eq_some_iff_append.mp found with ⟨closes, early, later, calls_eq, unclosed⟩
  have early_unclosed : ∀ call ∈ early, call.closes = false := by simpa using unclosed
  have early_eq : calls.takeWhile (!·.closes) = early := by
    simp [calls_eq, List.takeWhile_append_of_pos unclosed, closes]
  rcases run_of_unclosed isOpen fits early_unclosed with ⟨gathered, length_le⟩
  have content_eq : content calls start = start.bytes ++ accepted early start := by
    rw [content, early_eq]
  have run_eq : run calls start = run later ((run early start).perform closing).2 := by
    simp [calls_eq, run]
  rw [content_eq]
  refine ⟨?_, length_le⟩
  rw [run_eq, gathered]
  cases closing with
  | append _ => contradiction
  | appendByte _ => contradiction
  | appendValue _ _ => contradiction
  | finish =>
      simp only [perform, finish, isOpen, if_true, reduceCtorEq, if_false]
      exact run_closed later _
  | abort =>
      simp only [perform, abort, if_true]
      exact run_closed later start.carrier

/-! ### Once and no more -/

/-- After the calls, and after the draft was let go as well, the message has been handed over once,
or not at all if it was given up before it was finished. An append succeeds if the draft was neither
finished nor given up and there is room for all bytes; otherwise it changes nothing. -/
structure DeliversOnce (took : Bytes → κ → κ → Prop) (start : Draft κ) (calls : List Call) :
    Prop where
  unclosed : calls.find? (·.closes) = none →
    (run calls start).carrier = start.carrier ∧
      took (content calls start) start.carrier (run calls start).release
  finished : calls.find? (·.closes) = some .finish →
    took (content calls start) start.carrier (run calls start).carrier ∧
      (run calls start).release = (run calls start).carrier
  givenUp : calls.find? (·.closes) = some .abort →
    (run calls start).carrier = start.carrier ∧ (run calls start).release = start.carrier
  append_ok_iff : ∀ call bytes, call.bytes? = some bytes →
    (((run calls start).perform call).1 = .ok () ↔
      calls.find? (·.closes) = none ∧
        (content calls start).length + bytes.length ≤ capacity)
  append_refused : ∀ call bytes, call.bytes? = some bytes →
    ((run calls start).perform call).1 ≠ .ok () →
      ((run calls start).perform call).2 = run calls start
  notInMessage : (calls.find? (·.closes)).isSome → ∀ call, call ≠ .abort →
    ((run calls start).perform call).1 = .error .notInMessage

theorem deliversOnce {took : Bytes → κ → κ → Prop} (isOpen : start.isOpen = true)
    (fits : start.bytes.length ≤ capacity)
    (takes : ∀ message, message.length ≤ capacity →
      took message start.carrier (Carrier.deliver message start.carrier).2) (calls : List Call) :
    start.DeliversOnce took calls := by
  cases found : calls.find? (·.closes) with
  | none =>
      have unclosed : ∀ call ∈ calls, call.closes = false := by simpa using found
      have content_eq : content calls start = start.bytes ++ accepted calls start :=
        content_of_unclosed unclosed
      rcases run_of_unclosed isOpen fits unclosed with ⟨run_eq, length_le⟩
      rw [← content_eq] at run_eq length_le
      have stillOpen : (run calls start).isOpen = true := by simp [run_eq, isOpen]
      have bytes_eq : (run calls start).bytes = content calls start := by simp [run_eq]
      have carrier_eq : (run calls start).carrier = start.carrier := by simp [run_eq]
      refine ⟨fun _ => ⟨carrier_eq, ?_⟩, by simp [found], by simp [found], ?_, ?_, by simp [found]⟩
      · simpa [release, finish, stillOpen, bytes_eq, carrier_eq] using takes _ length_le
      · intro call bytes adds
        rw [perform_of_open stillOpen adds, bytes_eq]
        split <;> simp_all
      · intro call bytes adds
        rw [perform_of_open stillOpen adds]
        split <;> simp
  | some closing =>
      rcases run_of_find?_eq_some isOpen fits found with ⟨run_eq, length_le⟩
      have refused (call : Call) (notAbort : call ≠ .abort) :
          (run calls start).perform call = (.error .notInMessage, run calls start) := by
        rw [run_eq]
        exact perform_closed _ notAbort
      have added_ne {call : Call} {bytes : Bytes} (adds : call.bytes? = some bytes) :
          call ≠ .abort := by
        rintro rfl
        contradiction
      refine ⟨by simp [found], ?_, ?_, ?_, ?_, ?_⟩
      · intro closing_eq
        simp only [found, Option.some.injEq] at closing_eq
        simp only [run_eq, closing_eq, reduceCtorEq, if_false]
        exact ⟨takes _ length_le, rfl⟩
      · intro closing_eq
        simp only [found, Option.some.injEq] at closing_eq
        simp only [run_eq, closing_eq, if_true]
        exact ⟨rfl, rfl⟩
      · intro call bytes adds
        simp [refused call (added_ne adds), found]
      · intro call bytes adds _
        rw [refused call (added_ne adds)]
      · intro _ call notAbort
        rw [refused call notAbort]

/-- A radio message that is about to be built, behind a header or without one. -/
def onRadio (header? : Option Header) (line : RadioLine) : Draft RadioLine :=
  match header? with
  | some header => withHeader header line
  | none => { carrier := line }

/-- Whatever is called and however it ends, a message that is built is handed over once, unless it
is given up first: to the radio with its header, if it has one, in front, and to the host. -/
theorem delivered_once :
    (∀ (header? : Option Header) (line : RadioLine) (calls : List Call),
      (onRadio header? line).DeliversOnce RadioLine.Took calls) ∧
    ∀ (line : Kiss.SerialLine) (calls : List Call), line.sink.capacity = none →
      ({ carrier := line } : Draft Kiss.SerialLine).DeliversOnce Kiss.SerialLine.Took calls := by
  constructor
  · intro header? line calls
    have start_eq : (onRadio header? line).isOpen = true ∧
        (onRadio header? line).bytes.length ≤ capacity ∧
        (onRadio header? line).carrier = line := by
      cases header? with
      | none => exact ⟨rfl, Nat.zero_le _, rfl⟩
      | some header => exact ⟨rfl, by simp [onRadio, withHeader, Header.size, capacity], rfl⟩
    rcases start_eq with ⟨isOpen, fits, carrier_eq⟩
    refine deliversOnce isOpen fits ?_ calls
    intro message length_le
    rw [carrier_eq]
    exact line.took_deliver length_le
  · intro line calls unlimited
    refine deliversOnce rfl (Nat.zero_le _) ?_ calls
    intro message _
    exact Kiss.SerialLine.took_deliver unlimited message

/-- A word, more bytes than are left room for, the end of the message, and calls behind it. -/
def overfullThenFinished : List Call :=
  [.appendValue .uint16 0x0102, .append (List.replicate 250 7), .finish, .appendByte 1, .finish]

theorem delivered_once_overfullThenFinished :
    let line : RadioLine := { outbox := .empty, preamble := .short }
    let host : Kiss.SerialLine := { sink := {}, kind := .localCommand }
    let status := onRadio (some ⟨⟨.status, false⟩, 9, 3⟩) line
    let reply : Draft Kiss.SerialLine := { carrier := host }
    host.sink.capacity = none ∧
      (∃ frame : OutFrame, frame.data = [0x53, 9, 3, 0x02, 0x01] ∧ frame.preamble = .short ∧
        (run overfullThenFinished status).release.outbox.frames = [frame]) ∧
      ((run overfullThenFinished status).perform .finish).1 = .error .notInMessage ∧
      ((run (overfullThenFinished.take 1) status).perform (.append (List.replicate 250 7))).2 =
        run (overfullThenFinished.take 1) status ∧
      (run [.appendByte 1, .abort, .finish] reply).release = host ∧
      (run [.append [0x4F, 0x4B], .appendByte 0xC0] reply).release.sink.bytes =
        [0xC0, 6, 0x4F, 0x4B, 0xDB, 0xDC, 0xC0] := by
  intro line host status reply
  have whole := delivered_once.1 (some ⟨⟨.status, false⟩, 9, 3⟩) line overfullThenFinished
  have begun := delivered_once.1 (some ⟨⟨.status, false⟩, 9, 3⟩) line (overfullThenFinished.take 1)
  have abandoned := delivered_once.2 host [.appendByte 1, .abort, .finish] rfl
  have dropped := delivered_once.2 host [.append [0x4F, 0x4B], .appendByte 0xC0] rfl
  refine ⟨rfl, ?_, ?_, ?_, ?_, ?_⟩
  · rcases whole.finished (by decide) with ⟨⟨frame, data_eq, preamble_eq, _, frames_eq⟩, release_eq⟩
    refine ⟨frame, data_eq.trans (by decide +kernel), preamble_eq, ?_⟩
    rw [release_eq]
    exact frames_eq
  · exact whole.notInMessage (by decide) .finish (by decide)
  · exact begun.append_refused _ _ rfl (by decide +kernel)
  · exact (abandoned.givenUp (by decide)).2
  · exact (dropped.unclosed (by decide)).2.2.trans (by decide +kernel)

end Draft

end StationMesh
