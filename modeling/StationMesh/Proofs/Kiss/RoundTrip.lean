import Mathlib.Data.List.Basic
import StationMesh.Kiss.Decoder

/-!
# Frames survive the serial line

A decoder that is between two frames and is fed the written forms of some frames, with the station
identifiers that hosts put behind the kind bytes, reports each frame with its last byte and nothing
before that. While a frame is read the decoder has gathered what is behind its kind byte, with the
escapes taken out; that is what the induction over the payload carries along.
-/

namespace StationMesh.Host.Sink

/-- Room for some bytes and for more behind them. -/
theorem hasRoom_add {bytes : Bytes} {more : Nat} {sink : Sink}
    (room : sink.hasRoom (bytes.length + more) = true) :
    sink.hasRoom bytes.length = true ∧
      { sink with bytes := sink.bytes ++ bytes }.hasRoom more = true := by
  rcases sink with ⟨held, _ | capacity⟩
  · exact ⟨rfl, rfl⟩
  · simp only [hasRoom, decide_eq_true_eq, List.length_append] at room ⊢
    omega

/-- A sink takes all writes if there is room for all their bytes. -/
theorem writeAll_of_hasRoom {pieces : List Bytes} {sink : Sink}
    (room : sink.hasRoom pieces.flatten.length = true) :
    sink.writeAll pieces = (.ok (), { sink with bytes := sink.bytes ++ pieces.flatten }) := by
  induction pieces generalizing sink with
  | nil => simp [writeAll]
  | cons piece rest ih =>
      rw [List.flatten_cons, List.length_append] at room
      rcases hasRoom_add room with ⟨pieceRoom, restRoom⟩
      simp only [writeAll, write, pieceRoom, ↓reduceIte]
      rw [ih restRoom, List.flatten_cons, List.append_assoc]

/-- A sink without a limit takes every write. -/
theorem writeAll_of_unlimited (pieces : List Bytes) {sink : Sink}
    (unlimited : sink.capacity = none) :
    sink.writeAll pieces = (.ok (), { sink with bytes := sink.bytes ++ pieces.flatten }) :=
  writeAll_of_hasRoom (by simp [hasRoom, unlimited])

end StationMesh.Host.Sink

namespace StationMesh.Kiss

theorem FrameKind.code_ne_frameEnd (kind : FrameKind) : kind.code ≠ frameEnd := by
  cases kind <;> decide

/-- With room for all of it, what is put on the line is the written form. -/
theorem bytes_write (kind : FrameKind) (payload : Bytes) :
    (write kind payload {}).2.bytes = encode kind payload := by
  rw [write, Host.Sink.writeAll_of_unlimited _ rfl, flatten_pieces]
  rfl

namespace Decoder

variable {capacity : Nat} {decoder next : Decoder capacity}

/-! ### Bytes in a row -/

/-- The decoder after some bytes. -/
def feed (bytes : Bytes) (decoder : Decoder capacity) : Decoder capacity :=
  bytes.foldl (fun decoder byte => (decoder.push byte).2) decoder

/-- What a byte brings: nothing, a cause of failure, or the kind and the payload of the frame that
it completes. -/
def report (byte : UInt8) (decoder : Decoder capacity) :
    Except TransportError (Option (UInt8 × Bytes)) :=
  (decoder.push byte).1.map fun completed =>
    completed.map fun kind => (kind, (decoder.push byte).2.frame)

/-- What each of some bytes brings. -/
def reports : Bytes → Decoder capacity → List (Except TransportError (Option (UInt8 × Bytes)))
  | [], _ => []
  | byte :: rest, decoder => decoder.report byte :: reports rest (decoder.push byte).2

theorem feed_append (bytes more : Bytes) (decoder : Decoder capacity) :
    decoder.feed (bytes ++ more) = (decoder.feed bytes).feed more :=
  List.foldl_append

theorem reports_append (bytes more : Bytes) (decoder : Decoder capacity) :
    decoder.reports (bytes ++ more) =
      decoder.reports bytes ++ (decoder.feed bytes).reports more := by
  induction bytes generalizing decoder with
  | nil => rfl
  | cons byte rest ih =>
      rw [List.cons_append, reports, reports, ih, List.cons_append]
      rfl

/-- The bytes take the decoder on to another state and bring nothing yet. -/
structure Advances (bytes : Bytes) (decoder next : Decoder capacity) : Prop where
  reports_eq : decoder.reports bytes = List.replicate bytes.length (.ok none)
  feed_eq : decoder.feed bytes = next

namespace Advances

theorem nil (decoder : Decoder capacity) : Advances [] decoder decoder := ⟨rfl, rfl⟩

theorem single {byte : UInt8} (pushed : decoder.push byte = (.ok none, next)) :
    Advances [byte] decoder next where
  reports_eq := by simp [reports, report, pushed, Except.map]
  feed_eq := by simp [feed, pushed]

theorem append {bytes more : Bytes} {last : Decoder capacity} (first : Advances bytes decoder next)
    (second : Advances more next last) : Advances (bytes ++ more) decoder last where
  reports_eq := by
    rw [reports_append, first.reports_eq, first.feed_eq, second.reports_eq, List.length_append,
      List.replicate_append_replicate]
  feed_eq := by rw [feed_append, first.feed_eq, second.feed_eq]

end Advances

/-! ### Between two frames -/

/-- A decoder that was not used yet, was reset, or has just reported a frame. -/
inductive BetweenFrames : Decoder capacity → Prop
  | fresh (identifierLength : Nat) : BetweenFrames { identifierLength }
  | reset (decoder : Decoder capacity) : BetweenFrames decoder.reset
  | completed {decoder : Decoder capacity} {byte kind : UInt8}
      (answered : (decoder.push byte).1 = .ok (some kind)) :
      BetweenFrames (decoder.push byte).2

theorem store_ne_some (byte kind : UInt8) (decoder : Decoder capacity) :
    (decoder.store byte).1 ≠ .ok (some kind) := by
  unfold store
  split <;> simp

/-- A frame is completed by the delimiter behind its payload. -/
theorem push_completes_iff {byte kind : UInt8} :
    (decoder.push byte).1 = .ok (some kind) ↔
      decoder.expecting = .payload ∧ byte = frameEnd ∧ decoder.kind = kind := by
  constructor
  · intro answered
    unfold push at answered
    split at answered
    · simp at answered
    · split at answered <;> simp at answered
    · simp at answered
    · rename_i reading
      split at answered
      · rename_i closing
        simp only [Except.ok.injEq, Option.some.injEq] at answered
        exact ⟨reading, closing, answered⟩
      · split at answered
        · simp at answered
        · exact absurd answered (store_ne_some _ _ _)
    · split at answered
      · exact absurd answered (store_ne_some _ _ _)
      · split at answered
        · exact absurd answered (store_ne_some _ _ _)
        · simp at answered
  · rintro ⟨reading, rfl, rfl⟩
    simp [push, reading]

theorem expecting_of_completed {byte kind : UInt8}
    (answered : (decoder.push byte).1 = .ok (some kind)) :
    (decoder.push byte).2.expecting = .kind := by
  rcases push_completes_iff.mp answered with ⟨reading, rfl, _⟩
  simp [push, reading]

theorem BetweenFrames.expecting (between : decoder.BetweenFrames) :
    decoder.expecting = .start ∨ decoder.expecting = .kind := by
  cases between with
  | fresh identifierLength => exact .inl rfl
  | reset decoder => exact .inl rfl
  | completed answered => exact .inr (expecting_of_completed answered)

/-! ### One frame -/

theorem advances_frameEnd (ready : decoder.expecting = .start ∨ decoder.expecting = .kind) :
    Advances [frameEnd] decoder { decoder with expecting := .kind } := by
  apply Advances.single
  rcases ready with ready | ready
  · simp [push, ready]
  · rw [push, ready]
    simp [← ready]

/-- Behind the kind byte the decoder passes over as many bytes as the identifier has. -/
theorem advances_identifier {identifier : Bytes} (plain : frameEnd ∉ identifier)
    (reading : decoder.expecting =
      if identifier.length = 0 then .payload else .identifier identifier.length) :
    Advances identifier decoder { decoder with expecting := .payload } := by
  induction identifier generalizing decoder with
  | nil =>
      simp only [List.length_nil, ↓reduceIte] at reading
      simpa [← reading] using Advances.nil decoder
  | cons byte rest ih =>
      rw [List.mem_cons, not_or] at plain
      have byte_ne : byte ≠ frameEnd := Ne.symm plain.1
      let passed : Decoder capacity := { decoder with
        expecting := if rest.length = 0 then .payload else .identifier rest.length }
      have pushed : decoder.push byte = (.ok none, passed) := by
        have more_iff : 1 < rest.length + 1 ↔ ¬rest.length = 0 := by omega
        simp only [push, reading, List.length_cons, Nat.add_eq_zero_iff, Nat.one_ne_zero, and_false,
          ↓reduceIte, byte_ne, more_iff, Nat.add_sub_cancel, ite_not, passed]
      exact (Advances.single pushed).append (ih plain.2 rfl)

/-- The written form of a payload byte adds the byte to what was gathered. -/
theorem advances_escapeByte (byte : UInt8) (reading : decoder.expecting = .payload)
    (room : decoder.frame.length < capacity) :
    Advances (escapeByte byte) decoder { decoder with frame := decoder.frame ++ [byte] } := by
  have escaped (code : UInt8) (stored : ({ decoder with expecting := .escaped } :
      Decoder capacity).push code = (.ok none, { decoder with frame := decoder.frame ++ [byte] })) :
      Advances [escapeMark, code] decoder { decoder with frame := decoder.frame ++ [byte] } := by
    have marked : decoder.push escapeMark = (.ok none, { decoder with expecting := .escaped }) := by
      have mark_ne : escapeMark ≠ frameEnd := by decide
      simp [push, reading, mark_ne]
    exact (Advances.single marked).append (Advances.single stored)
  have mark_ne : escapedMark ≠ escapedEnd := by decide
  unfold escapeByte escape?
  split
  · rename_i byte_eq
    apply escaped
    simp [push, store, room, reading, byte_eq]
  · split
    · rename_i byte_eq
      apply escaped
      simp [push, store, room, reading, byte_eq, mark_ne]
    · rename_i byte_ne_end byte_ne_mark
      apply Advances.single
      simp [push, store, room, reading, byte_ne_end, byte_ne_mark]

theorem advances_escape {payload : Bytes} (reading : decoder.expecting = .payload)
    (room : decoder.frame.length + payload.length ≤ capacity) :
    Advances (escape payload) decoder { decoder with frame := decoder.frame ++ payload } := by
  induction payload generalizing decoder with
  | nil => simpa [escape] using Advances.nil decoder
  | cons byte rest ih =>
      rw [List.length_cons] at room
      have first := advances_escapeByte byte reading (by omega)
      have restRoom : (decoder.frame ++ [byte]).length + rest.length ≤ capacity := by
        rw [List.length_append, List.length_singleton]
        omega
      have others := @ih { decoder with frame := decoder.frame ++ [byte] } reading restRoom
      simpa [escape] using first.append others

end Decoder

/-! ### Some frames in a row -/

/-- A frame as a host sends it to a decoder of the given capacity: behind the kind byte stand as
many bytes of station identifier as the decoder passes over. -/
structure Sent (capacity identifierLength : Nat) where
  kind : FrameKind
  identifier : Bytes
  payload : Bytes
  identifier_length : identifier.length = identifierLength
  frameEnd_notMem : frameEnd ∉ identifier
  payload_le : payload.length ≤ capacity

namespace Sent

variable {capacity identifierLength : Nat}

/-- The bytes on the line: what is written for the frame, with the identifier behind the kind
byte. -/
def line (sent : Sent capacity identifierLength) : Bytes :=
  let written := (write sent.kind sent.payload {}).2.bytes
  written.take 2 ++ sent.identifier ++ written.drop 2

/-- The last byte brings the frame, and the others bring nothing. -/
def reports (sent : Sent capacity identifierLength) :
    List (Except TransportError (Option (UInt8 × Bytes))) :=
  List.replicate (sent.line.length - 1) (.ok none) ++ [.ok (some (sent.kind.code, sent.payload))]

theorem line_eq (sent : Sent capacity identifierLength) :
    sent.line = ([frameEnd] ++ [sent.kind.code] ++ sent.identifier ++ escape sent.payload) ++
      [frameEnd] := by
  simp [line, bytes_write, encode]

end Sent

namespace Decoder

variable {capacity : Nat} {decoder : Decoder capacity}

/-- All bytes of a frame but the last take the decoder to its end. -/
theorem advances_line (sent : Sent capacity decoder.identifierLength)
    (ready : decoder.expecting = .start ∨ decoder.expecting = .kind) :
    Advances ([frameEnd] ++ [sent.kind.code] ++ sent.identifier ++ escape sent.payload) decoder
      { decoder with expecting := .payload, kind := sent.kind.code, frame := sent.payload } := by
  let behindKind : Decoder capacity := { decoder with
    expecting := if sent.identifier.length = 0 then .payload
      else .identifier sent.identifier.length
    kind := sent.kind.code
    frame := [] }
  let behindIdentifier : Decoder capacity := { behindKind with expecting := .payload }
  have opened := advances_frameEnd ready
  have named : ({ decoder with expecting := .kind } : Decoder capacity).push sent.kind.code =
      (.ok none, behindKind) := by
    simp [push, FrameKind.code_ne_frameEnd, sent.identifier_length, behindKind]
  have passed : Advances sent.identifier behindKind behindIdentifier :=
    advances_identifier sent.frameEnd_notMem rfl
  have gathered : Advances (escape sent.payload) behindIdentifier
      { behindIdentifier with frame := sent.payload } :=
    advances_escape rfl (by simpa [behindIdentifier, behindKind] using sent.payload_le)
  exact ((opened.append (Advances.single named)).append passed).append gathered

/-- One frame is reported with its last byte, and the decoder is ready for the next one. -/
theorem reports_line (sent : Sent capacity decoder.identifierLength)
    (ready : decoder.expecting = .start ∨ decoder.expecting = .kind) :
    decoder.reports sent.line = sent.reports ∧
      decoder.feed sent.line =
        { decoder with expecting := .kind, kind := sent.kind.code, frame := sent.payload } := by
  have advances := advances_line sent ready
  constructor
  · have length_eq : sent.line.length - 1 =
        ([frameEnd] ++ [sent.kind.code] ++ sent.identifier ++ escape sent.payload).length := by
      rw [sent.line_eq, List.length_append, List.length_singleton, Nat.add_sub_cancel]
    rw [Sent.reports, length_eq, sent.line_eq, reports_append, advances.reports_eq,
      advances.feed_eq]
    simp [reports, report, push, Except.map]
  · rw [sent.line_eq, feed_append, advances.feed_eq]
    simp [feed, push]

theorem reports_lines {identifierLength : Nat} (frames : List (Sent capacity identifierLength))
    (length_eq : decoder.identifierLength = identifierLength)
    (ready : decoder.expecting = .start ∨ decoder.expecting = .kind) :
    decoder.reports (frames.flatMap Sent.line) = frames.flatMap Sent.reports := by
  subst length_eq
  -- Each frame is read by another decoder, all of which pass over as many identifier bytes.
  generalize shared : decoder.identifierLength = identifierLength at frames
  induction frames generalizing decoder with
  | nil => rfl
  | cons sent rest ih =>
      subst shared
      rcases reports_line sent ready with ⟨reported, left⟩
      have others : (decoder.feed sent.line).reports (rest.flatMap Sent.line) =
          rest.flatMap Sent.reports := by
        apply ih
        · exact .inr (by rw [left])
        · rw [left]
      rw [List.flatMap_cons, List.flatMap_cons, reports_append, reported, others]

/-- A decoder between two frames reports the frames that are sent to it, each with its last byte,
and nothing else. -/
theorem reports_of_betweenFrames (between : decoder.BetweenFrames)
    (frames : List (Sent capacity decoder.identifierLength)) :
    decoder.reports (frames.flatMap Sent.line) = frames.flatMap Sent.reports :=
  reports_lines frames rfl between.expecting

/-- A frame of delimiters, escapes and their codes behind an identifier with an escape in it, and an
empty command. -/
def delimitersThenNothing : List (Sent 5 2) :=
  [{ kind := .data
     identifier := [0xDB, 0xDC]
     payload := [0xC0, 0xDB, 0xDC, 0xDD, 0xC0]
     identifier_length := rfl
     frameEnd_notMem := by decide
     payload_le := by decide },
    { kind := .localCommand
      identifier := [1, 2]
      payload := []
      identifier_length := rfl
      frameEnd_notMem := by decide
      payload_le := by decide }]

theorem reports_of_betweenFrames_delimiters :
    let used : Decoder 5 := ({ identifierLength := 2 } : Decoder 5).feed [0xC0, 6, 9, 9, 7]
    ((used.push 0xC0).1 = .ok (some 6) ∧ (used.push 0xC0).2.BetweenFrames) ∧
      delimitersThenNothing.flatMap Sent.line =
        [0xC0, 0, 0xDB, 0xDC, 0xDB, 0xDC, 0xDB, 0xDD, 0xDC, 0xDD, 0xDB, 0xDC, 0xC0,
          0xC0, 6, 1, 2, 0xC0] ∧
      (used.push 0xC0).2.reports (delimitersThenNothing.flatMap Sent.line) =
        List.replicate 12 (.ok none) ++ [.ok (some (0, [0xC0, 0xDB, 0xDC, 0xDD, 0xC0]))] ++
          List.replicate 4 (.ok none) ++ [.ok (some (6, []))] := by
  intro used
  have answered : (used.push 0xC0).1 = .ok (some 6) := rfl
  have between : (used.push 0xC0).2.BetweenFrames := .completed answered
  exact ⟨⟨answered, between⟩, by decide,
    reports_of_betweenFrames between delimitersThenNothing⟩

end Decoder

/-! ### Frames without an identifier -/

/-- The frames that were completed, with their kinds. -/
def completed (reports : List (Except TransportError (Option (UInt8 × Bytes)))) :
    List (UInt8 × Bytes) :=
  reports.filterMap fun report => report.toOption.join

namespace Sent

variable {capacity identifierLength : Nat}

theorem completed_reports (sent : Sent capacity identifierLength) :
    completed sent.reports = [(sent.kind.code, sent.payload)] := by
  simp [completed, Sent.reports, Except.toOption]

theorem ok_of_mem_reports {sent : Sent capacity identifierLength}
    {report : Except TransportError (Option (UInt8 × Bytes))} (mem : report ∈ sent.reports) :
    ∃ completed?, report = .ok completed? := by
  rw [Sent.reports, List.mem_append, List.mem_replicate, List.mem_singleton] at mem
  rcases mem with ⟨_, report_eq⟩ | report_eq
  · exact ⟨_, report_eq⟩
  · exact ⟨_, report_eq⟩

/-- A frame without a station identifier. -/
def anonymous (kind : FrameKind) (payload : Bytes) (payload_le : payload.length ≤ capacity) :
    Sent capacity 0 where
  kind := kind
  identifier := []
  payload := payload
  identifier_length := rfl
  frameEnd_notMem := List.not_mem_nil
  payload_le := payload_le

theorem line_anonymous (kind : FrameKind) {payload : Bytes}
    (payload_le : payload.length ≤ capacity) :
    (anonymous kind payload payload_le).line = encode kind payload := by
  rw [line_eq]
  simp [anonymous, encode]

end Sent

/-- A decoder between two frames reads the written form of a frame back. -/
theorem Decoder.reports_encode {capacity : Nat} {decoder : Decoder capacity}
    (between : decoder.BetweenFrames) (anonymous : decoder.identifierLength = 0) (kind : FrameKind)
    {payload : Bytes} (fits : payload.length ≤ capacity) :
    decoder.reports (encode kind payload) =
      List.replicate ((encode kind payload).length - 1) (.ok none) ++
        [.ok (some (kind.code, payload))] := by
  have reported := reports_lines [Sent.anonymous kind payload fits] anonymous between.expecting
  simp only [List.flatMap_singleton, Sent.reports, Sent.line_anonymous] at reported
  exact reported

/-- The written forms of some frames are read back as these frames. -/
theorem Decoder.reports_encoded {capacity : Nat} (kind : FrameKind) {frames : List Bytes}
    (fits : ∀ frame ∈ frames, frame.length ≤ capacity) :
    let reports := ({ identifierLength := 0 } : Decoder capacity).reports
      (frames.flatMap (encode kind))
    (∀ report ∈ reports, ∃ completed?, report = .ok completed?) ∧
      completed reports = frames.map (kind.code, ·) := by
  intro reports
  let sent := frames.pmap (Sent.anonymous kind) fits
  have lines_eq : sent.flatMap Sent.line = frames.flatMap (encode kind) := by
    simp only [sent]
    clear reports sent
    induction frames with
    | nil => rfl
    | cons frame rest ih =>
        rw [List.pmap_cons, List.flatMap_cons, List.flatMap_cons, ih, Sent.line_anonymous]
  have reports_eq : reports = sent.flatMap Sent.reports := by
    simp only [reports, ← lines_eq]
    exact reports_lines sent rfl (.inl rfl)
  rw [reports_eq]
  refine ⟨?_, ?_⟩
  · intro report mem
    rcases List.mem_flatMap.mp mem with ⟨one, _, mem⟩
    exact Sent.ok_of_mem_reports mem
  · have completed_eq : completed (sent.flatMap Sent.reports) =
        sent.map fun one => (one.kind.code, one.payload) := by
      rw [completed, List.filterMap_flatMap, List.map_eq_flatMap]
      exact List.flatMap_congr fun one _ => one.completed_reports
    rw [completed_eq, List.map_pmap]
    exact List.pmap_eq_map (f := (kind.code, ·)) fits

end StationMesh.Kiss
