import StationMesh.Proofs.Kiss.Soundness

/-!
# Reading on after noise

Whatever a decoder has taken before, the delimiter in front of a frame makes it ready for the frame,
and the frame is reported with its last byte. There is one exception: a decoder that waits for the
second byte of an escape takes the delimiter for a wrong one. It drops what it gathered, passes over
the frame as over noise, and is ready for the next one.
-/

namespace StationMesh.Kiss.Decoder

variable {capacity : Nat} {decoder : Decoder capacity}

theorem push_frameEnd (intact : decoder.expecting ≠ .escaped) :
    (decoder.push frameEnd).2 = { decoder with expecting := .kind } := by
  cases reading : decoder.expecting with
  | start => simp [push, reading]
  | kind =>
      rw [push, reading]
      simp [← reading]
  | identifier left => simp [push, reading]
  | payload => simp [push, reading]
  | escaped => exact absurd reading intact

/-- A frame is reported with its last byte unless its first one is taken for the second byte of an
escape. -/
theorem completes_line (sent : Sent capacity decoder.identifierLength)
    (intact : decoder.expecting ≠ .escaped) :
    decoder.Completes sent.line sent.kind.code sent.payload := by
  let ready : Decoder capacity := { decoder with expecting := .kind }
  -- Behind the delimiter it makes no difference whether the decoder was ready in front of it.
  have opened (rest : Bytes) :
      decoder.feed ([frameEnd] ++ rest) = ready.feed ([frameEnd] ++ rest) := by
    rw [feed_append, feed_append]
    change feed rest (decoder.push frameEnd).2 = feed rest (ready.push frameEnd).2
    rw [push_frameEnd intact, push_frameEnd (by simp [ready])]
  have gathered : Advances _ ready _ :=
    advances_line (show Sent capacity ready.identifierLength from sent) (.inr rfl)
  have gathered := gathered.feed_eq
  rw [List.append_assoc, List.append_assoc, ← opened] at gathered
  rw [sent.line_eq, completes_concat, List.append_assoc, List.append_assoc, gathered]
  exact report_eq_some_iff.mpr ⟨rfl, rfl, rfl, rfl⟩

/-! ### An escape that was begun -/

theorem advances_noise {bytes : Bytes} (waiting : decoder.expecting = .start)
    (noise : frameEnd ∉ bytes) : Advances bytes decoder decoder := by
  induction bytes with
  | nil => exact Advances.nil decoder
  | cons byte rest ih =>
      rw [List.mem_cons, not_or] at noise
      have passed : decoder.push byte = (.ok none, decoder) := by
        simp [push, waiting, Ne.symm noise.1]
      exact (Advances.single passed).append (ih noise.2)

/-- A frame whose delimiter is taken for the second byte of an escape is passed over. -/
theorem reports_written_of_escaped (broken : decoder.expecting = .escaped) (kind : FrameKind)
    (payload : Bytes) :
    decoder.reports (written kind payload) =
      .error .framing :: List.replicate ((escape payload).length + 2) (.ok none) := by
  have wrong : decoder.push frameEnd = (.error .framing, decoder.reset) := by
    have end_ne : frameEnd ≠ escapedEnd := by decide
    have mark_ne : frameEnd ≠ escapedMark := by decide
    simp [push, broken, end_ne, mark_ne]
  have inside : frameEnd ∉ [kind.code] ++ escape payload := by
    simp [Ne.symm kind.code_ne_frameEnd, frameEnd_notMem_escape]
  have passed : Advances ([kind.code] ++ escape payload ++ [frameEnd]) decoder.reset
      { decoder.reset with expecting := .kind } :=
    (advances_noise rfl inside).append (advances_frameEnd (.inl rfl))
  rw [written_eq]
  change decoder.report frameEnd ::
    (decoder.push frameEnd).2.reports ([kind.code] ++ escape payload ++ [frameEnd]) = _
  rw [wrong, passed.reports_eq]
  simp [report, wrong, Except.map]

theorem not_completes_of_escaped (broken : decoder.expecting = .escaped) (kind : FrameKind)
    (payload : Bytes) : ¬decoder.Completes (written kind payload) kind.code payload := by
  intro completes
  rw [Completes, reports_written_of_escaped broken] at completes
  have reported := List.mem_of_getLast? completes
  simp [List.mem_replicate] at reported

theorem completes_written_iff (anonymous : decoder.Anonymous) (kind : FrameKind) {payload : Bytes}
    (fits : payload.length ≤ capacity) :
    decoder.Completes (written kind payload) kind.code payload ↔ decoder.expecting ≠ .escaped := by
  constructor
  · intro completes broken
    exact not_completes_of_escaped broken kind payload completes
  · intro intact
    let sent : Sent capacity decoder.identifierLength :=
      { kind, payload
        identifier := []
        identifier_length := anonymous.identifierLength_eq.symm
        frameEnd_notMem := List.not_mem_nil
        payload_le := fits }
    have line_eq : written kind payload = sent.line := by
      rw [written_eq, sent.line_eq]
      rfl
    rw [line_eq]
    exact completes_line sent intact

theorem exists_brokenOff_of_escaped {bytes : Bytes}
    (broken : (({ identifierLength := 0 } : Decoder capacity).feed bytes).expecting = .escaped) :
    ∃ opened gathered, opened ≠ frameEnd ∧
      [frameEnd, opened] ++ escape gathered ++ [escapeMark] <:+ bytes := by
  have suffix : (({ identifierLength := 0 } : Decoder capacity).feed bytes).openFrame <:+ bytes :=
    openFrame_feed_suffix bytes
  rw [openFrame, broken] at suffix
  exact ⟨_, _, (anonymous_feed bytes).kind_ne, suffix⟩

/-- Behind a whole frame, reported or not, no escape is left half read. -/
theorem expecting_ne_escaped_behind_written (noise : Bytes) (kind : FrameKind) (payload : Bytes) :
    (({ identifierLength := 0 } : Decoder capacity).feed
      (noise ++ written kind payload)).expecting ≠ .escaped := by
  intro broken
  rcases exists_brokenOff_of_escaped broken with ⟨opened, gathered, _, suffix⟩
  rw [written_eq, ← List.append_assoc] at suffix
  -- The line ends with a delimiter, and not with an escape mark.
  have last_eq := ((List.suffix_append_inj_of_length_eq (by rfl)).mp suffix).2
  exact absurd last_eq (by decide)

/-- After any noise a new decoder reports a frame with its last byte exactly if it does not wait for
the second byte of an escape. If it does, the noise ends with a frame that was broken off behind an
escape mark. Behind one more frame, whatever its length and whether or not it was reported, every
frame is reported. -/
theorem completes_after_noise (noise : Bytes) (kind : FrameKind) {payload : Bytes}
    (fits : payload.length ≤ capacity) :
    let decoder := ({ identifierLength := 0 } : Decoder capacity).feed noise
    (decoder.Completes (written kind payload) kind.code payload ↔
        decoder.expecting ≠ .escaped) ∧
      (decoder.expecting = .escaped → ∃ opened gathered, opened ≠ frameEnd ∧
        [frameEnd, opened] ++ escape gathered ++ [escapeMark] <:+ noise) ∧
      ∀ earlierKind earlier,
        (decoder.feed (written earlierKind earlier)).Completes (written kind payload) kind.code
          payload := by
  intro decoder
  refine ⟨completes_written_iff (anonymous_feed noise) kind fits, exists_brokenOff_of_escaped, ?_⟩
  intro earlierKind earlier
  rw [← feed_append]
  apply (completes_written_iff (anonymous_feed _) kind fits).mpr
  exact expecting_ne_escaped_behind_written noise earlierKind earlier

/-- Noise that ends with an escape mark, but behind a frame that was too long. -/
theorem completes_after_noise_overlong :
    let decoder := ({ identifierLength := 0 } : Decoder 2).feed [0xC0, 0, 1, 2, 3, 0xDB]
    (([0xC0, 7] : Bytes).length ≤ 2 ∧ decoder.expecting ≠ .escaped) ∧
      decoder.Completes (written .data [0xC0, 7]) 0 [0xC0, 7] := by
  intro decoder
  have fits : ([0xC0, 7] : Bytes).length ≤ 2 := by decide
  have intact : decoder.expecting ≠ .escaped := by decide
  have completes := completes_after_noise [0xC0, 0, 1, 2, 3, 0xDB] .data fits
  exact ⟨⟨fits, intact⟩, completes.1.mpr intact⟩

/-- A frame that is broken off behind an escape mark takes the next one with it. -/
theorem not_completes_after_brokenEscape :
    let decoder := ({ identifierLength := 0 } : Decoder 4).feed [0xC0, 0, 0xDB]
    written .data [7] = [0xC0, 0, 7, 0xC0] ∧ ([7] : Bytes).length ≤ 4 ∧
      ¬decoder.Completes (written .data [7]) FrameKind.data.code [7] := by
  intro decoder
  have broken : decoder.expecting = .escaped := by decide
  exact ⟨by decide, by decide, not_completes_of_escaped broken .data [7]⟩

end StationMesh.Kiss.Decoder
