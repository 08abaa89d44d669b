import StationMesh.Proofs.Kiss.RoundTrip

/-!
# What is reported was on the line

A decoder reports a frame only if the bytes it took end with the written form of that frame,
whatever came before. The bytes that belong to the frame being read are a function of the decoder,
and each byte it takes keeps them the end of the line. An escaped payload holds no delimiter and can
be read in one way only, so that the bytes between two delimiters stand for one payload.
-/

namespace StationMesh.Kiss

/-- The bytes that writing a frame puts on a line with room for all of them. -/
def written (kind : FrameKind) (payload : Bytes) : Bytes := (write kind payload {}).2.bytes

theorem written_eq (kind : FrameKind) (payload : Bytes) :
    written kind payload = [frameEnd, kind.code] ++ escape payload ++ [frameEnd] :=
  bytes_write kind payload

theorem FrameKind.code_of_ofCode? {byte : UInt8} {kind : FrameKind}
    (known : FrameKind.ofCode? byte = some kind) : kind.code = byte := by
  unfold FrameKind.ofCode? at known
  split at known
  · rename_i byte_eq
    simp only [Option.some.injEq] at known
    rw [← known, byte_eq]
    rfl
  · split at known
    · rename_i byte_eq
      simp only [Option.some.injEq] at known
      rw [← known, byte_eq]
      rfl
    · contradiction

/-! ### Escaped payloads -/

theorem escape_concat (payload : Bytes) (byte : UInt8) :
    escape (payload ++ [byte]) = escape payload ++ escapeByte byte := by
  simp [escape]

theorem frameEnd_notMem_escapeByte (byte : UInt8) : frameEnd ∉ escapeByte byte := by
  have marked (code : UInt8) (code_ne : frameEnd ≠ code) : frameEnd ∉ [escapeMark, code] := by
    have mark_ne : frameEnd ≠ escapeMark := by decide
    simp [mark_ne, code_ne]
  unfold escapeByte escape?
  split
  · exact marked escapedEnd (by decide)
  · split
    · exact marked escapedMark (by decide)
    · rename_i byte_ne _
      simpa using Ne.symm byte_ne

theorem frameEnd_notMem_escape (payload : Bytes) : frameEnd ∉ escape payload := by
  rw [escape, List.mem_flatMap]
  rintro ⟨byte, _, mem⟩
  exact frameEnd_notMem_escapeByte byte mem

theorem escape_injective : Function.Injective escape := by
  intro payload other escape_eq
  -- A decoder with room for both gathers from the escaped form what it stands for.
  let reading : Decoder (payload.length + other.length) :=
    { identifierLength := 0, expecting := .payload }
  have gathered : Decoder.Advances (escape payload) reading _ :=
    Decoder.advances_escape rfl (by simp [reading])
  have otherGathered : Decoder.Advances (escape other) reading _ :=
    Decoder.advances_escape rfl (by simp [reading])
  have gathered := gathered.feed_eq
  rw [escape_eq, otherGathered.feed_eq] at gathered
  exact (congrArg Decoder.frame gathered).symm

/-! ### Segments of the line -/

/-- The line ends with this segment between two delimiters. -/
def EndsWithSegment (bytes segment : Bytes) : Prop :=
  frameEnd ∉ segment ∧ [frameEnd] ++ segment ++ [frameEnd] <:+ bytes

theorem eq_of_suffix_segment {segment longer : Bytes} (plain : frameEnd ∉ longer)
    (suffix : [frameEnd] ++ segment ++ [frameEnd] <:+ [frameEnd] ++ longer ++ [frameEnd]) :
    segment = longer := by
  rcases List.suffix_cons_iff.mp suffix with same | ⟨front, front_eq⟩
  · simpa using same
  · -- The opening delimiter of the one would stand within the other.
    have longer_eq : front ++ [frameEnd] ++ segment = longer := by
      apply (List.append_left_inj [frameEnd]).mp
      simpa using front_eq
    exact absurd (by simp [← longer_eq]) plain

theorem EndsWithSegment.unique {bytes segment other : Bytes} (ends : EndsWithSegment bytes segment)
    (otherEnds : EndsWithSegment bytes other) : segment = other := by
  rcases List.suffix_or_suffix_of_suffix ends.2 otherEnds.2 with suffix | suffix
  · exact eq_of_suffix_segment otherEnds.1 suffix
  · exact (eq_of_suffix_segment ends.1 suffix).symm

namespace Decoder

variable {capacity : Nat} {decoder : Decoder capacity}

/-! ### The frame being read -/

/-- The bytes of the frame being read, from its opening delimiter on. -/
def openFrame (decoder : Decoder capacity) : Bytes :=
  match decoder.expecting with
  | .start => []
  | .kind => [frameEnd]
  | .identifier _ => [frameEnd, decoder.kind]
  | .payload => [frameEnd, decoder.kind] ++ escape decoder.frame
  | .escaped => [frameEnd, decoder.kind] ++ escape decoder.frame ++ [escapeMark]

/-- A decoder that passes over no station identifier. -/
structure Anonymous (decoder : Decoder capacity) : Prop where
  identifierLength_eq : decoder.identifierLength = 0
  expecting_ne : ∀ left, decoder.expecting ≠ .identifier left
  kind_ne : decoder.kind ≠ frameEnd

theorem anonymous_fresh : Anonymous ({ identifierLength := 0 } : Decoder capacity) where
  identifierLength_eq := rfl
  expecting_ne _ := by simp
  kind_ne := by
    change (0 : UInt8) ≠ frameEnd
    decide

theorem Anonymous.of_expecting (anonymous : decoder.Anonymous) {expecting : Expecting}
    (expecting_ne : ∀ left, expecting ≠ .identifier left) (frame : Bytes) :
    ({ decoder with expecting, frame } : Decoder capacity).Anonymous :=
  ⟨anonymous.identifierLength_eq, expecting_ne, anonymous.kind_ne⟩

theorem Anonymous.store (anonymous : decoder.Anonymous) (byte : UInt8) :
    (decoder.store byte).2.Anonymous := by
  unfold Decoder.store
  split
  · exact anonymous.of_expecting (by simp) _
  · exact anonymous.of_expecting (by simp) _

theorem openFrame_store_suffix (byte : UInt8) (decoder : Decoder capacity) :
    (decoder.store byte).2.openFrame <:+
      [frameEnd, decoder.kind] ++ escape decoder.frame ++ escapeByte byte := by
  unfold store
  split
  · rw [List.append_assoc, ← escape_concat]
    exact List.suffix_refl _
  · exact List.nil_suffix

/-- What belongs to the frame being read stays the end of the line. -/
theorem Anonymous.push (anonymous : decoder.Anonymous) (byte : UInt8) :
    (decoder.push byte).2.Anonymous ∧
      (decoder.push byte).2.openFrame <:+ decoder.openFrame ++ [byte] := by
  cases reading : decoder.expecting with
  | start =>
      by_cases byte_eq : byte = frameEnd
      · simp only [Decoder.push, reading, byte_eq, ↓reduceIte, openFrame]
        exact ⟨anonymous.of_expecting (by simp) _, List.suffix_refl _⟩
      · simp only [Decoder.push, reading, byte_eq, ↓reduceIte]
        refine ⟨anonymous, ?_⟩
        simp [openFrame, reading]
  | kind =>
      by_cases byte_eq : byte = frameEnd
      · simp only [Decoder.push, reading, byte_eq, ↓reduceIte]
        refine ⟨anonymous, ?_⟩
        simp [openFrame, reading]
      · simp only [Decoder.push, reading, byte_eq, ↓reduceIte, anonymous.identifierLength_eq]
        refine ⟨⟨rfl, by simp, byte_eq⟩, ?_⟩
        simp [openFrame, reading, escape]
  | identifier left => exact absurd reading (anonymous.expecting_ne left)
  | payload =>
      by_cases byte_eq : byte = frameEnd
      · simp only [Decoder.push, reading, byte_eq, ↓reduceIte]
        exact ⟨anonymous.of_expecting (by simp) _, List.suffix_append _ _⟩
      · by_cases byte_mark : byte = escapeMark
        · have mark_ne : escapeMark ≠ frameEnd := by decide
          simp only [Decoder.push, reading, byte_mark, mark_ne, ↓reduceIte]
          refine ⟨anonymous.of_expecting (by simp) _, ?_⟩
          simp [openFrame, reading]
        · simp only [Decoder.push, reading, byte_eq, byte_mark, ↓reduceIte]
          have byte_plain : escapeByte byte = [byte] := by
            simp [escapeByte, escape?, byte_eq, byte_mark]
          have suffix := openFrame_store_suffix byte decoder
          rw [byte_plain] at suffix
          refine ⟨anonymous.store byte, ?_⟩
          simpa [openFrame, reading] using suffix
  | escaped =>
      have openFrame_eq : decoder.openFrame ++ [byte] =
          [frameEnd, decoder.kind] ++ escape decoder.frame ++ [escapeMark, byte] := by
        simp [openFrame, reading]
      rw [openFrame_eq]
      by_cases byte_end : byte = escapedEnd
      · simp only [Decoder.push, reading, byte_end, ↓reduceIte]
        exact ⟨anonymous.store frameEnd, openFrame_store_suffix frameEnd decoder⟩
      · by_cases byte_mark : byte = escapedMark
        · have mark_ne : escapedMark ≠ escapedEnd := by decide
          simp only [Decoder.push, reading, byte_mark, mark_ne, ↓reduceIte]
          exact ⟨anonymous.store escapeMark, openFrame_store_suffix escapeMark decoder⟩
        · simp only [Decoder.push, reading, byte_end, byte_mark, ↓reduceIte]
          exact ⟨anonymous.of_expecting (by simp) _, List.nil_suffix⟩

theorem Anonymous.feed (anonymous : decoder.Anonymous) {line : Bytes}
    (ends : decoder.openFrame <:+ line) (bytes : Bytes) :
    (decoder.feed bytes).Anonymous ∧ (decoder.feed bytes).openFrame <:+ line ++ bytes := by
  induction bytes generalizing decoder line with
  | nil => simpa [Decoder.feed] using And.intro anonymous ends
  | cons byte rest ih =>
      rcases anonymous.push byte with ⟨pushed, pushed_suffix⟩
      have pushed_ends : (decoder.push byte).2.openFrame <:+ line ++ [byte] :=
        pushed_suffix.trans (List.suffix_append_self_iff.mpr ends)
      simpa [Decoder.feed] using ih pushed pushed_ends

theorem anonymous_feed (bytes : Bytes) :
    (({ identifierLength := 0 } : Decoder capacity).feed bytes).Anonymous :=
  (anonymous_fresh.feed (List.suffix_refl _) bytes).1

theorem openFrame_feed_suffix (bytes : Bytes) :
    (({ identifierLength := 0 } : Decoder capacity).feed bytes).openFrame <:+ bytes :=
  (anonymous_fresh.feed (List.suffix_refl _) bytes).2

/-! ### Reported frames -/

theorem report_eq_some_iff {byte kind : UInt8} {payload : Bytes} :
    decoder.report byte = .ok (some (kind, payload)) ↔
      decoder.expecting = .payload ∧ byte = frameEnd ∧ decoder.kind = kind ∧
        decoder.frame = payload := by
  constructor
  · intro reported
    cases answered : (decoder.push byte).1 with
    | error cause => simp [report, answered, Except.map] at reported
    | ok completed =>
        cases completed with
        | none => simp [report, answered, Except.map] at reported
        | some known =>
            rcases push_completes_iff.mp answered with ⟨reading, rfl, rfl⟩
            simp only [report, answered, Except.map, Option.map_some, Except.ok.injEq,
              Option.some.injEq, Prod.mk.injEq] at reported
            refine ⟨reading, rfl, reported.1, ?_⟩
            simpa [push, reading] using reported.2
  · rintro ⟨reading, rfl, rfl, rfl⟩
    simp [report, push, reading, Except.map]

/-- The last of some bytes brings a frame of this kind and payload. -/
def Completes (decoder : Decoder capacity) (bytes : Bytes) (kind : UInt8) (payload : Bytes) :
    Prop :=
  (decoder.reports bytes).getLast? = some (.ok (some (kind, payload)))

theorem completes_concat {bytes payload : Bytes} {byte kind : UInt8} :
    decoder.Completes (bytes ++ [byte]) kind payload ↔
      (decoder.feed bytes).report byte = .ok (some (kind, payload)) := by
  rw [Completes, reports_append]
  simp [reports]

theorem endsWithSegment_of_completes {bytes payload : Bytes} {kind : UInt8}
    (completes : ({ identifierLength := 0 } : Decoder capacity).Completes bytes kind payload) :
    EndsWithSegment bytes (kind :: escape payload) := by
  rcases bytes.eq_nil_or_concat with rfl | ⟨front, byte, rfl⟩
  · contradiction
  · rw [List.concat_eq_append] at completes ⊢
    have suffix : (({ identifierLength := 0 } : Decoder capacity).feed front).openFrame <:+ front :=
      openFrame_feed_suffix front
    rcases report_eq_some_iff.mp (completes_concat.mp completes) with ⟨reading, rfl, rfl, rfl⟩
    constructor
    · rw [List.mem_cons, not_or]
      exact ⟨Ne.symm (anonymous_feed front).kind_ne, frameEnd_notMem_escape _⟩
    · have ends : _ ++ [frameEnd] <:+ front ++ [frameEnd] :=
        List.suffix_append_self_iff.mpr suffix
      simpa [openFrame, reading] using ends

/-- Whatever bytes a new decoder takes, when it reports a frame they end with the written form of
that frame, which holds no delimiter but the two around it. Whenever the same bytes between two
delimiters are accepted again, by any decoder, they stand for the same frame. -/
theorem written_suffix_of_completes {bytes payload : Bytes} {kind : UInt8}
    (completes : ({ identifierLength := 0 } : Decoder capacity).Completes bytes kind payload) :
    [frameEnd, kind] ++ escape payload ++ [frameEnd] <:+ bytes ∧
      frameEnd ∉ escape payload ∧
      (∀ known, FrameKind.ofCode? kind = some known → written known payload <:+ bytes) ∧
      ∀ (otherCapacity : Nat) (otherBytes otherPayload segment : Bytes) (otherKind : UInt8),
        ({ identifierLength := 0 } : Decoder otherCapacity).Completes otherBytes otherKind
            otherPayload →
          EndsWithSegment bytes segment → EndsWithSegment otherBytes segment →
            otherKind = kind ∧ otherPayload = payload := by
  have ends := endsWithSegment_of_completes completes
  refine ⟨ends.2, frameEnd_notMem_escape payload, ?_, ?_⟩
  · intro known code_eq
    rw [written_eq, FrameKind.code_of_ofCode? code_eq]
    exact ends.2
  · intro otherCapacity otherBytes otherPayload segment otherKind otherCompletes here there
    have otherEnds := endsWithSegment_of_completes otherCompletes
    have same : otherKind :: escape otherPayload = kind :: escape payload :=
      (otherEnds.unique there).trans (here.unique ends)
    rw [List.cons.injEq] at same
    exact ⟨same.1, escape_injective same.2⟩

/-- Noise, a frame with a wrong escape, one that is too long, fill, and a command of a delimiter and
an escape without its last byte. -/
def noiseThenCommand : Bytes :=
  [9, 0xDB, 0xC0, 0, 1, 0xDB, 7, 5, 0xC0, 0, 1, 2, 3, 0xC0, 0xC0, 6, 0xDB, 0xDC, 0xDB, 0xDD]

theorem written_suffix_of_completes_noiseThenCommand :
    let decoder : Decoder 2 := { identifierLength := 0 }
    decoder.Completes (noiseThenCommand ++ [frameEnd]) 6 [0xC0, 0xDB] ∧
      written .localCommand [0xC0, 0xDB] <:+ noiseThenCommand ++ [frameEnd] := by
  intro decoder
  have gathered : decoder.feed noiseThenCommand =
      { decoder with expecting := .payload, kind := 6, frame := [0xC0, 0xDB] } := by
    decide
  have completes : decoder.Completes (noiseThenCommand ++ [frameEnd]) 6 [0xC0, 0xDB] := by
    rw [completes_concat, gathered]
    exact report_eq_some_iff.mpr ⟨rfl, rfl, rfl, rfl⟩
  exact ⟨completes, (written_suffix_of_completes completes).2.2.1 .localCommand rfl⟩

end Decoder

end StationMesh.Kiss
