import StationMesh.Host.Reader
import StationMesh.Proofs.Kiss.RoundTrip

/-!
# A reader is a decoder with timeouts

To a reader the line comes to bytes and pauses. A pause is as long as the timeout, and begins with
the byte or the pause before it; a byte that comes just when a pause ends is still in time, and
there is no pause then. However the calls of a reader fall, their answers are those of one decoder
that takes the bytes one after the other and is reset in each pause. Each pause is answered by one
timeout, and so is every call behind the last byte.
-/

namespace StationMesh

theorem Kiss.Decoder.identifierLength_push {capacity : Nat} (byte : UInt8)
    (decoder : Decoder capacity) :
    (decoder.push byte).2.identifierLength = decoder.identifierLength := by
  grind [Decoder.push, Decoder.store, Decoder.reset]

namespace Host

/-- What is to be heard on the line. -/
inductive LineEvent where
  | byte (byte : UInt8)
  /-- Nothing, for as long as the timeout. -/
  | pause
deriving DecidableEq, Repr

/-- What is heard of the bytes to come, where the last byte or pause was over at the given time.
With a timeout of 0 nothing is heard of a byte that is still to come, for no pause takes any time.
-/
def heard (timeout : Nat) : (mark : Nat) → List Arrival → List LineEvent
  | _, [] => []
  | mark, arrival :: rest =>
      if timeout = 0 ∧ mark < arrival.time then
        []
      else
        List.replicate ((arrival.time - mark - 1) / timeout) .pause ++
          .byte arrival.byte :: heard timeout (max mark arrival.time) rest

/-- What a byte brings to one who waits for a frame. -/
def answer? : Except TransportError (Option (UInt8 × Bytes)) →
    Option (Except TransportError Frame)
  | .ok completed => completed.map fun (kind, payload) => .ok { kind, payload }
  | .error cause => some (.error cause)

/-- What a decoder answers to what is heard, if it is reset in each pause. -/
def answers : List LineEvent → Kiss.Decoder maxPayload → List (Except TransportError Frame)
  | [], _ => []
  | .byte byte :: rest, decoder =>
      (answer? (decoder.report byte)).toList ++ answers rest (decoder.push byte).2
  | .pause :: rest, decoder => .error .timeout :: answers rest decoder.reset

/-- The answers of some calls, each made when the one before has answered. -/
def Reader.readFrames : (count now : Nat) → Reader → List (Except TransportError Frame)
  | 0, _, _ => []
  | count + 1, now, reader =>
      let (answer, now, reader) := reader.readFrame now
      answer :: readFrames count now reader

/-! ### Bytes and pauses -/

section Hearing

variable {timeout mark : Nat} {arrival : Arrival} {rest : List Arrival}

/-- A byte that comes after some pauses, and not later than the next one would end. -/
theorem heard_cons_of_pauses {pauses : Nat}
    (late : pauses = 0 ∨ mark + pauses * timeout < arrival.time)
    (inTime : arrival.time ≤ mark + (pauses + 1) * timeout) :
    heard timeout mark (arrival :: rest) = List.replicate pauses .pause ++
      .byte arrival.byte :: heard timeout (max mark arrival.time) rest := by
  rw [Nat.succ_mul] at inTime
  have patient : ¬(timeout = 0 ∧ mark < arrival.time) := by
    rintro ⟨rfl, later⟩
    omega
  -- The last pause ends before the byte comes, and not with it: hence the 1.
  have pauses_eq : (arrival.time - mark - 1) / timeout = pauses := by
    rcases Nat.eq_zero_or_pos timeout with rfl | positive
    · rw [Nat.div_zero]
      omega
    · rw [Nat.div_eq_iff positive]
      rcases late with rfl | late
      · omega
      · omega
  rw [heard, if_neg patient, pauses_eq]

theorem heard_cons_of_le (inTime : arrival.time ≤ mark + timeout) :
    heard timeout mark (arrival :: rest) =
      .byte arrival.byte :: heard timeout (max mark arrival.time) rest :=
  heard_cons_of_pauses (.inl rfl) (by omega)

theorem heard_cons_of_lt (positive : 0 < timeout) (late : mark + timeout < arrival.time) :
    heard timeout mark (arrival :: rest) =
      .pause :: heard timeout (mark + timeout) (arrival :: rest) := by
  have patient : timeout ≠ 0 := Nat.ne_of_gt positive
  have pauses_eq : (arrival.time - mark - 1) / timeout =
      (arrival.time - (mark + timeout) - 1) / timeout + 1 := by
    rw [← Nat.add_div_right _ positive]
    congr 1
    omega
  have mark_eq : max mark arrival.time = max (mark + timeout) arrival.time := by omega
  simp only [heard, patient, false_and, ↓reduceIte]
  rw [pauses_eq, mark_eq, List.replicate_succ, List.cons_append]

end Hearing

/-! ### A decoder that is reset -/

section Answering

theorem answers_bytes (bytes : Bytes) (decoder : Kiss.Decoder maxPayload) :
    answers (bytes.map .byte) decoder = (decoder.reports bytes).filterMap answer? := by
  induction bytes generalizing decoder with
  | nil => rfl
  | cons byte rest ih =>
      rw [List.map_cons, answers, ih, Kiss.Decoder.reports, List.filterMap_cons]
      cases answer? (decoder.report byte) with
      | none => rfl
      | some answer => rfl

/-- Until it takes the next one, a decoder has no use for the kind byte. -/
theorem answers_withKind (events : List LineEvent) (decoder : Kiss.Decoder maxPayload)
    (waiting : decoder.expecting = .start ∨ decoder.expecting = .kind) (kind : UInt8) :
    answers events { decoder with kind } = answers events decoder := by
  induction events generalizing decoder with
  | nil => rfl
  | cons event rest ih =>
      rcases decoder with ⟨length, expecting, known, frame⟩
      cases event with
      | pause => exact congrArg (List.cons _) (ih ⟨length, .start, known, []⟩ (.inl rfl))
      | byte byte =>
          simp only [answers, Kiss.Decoder.report]
          rcases waiting with rfl | rfl
          · by_cases opens : byte = Kiss.frameEnd
            · simp only [Kiss.Decoder.push, opens, ↓reduceIte]
              exact congrArg _ (ih ⟨length, .kind, known, frame⟩ (.inr rfl))
            · simp only [Kiss.Decoder.push, opens, ↓reduceIte]
              exact congrArg _ (ih ⟨length, .start, known, frame⟩ (.inl rfl))
          · by_cases fill : byte = Kiss.frameEnd
            · simp only [Kiss.Decoder.push, fill, ↓reduceIte]
              exact congrArg _ (ih ⟨length, .kind, known, frame⟩ (.inr rfl))
            · simp only [Kiss.Decoder.push, fill, ↓reduceIte]

/-- Nothing of what was heard before a pause is left behind it. -/
theorem answers_pause (before after : List LineEvent) (decoder : Kiss.Decoder maxPayload) :
    answers (before ++ .pause :: after) decoder = answers before decoder ++
      .error .timeout :: answers after { identifierLength := decoder.identifierLength } := by
  induction before generalizing decoder with
  | nil =>
      exact congrArg (List.cons _) (answers_withKind after decoder.reset (.inl rfl) 0).symm
  | cons event rest ih =>
      cases event with
      | pause => exact congrArg (List.cons _) (ih decoder.reset)
      | byte byte =>
          rw [List.cons_append, answers, answers, ih, Kiss.Decoder.identifierLength_push,
            List.append_assoc]

end Answering

namespace Reader

/-! ### Calls -/

/-- How collecting one frame ended: with the first answer to what was heard, or with a timeout if
there is none. -/
theorem collect_cases (timeout : Nat) (arrivals : List Arrival) (now : Nat)
    (decoder : Kiss.Decoder maxPayload) :
    let outcome := collect timeout arrivals now decoder
    let later := answers (heard timeout outcome.now outcome.arrivals) outcome.decoder
    answers (heard timeout now arrivals) decoder = outcome.answer :: later ∨
      (answers (heard timeout now arrivals) decoder = [] ∧ outcome.answer = .error .timeout ∧
        later = []) := by
  induction arrivals generalizing now decoder with
  | nil => exact .inr ⟨rfl, rfl, rfl⟩
  | cons arrival rest ih =>
      by_cases inTime : arrival.time ≤ now + timeout
      · rw [heard_cons_of_le inTime]
        simp only [collect, inTime, ↓reduceIte, answers, Kiss.Decoder.report]
        rcases decoder.push arrival.byte with ⟨cause | _ | kind, next⟩
        · exact .inl rfl
        · exact ih (max now arrival.time) next
        · exact .inl rfl
      · simp only [collect, inTime, ↓reduceIte]
        rcases Nat.eq_zero_or_pos timeout with rfl | positive
        · -- The byte is never reached, however often the reader gives up.
          have later : now < arrival.time := Nat.lt_of_not_le inTime
          have nothing : heard 0 now (arrival :: rest) = [] := by
            rw [heard, if_pos ⟨rfl, later⟩]
          rw [Nat.add_zero, nothing]
          exact .inr ⟨rfl, trivial, rfl⟩
        · rw [heard_cons_of_lt positive (Nat.lt_of_not_le inTime)]
          exact .inl rfl

theorem readFrames_eq_takeD (count now : Nat) (reader : Reader) :
    reader.readFrames count now =
      (answers (heard reader.timeout now reader.arrivals) reader.decoder).takeD count
        (.error .timeout) := by
  induction count generalizing now reader with
  | zero => rfl
  | succ count ih =>
      rw [readFrames, List.takeD_succ]
      simp only [readFrame, ih]
      rcases collect_cases reader.timeout reader.arrivals now reader.decoder with
        answers_eq | ⟨answers_eq, answer_eq, later_eq⟩
      · rw [answers_eq]
        rfl
      · rw [answers_eq, answer_eq, later_eq]
        rfl

/-- Whatever a reader is to hear and however often it is called, its answers are those of one
decoder to what is heard, and timeouts behind them. To bytes alone a decoder answers what it
reports. In a pause it answers one timeout, and what it answers behind the pause is what a new
decoder would. Each byte is heard behind as many pauses as had ended before it came, so behind none
if it comes just when the first one ends. -/
theorem readFrames_eq_answers (count now : Nat) (reader : Reader) :
    reader.readFrames count now =
        (answers (heard reader.timeout now reader.arrivals) reader.decoder).takeD count
          (.error .timeout) ∧
      (∀ bytes : Bytes, answers (bytes.map .byte) reader.decoder =
        (reader.decoder.reports bytes).filterMap answer?) ∧
      (∀ before after : List LineEvent, answers (before ++ .pause :: after) reader.decoder =
        answers before reader.decoder ++ .error .timeout ::
          answers after { identifierLength := reader.decoder.identifierLength }) ∧
      ∀ (mark pauses : Nat) (arrival : Arrival) (rest : List Arrival),
        (pauses = 0 ∨ mark + pauses * reader.timeout < arrival.time) →
          arrival.time ≤ mark + (pauses + 1) * reader.timeout →
            heard reader.timeout mark (arrival :: rest) = List.replicate pauses .pause ++
              .byte arrival.byte :: heard reader.timeout (max mark arrival.time) rest := by
  refine ⟨readFrames_eq_takeD count now reader, ?_, ?_, ?_⟩
  · intro bytes
    exact answers_bytes bytes reader.decoder
  · intro before after
    exact answers_pause before after reader.decoder
  · intro mark pauses arrival rest late inTime
    exact heard_cons_of_pauses late inTime

/-- A line that stays quiet just as long as it may, and then too long behind an escape mark. The
byte that would have completed the escape is noise to the decoder, and the frame behind it is
whole. -/
theorem readFrames_eq_answers_longPause :
    let begun : List Arrival := [⟨5, 0xC0⟩, ⟨5, 0⟩, ⟨10, 0xDB⟩]
    let resumed : List Arrival := [⟨22, 0xC0⟩, ⟨22, 6⟩, ⟨23, 0x4E⟩, ⟨23, 0xC0⟩]
    let reader := Reader.new (begun ++ ⟨21, 0xDC⟩ :: resumed) 5 0
    heard 5 10 (⟨21, 0xDC⟩ :: resumed) = [.pause, .pause, .byte 0xDC] ++ heard 5 21 resumed ∧
      reader.readFrames 4 0 =
        [.error .timeout, .error .timeout, .ok ⟨6, [0x4E]⟩, .error .timeout] := by
  intro begun resumed reader
  rcases readFrames_eq_answers 4 0 reader with ⟨readFrames_eq, _, _, heard_eq⟩
  refine ⟨heard_eq 10 2 ⟨21, 0xDC⟩ resumed (by decide) (by decide), ?_⟩
  rw [readFrames_eq]
  decide +kernel

end Reader

end Host

end StationMesh
