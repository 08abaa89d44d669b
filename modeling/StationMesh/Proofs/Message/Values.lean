import StationMesh.Proofs.Message.Delivery
import StationMesh.Proofs.Message.Reading

/-!
# Typed values survive both lines

The written form of an integer is read back as the integer, for every format and every value in its
range. So values that are appended to a message one after the other are read back, in order, from
the bytes of the message, and nothing is left behind them. These bytes are the frame in the outbox
when the message goes over the radio, and the payload that a decoder reports when it goes to the
host.
-/

namespace StationMesh

/-! ### One value -/

namespace WireType

instance (type : WireType) (value : Int) : Decidable (type.InRange value) :=
  inferInstanceAs (Decidable (if type.isSigned then _ else _))

theorem width_pos (type : WireType) : 0 < type.width := by
  cases type <;> decide

theorem modulus_eq_double (type : WireType) : type.modulus = 2 * (type.modulus / 2) := by
  cases type <;> rfl

theorem modulus_pos (type : WireType) : 0 < type.modulus := by
  cases type <;> decide

/-- Read without a sign, the written form is the value up to a multiple of the modulus. -/
theorem toNat_encode (type : WireType) (value : Int) :
    (Bytes.toNat (type.encode value) : Int) = value % type.modulus := by
  have positive : (0 : Int) < type.modulus := by exact_mod_cast type.modulus_pos
  have nonneg := Int.emod_nonneg value (Int.ne_of_gt positive)
  have lt := Int.emod_lt_of_pos value positive
  have below : (value % type.modulus).toNat < Bytes.bound type.width := by
    change (value % type.modulus).toNat < type.modulus
    omega
  rw [encode, Bytes.toNat_ofNat, Nat.mod_eq_of_lt below]
  exact Int.toNat_of_nonneg nonneg

theorem decode_encode {type : WireType} {value : Int} (inRange : type.InRange value) :
    type.decode (type.encode value) = value := by
  have written := type.toNat_encode value
  have double := type.modulus_eq_double
  simp only [InRange] at inRange
  simp only [decode]
  by_cases negative : value < 0
  · -- Only a signed format has negative values; they are written one modulus higher.
    have signed : type.isSigned = true := by
      by_contra unsigned
      simp only [unsigned, if_false] at inRange
      omega
    simp only [signed, if_true] at inRange
    have shifted : value % type.modulus = value + type.modulus := by
      rw [← Int.add_emod_right]
      exact Int.emod_eq_of_lt (by omega) (by omega)
    have high : type.modulus ≤ 2 * Bytes.toNat (type.encode value) := by omega
    simp only [signed, high, decide_true, Bool.and_self, if_true]
    omega
  · have below : value < type.modulus := by
      split at inRange <;> omega
    have same : value % type.modulus = value := Int.emod_eq_of_lt (by omega) below
    have low : type.isSigned = true → ¬type.modulus ≤ 2 * Bytes.toNat (type.encode value) := by
      intro signed
      simp only [signed, if_true] at inRange
      omega
    rw [if_neg (by simpa using low)]
    omega

end WireType

/-- An integer with the format it is written in. -/
structure WireValue where
  type : WireType
  value : Int
  inRange : type.InRange value

namespace WireValue

/-- How many bytes some values take. -/
def totalWidth (values : List WireValue) : Nat :=
  values.foldr (fun value total => value.type.width + total) 0

/-- The written forms of some values, one behind the other. -/
def encodeAll (values : List WireValue) : Bytes :=
  values.flatMap fun value => value.type.encode value.value

theorem length_encodeAll (values : List WireValue) :
    (encodeAll values).length = totalWidth values := by
  induction values with
  | nil => rfl
  | cons value values ih =>
      simp only [encodeAll, totalWidth, List.flatMap_cons, List.length_append, List.foldr_cons,
        WireType.length_encode] at ih ⊢
      omega

end WireValue

open WireValue

/-! ### Values in a row -/

namespace Draft

variable {κ : Type}

/-- Appends some values, one after the other. -/
def appendValues : List WireValue → Draft κ → Except TransportError (Draft κ)
  | [], draft => .ok draft
  | value :: values, draft =>
      match draft.appendValue value.type value.value with
      | .ok draft => appendValues values draft
      | .error error => .error error

/-- Values are appended if all of them fit. -/
theorem appendValues_eq_ok {values : List WireValue} {draft : Draft κ}
    (isOpen : draft.isOpen = true)
    (fits : draft.bytes.length + totalWidth values ≤ capacity) :
    draft.appendValues values = .ok { draft with bytes := draft.bytes ++ encodeAll values } := by
  induction values generalizing draft with
  | nil => simp [appendValues, encodeAll]
  | cons value values ih =>
      simp only [totalWidth, List.foldr_cons] at fits ih
      have room : draft.bytes.length + (value.type.encode value.value).length ≤ capacity := by
        rw [WireType.length_encode]
        omega
      have appended : draft.appendValue value.type value.value =
          .ok { draft with bytes := draft.bytes ++ value.type.encode value.value } := by
        rw [appendValue, append_of_open isOpen, if_pos room]
      have others := @ih { draft with bytes := draft.bytes ++ value.type.encode value.value } isOpen
        (by simp only [List.length_append, WireType.length_encode]; omega)
      simpa [appendValues, appended, encodeAll] using others

end Draft

namespace Cursor

/-- Reads values of the given formats, one after the other. -/
def readValues : List WireType → Cursor → Except TransportError (List Int × Cursor)
  | [], cursor => .ok ([], cursor)
  | type :: types, cursor =>
      match cursor.readValue type with
      | .error error => .error error
      | .ok (value, cursor) =>
          match readValues types cursor with
          | .error error => .error error
          | .ok (values, cursor) => .ok (value :: values, cursor)

theorem readValue_of_rest_eq_append {cursor : Cursor} {type : WireType} {value : Int}
    {later : Bytes} (inRange : type.InRange value)
    (rest_eq : cursor.rest = type.encode value ++ later) :
    ∃ left, cursor.readValue type = .ok (value, left) ∧ left.rest = later := by
  have nonempty : type.encode value ≠ [] := by
    apply List.ne_nil_of_length_pos
    simpa using type.width_pos
  rcases read_of_rest_eq_append nonempty rest_eq with ⟨left, read_eq, left_eq⟩
  rw [WireType.length_encode] at read_eq
  exact ⟨left, by simp [readValue, read_eq, WireType.decode_encode inRange], left_eq⟩

/-- The written forms of some values are read back as these values. -/
theorem readValues_of_rest_eq_append {values : List WireValue} {cursor : Cursor} {later : Bytes}
    (rest_eq : cursor.rest = encodeAll values ++ later) :
    ∃ left, cursor.readValues (values.map (·.type)) = .ok (values.map (·.value), left) ∧
      left.rest = later := by
  induction values generalizing cursor with
  | nil => exact ⟨cursor, rfl, rest_eq⟩
  | cons value values ih =>
      have split_eq : cursor.rest =
          value.type.encode value.value ++ (encodeAll values ++ later) := by
        simpa [encodeAll] using rest_eq
      rcases readValue_of_rest_eq_append value.inRange split_eq with ⟨next, first_eq, next_eq⟩
      rcases ih next_eq with ⟨left, others_eq, left_eq⟩
      exact ⟨left, by simp [readValues, first_eq, others_eq], left_eq⟩

end Cursor

/-! ### Both lines -/

namespace Outbox

/-- The outbox after so many frames were taken out of it. -/
def afterTaking : Nat → Outbox → Outbox
  | 0, outbox => outbox
  | count + 1, outbox =>
      match outbox.take? with
      | some (_, left) => left.afterTaking count
      | none => outbox

theorem take?_of_frames_eq {outbox : Outbox} {frame : OutFrame} {rest : List OutFrame}
    (frames_eq : outbox.frames = frame :: rest) :
    ∃ left, outbox.take? = some (frame, left) ∧ left.frames = rest := by
  unfold take?
  split
  · simp_all
  · rename_i first others others_eq
    simp only [frames_eq, List.cons.injEq] at others_eq
    rcases others_eq with ⟨rfl, rfl⟩
    exact ⟨_, rfl, rfl⟩

/-- Frames are taken out in the order they were put in. -/
theorem take?_afterTaking {front : List OutFrame} {outbox : Outbox} {frame : OutFrame}
    {back : List OutFrame} (frames_eq : outbox.frames = front ++ frame :: back) :
    ∃ left, (outbox.afterTaking front.length).take? = some (frame, left) ∧ left.frames = back := by
  induction front generalizing outbox with
  | nil => exact take?_of_frames_eq frames_eq
  | cons first front ih =>
      rcases take?_of_frames_eq frames_eq with ⟨left, taken, left_eq⟩
      simpa [afterTaking, taken] using ih left_eq

end Outbox

/-- Values that are appended to a new message, which is then finished, are sent as these bytes: they
are the frame that comes out of the outbox behind those that waited there. -/
def RadioLine.Sends (values : List WireValue) (data : Bytes) (line : RadioLine) : Prop :=
  ∃ draft sent frame left,
    ({ carrier := line } : Draft RadioLine).appendValues values = .ok draft ∧
    draft.finish = (.ok (), sent) ∧
    (sent.carrier.outbox.afterTaking line.outbox.length).take? = some (frame, left) ∧
    frame.data = data

/-- Values that are appended to a new message, which is then finished, are sent as these bytes: they
are the payload that a decoder reports with the last byte that was written. -/
def Kiss.SerialLine.Sends {size : Nat} (values : List WireValue) (data : Bytes)
    (decoder : Kiss.Decoder size) (line : Kiss.SerialLine) : Prop :=
  ∃ draft sent written,
    ({ carrier := line } : Draft Kiss.SerialLine).appendValues values = .ok draft ∧
    draft.finish = (.ok (), sent) ∧
    sent.carrier.sink.bytes = line.sink.bytes ++ written ∧
    decoder.reports written =
      List.replicate (written.length - 1) (.ok none) ++ [.ok (some (line.kind.code, data))]

theorem RadioLine.sends_encodeAll {values : List WireValue} {line : RadioLine}
    (fits : totalWidth values ≤ Draft.capacity) (free : line.outbox.length < Outbox.slots) :
    line.Sends values (encodeAll values) := by
  have appended : ({ carrier := line } : Draft RadioLine).appendValues values = .ok _ :=
    Draft.appendValues_eq_ok rfl (by simpa using fits)
  rw [← length_encodeAll] at fits
  rcases Outbox.send_of_free line.preamble fits free with
    ⟨frame, next, data_eq, _, frames_eq, send_eq⟩
  rcases Outbox.take?_afterTaking frames_eq with ⟨left, taken, _⟩
  refine ⟨_, { carrier := { line with outbox := next }, isOpen := false }, frame, left, appended,
    ?_, taken, data_eq⟩
  simp [Draft.finish, Carrier.deliver, send_eq]

theorem Kiss.SerialLine.sends_encodeAll {values : List WireValue} {line : Kiss.SerialLine}
    {size : Nat} {decoder : Kiss.Decoder size} (fits : totalWidth values ≤ Draft.capacity)
    (room : line.sink.hasRoom (Kiss.encode line.kind (encodeAll values)).length = true)
    (decodes : totalWidth values ≤ size) (between : decoder.BetweenFrames)
    (anonymous : decoder.identifierLength = 0) : line.Sends values (encodeAll values) decoder := by
  have appended : ({ carrier := line } : Draft Kiss.SerialLine).appendValues values = .ok _ :=
    Draft.appendValues_eq_ok rfl (by simpa using fits)
  rw [← length_encodeAll] at decodes
  rw [← Kiss.flatten_pieces] at room
  have taken := Host.Sink.writeAll_of_hasRoom room
  rw [Kiss.flatten_pieces] at taken
  let written := Kiss.encode line.kind (encodeAll values)
  let sink := { line.sink with bytes := line.sink.bytes ++ written }
  refine ⟨_, { carrier := { line with sink }, isOpen := false }, written, appended, ?_, rfl,
    Kiss.Decoder.reports_encode between anonymous line.kind decodes⟩
  simp [Draft.finish, Carrier.deliver, Kiss.write, taken, sink, written]

/-- Values that fit in a message are sent as the same bytes over the radio and to the host, and are
read back from them in order, with nothing left behind. -/
theorem values_survive {values : List WireValue} {line : RadioLine} {host : Kiss.SerialLine}
    {size : Nat} {decoder : Kiss.Decoder size} (fits : totalWidth values ≤ Draft.capacity)
    (free : line.outbox.length < Outbox.slots)
    (room : host.sink.hasRoom (Kiss.encode host.kind (encodeAll values)).length = true)
    (decodes : totalWidth values ≤ size) (between : decoder.BetweenFrames)
    (anonymous : decoder.identifierLength = 0) :
    ∃ data, line.Sends values data ∧ host.Sends values data decoder ∧
      ∃ cursor, ({ data } : Cursor).readValues (values.map (·.type)) =
          .ok (values.map (·.value), cursor) ∧
        cursor.remaining = 0 ∧ cursor.readByte = .error .endOfMessage := by
  have rest_eq : ({ data := encodeAll values } : Cursor).rest = encodeAll values ++ [] := by
    simp [Cursor.rest]
  rcases Cursor.readValues_of_rest_eq_append rest_eq with ⟨cursor, read_eq, nothingLeft⟩
  refine ⟨encodeAll values, RadioLine.sends_encodeAll fits free,
    Kiss.SerialLine.sends_encodeAll fits room decodes between anonymous, cursor, read_eq, ?_,
    Cursor.readByte_of_rest_eq_nil nothingLeft⟩
  rw [← Cursor.length_rest, nothingLeft]
  rfl

/-- Bounds of their formats, and a word whose bytes have to be escaped. -/
def extremes : List WireValue :=
  [⟨.int8, -128, by decide⟩, ⟨.uint16, 0xC0DB, by decide⟩, ⟨.int32, -2147483648, by decide⟩,
    ⟨.uint64, 18446744073709551615, by decide⟩]

/-- One frame waits already, and the sink has room for this message and no more. -/
theorem values_survive_extremes :
    let line : RadioLine :=
      { outbox := { frames := [⟨[1], .short, by decide⟩] }, preamble := .long }
    let host : Kiss.SerialLine := { sink := { capacity := some 20 }, kind := .data }
    let decoder : Kiss.Decoder 15 := { identifierLength := 0 }
    (totalWidth extremes ≤ Draft.capacity ∧ line.outbox.length < Outbox.slots ∧
      host.sink.hasRoom (Kiss.encode host.kind (encodeAll extremes)).length = true ∧
      totalWidth extremes ≤ 15 ∧ decoder.BetweenFrames ∧ decoder.identifierLength = 0) ∧
    ∃ data, line.Sends extremes data ∧ host.Sends extremes data decoder ∧
      ∃ cursor, ({ data } : Cursor).readValues [.int8, .uint16, .int32, .uint64] =
          .ok ([-128, 0xC0DB, -2147483648, 18446744073709551615], cursor) ∧
        cursor.remaining = 0 ∧ cursor.readByte = .error .endOfMessage := by
  intro line host decoder
  have fits : totalWidth extremes ≤ Draft.capacity := by decide
  have free : line.outbox.length < Outbox.slots := by decide
  have room : host.sink.hasRoom (Kiss.encode host.kind (encodeAll extremes)).length = true := by
    decide +kernel
  have decodes : totalWidth extremes ≤ 15 := by decide
  have between : decoder.BetweenFrames := .fresh 0
  exact ⟨⟨fits, free, room, decodes, between, rfl⟩,
    values_survive fits free room decodes between rfl⟩

end StationMesh
