import Mathlib.Data.List.Basic
import StationMesh.Config.Settings

/-!
# The stored image and the fields in it

The fields of a configuration lie one behind the other in its image, with the checksum of them all
at the end. So a field can be read out of the image at its place, an image with the right length
and checksum is read back to the settings it is the image of, and a change of one field leaves the
bytes of all others alone. A change is refused before anything is written.
-/

namespace StationMesh

namespace Bytes

theorem toWord_ofWord (word : UInt16) : toWord (ofWord word) = word := by
  have lt := word.toNat_lt
  apply UInt16.toNat_inj.mp
  simp only [ofWord, ofNat, toWord, UInt16.toNat_ofNat', UInt8.toNat_ofNat']
  omega

theorem ofWord_toWord {bytes : Bytes} (length_eq : bytes.length = 2) :
    ofWord (toWord bytes) = bytes := by
  rcases List.length_eq_two.mp length_eq with ⟨low, high, rfl⟩
  have lt := toNat_lt [low, high]
  have word_eq : (toWord [low, high]).toNat = toNat [low, high] := by
    simp only [toWord, UInt16.toNat_ofNat', toNat]
    simp only [toNat, List.length_cons, List.length_nil, bound] at lt
    omega
  rw [ofWord, word_eq]
  exact ofNat_toNat [low, high]

end Bytes

namespace Config

/-! ### Places -/

namespace Field

theorem mem_all (field : Field) : field ∈ all := by
  cases field <;> decide

theorem nodup_all : all.Nodup := by decide

/-- How many bytes a list of fields takes. -/
def sizeOf (fields : List Field) : Nat := fields.foldr (fun field total => field.length + total) 0

/-- How many bytes lie in front of a field, if these fields lie one behind the other. -/
def offsetIn (fields : List Field) (field : Field) : Nat :=
  sizeOf (fields.takeWhile (· != field))

/-- The fields lie one behind the other. -/
theorem offset_eq (field : Field) : field.offset = offsetIn all field := by
  cases field <;> decide

theorem end_le_dataSize (field : Field) : field.offset + field.length ≤ dataSize := by
  cases field <;> decide

/-- No byte belongs to two fields. -/
theorem apart {first second : Field} (ne : first ≠ second) :
    first.offset + first.length ≤ second.offset ∨ second.offset + second.length ≤ first.offset := by
  cases first <;> cases second <;> first | contradiction | decide

theorem offsetIn_cons_self (field : Field) (fields : List Field) :
    offsetIn (field :: fields) field = 0 := by
  simp [offsetIn, sizeOf]

theorem offsetIn_cons_of_ne {first field : Field} (ne : first ≠ field) (fields : List Field) :
    offsetIn (first :: fields) field = first.length + offsetIn fields field := by
  simp [offsetIn, sizeOf, ne]

/-- The bytes at the place of a field. -/
def sliceIn (fields : List Field) (data : Bytes) (field : Field) : Bytes :=
  (data.drop (offsetIn fields field)).take field.length

theorem sliceIn_cons_self (field : Field) (fields : List Field) (data : Bytes) :
    sliceIn (field :: fields) data field = data.take field.length := by
  rw [sliceIn, offsetIn_cons_self, List.drop_zero]

theorem sliceIn_cons_of_ne {first field : Field} (ne : first ≠ field) (fields : List Field)
    (data : Bytes) :
    sliceIn (first :: fields) data field = sliceIn fields (data.drop first.length) field := by
  rw [sliceIn, offsetIn_cons_of_ne ne, sliceIn, List.drop_drop]

/-- What was laid down for a field is at its place. -/
theorem sliceIn_flatMap {values : Field → Bytes}
    (lengths : ∀ field, (values field).length = field.length) {fields : List Field} {field : Field}
    (mem : field ∈ fields) : sliceIn fields (fields.flatMap values) field = values field := by
  induction fields with
  | nil => contradiction
  | cons first rest ih =>
      rw [List.flatMap_cons]
      by_cases same : first = field
      · subst same
        rw [sliceIn_cons_self, List.take_left' (lengths first)]
      · rw [sliceIn_cons_of_ne same, List.drop_left' (lengths first)]
        exact ih (List.mem_of_ne_of_mem (Ne.symm same) mem)

/-- The places of the fields cover the bytes without a gap and without overlapping. -/
theorem flatMap_sliceIn {fields : List Field} (nodup : fields.Nodup) (data : Bytes) :
    fields.flatMap (sliceIn fields data) = data.take (sizeOf fields) := by
  induction fields generalizing data with
  | nil => rfl
  | cons first rest ih =>
      rcases List.nodup_cons.mp nodup with ⟨notMem, nodup⟩
      have others : ∀ field ∈ rest, sliceIn (first :: rest) data field =
          sliceIn rest (data.drop first.length) field := by
        intro field mem
        have ne : first ≠ field := fun same => notMem (same ▸ mem)
        exact sliceIn_cons_of_ne ne rest data
      calc (first :: rest).flatMap (sliceIn (first :: rest) data)
          = data.take first.length ++ rest.flatMap (sliceIn rest (data.drop first.length)) := by
            rw [List.flatMap_cons, sliceIn_cons_self, List.flatMap_congr others]
        _ = data.take first.length ++ (data.drop first.length).take (sizeOf rest) := by
            rw [ih nodup]
        _ = data.take (sizeOf (first :: rest)) := (List.take_add ..).symm

theorem length_sliceIn_all {data : Bytes} (length_eq : data.length = dataSize) (field : Field) :
    (sliceIn all data field).length = field.length := by
  have inside := field.end_le_dataSize
  rw [sliceIn, ← offset_eq, List.length_take, List.length_drop]
  omega

end Field

namespace Settings

variable {settings left : Settings} {field other : Field} {value image : Bytes}

/-! ### One field -/

@[simp]
theorem length_get (settings : Settings) (field : Field) :
    (settings.get field).length = field.length := by
  cases field with
  | messageRelayList => exact settings.messageRelays.length_eq
  | weatherRelayList => exact settings.weatherRelays.length_eq
  | shortPreamble | longPreamble | weatherInterval => exact Bytes.length_ofWord _
  | stationId | flags | csmaPersistence | csmaSlotTime | complexWeatherEvery => rfl

theorem get_write (length_eq : value.length = field.length) (settings : Settings) :
    (settings.write field value).get field = value := by
  have single (one : value.length = 1) : [value.headD 0] = value := by
    rcases List.length_eq_one_iff.mp one with ⟨byte, rfl⟩
    rfl
  have listed (eight : value.length = 8) : (RelayList.padded value).ids = value :=
    List.take_left' eight
  cases field with
  | messageRelayList | weatherRelayList => exact listed length_eq
  | shortPreamble | longPreamble | weatherInterval => exact Bytes.ofWord_toWord length_eq
  | stationId | flags | csmaPersistence | csmaSlotTime | complexWeatherEvery =>
      exact single length_eq

theorem get_write_of_ne (ne : other ≠ field) (settings : Settings) (value : Bytes) :
    (settings.write field value).get other = settings.get other := by
  cases field <;> cases other <;> first | contradiction | rfl

/-- Settings are known once all fields are. -/
theorem eq_of_get_eq (get_eq : ∀ field, settings.get field = left.get field) : settings = left := by
  have byte_eq (field : Field) {first second : UInt8} (firsts : settings.get field = [first])
      (seconds : left.get field = [second]) : first = second := by
    rw [get_eq, seconds] at firsts
    simpa using firsts.symm
  have word_eq (field : Field) {first second : UInt16}
      (firsts : settings.get field = Bytes.ofWord first)
      (seconds : left.get field = Bytes.ofWord second) : first = second := by
    rw [get_eq, seconds] at firsts
    have words := congrArg Bytes.toWord firsts
    rw [Bytes.toWord_ofWord, Bytes.toWord_ofWord] at words
    exact words.symm
  have list_eq (field : Field) {first second : RelayList}
      (firsts : settings.get field = first.ids) (seconds : left.get field = second.ids) :
      first = second := by
    rw [get_eq, seconds] at firsts
    rcases first with ⟨ids, _⟩
    rcases second with ⟨others, _⟩
    congr 1
    exact firsts.symm
  rcases settings with ⟨_, _, _, _, _, _, _, _, _, _⟩
  rcases left with ⟨_, _, _, _, _, _, _, _, _, _⟩
  rw [mk.injEq]
  exact ⟨byte_eq .stationId rfl rfl, byte_eq .flags rfl rfl,
    byte_eq .csmaPersistence rfl rfl, byte_eq .csmaSlotTime rfl rfl,
    word_eq .shortPreamble rfl rfl, word_eq .longPreamble rfl rfl,
    word_eq .weatherInterval rfl rfl, byte_eq .complexWeatherEvery rfl rfl,
    list_eq .messageRelayList rfl rfl, list_eq .weatherRelayList rfl rfl⟩

/-! ### The image -/

theorem length_data (settings : Settings) : settings.data.length = dataSize := by
  have lengths : Field.all.map (fun field => (settings.get field).length) =
      Field.all.map Field.length := by
    simp
  rw [data, List.length_flatMap, lengths]
  rfl

theorem get_ofData {data : Bytes} (length_eq : data.length = dataSize) (field : Field) :
    (ofData data).get field = Field.sliceIn Field.all data field := by
  -- Of the fields that were written, none is written to again with other bytes.
  have written (fields : List Field) (settings : Settings) (field : Field) :
      (fields.foldl (fun settings field =>
        settings.write field (Field.sliceIn Field.all data field)) settings).get field =
      if field ∈ fields then Field.sliceIn Field.all data field else settings.get field := by
    induction fields generalizing settings with
    | nil => rfl
    | cons first rest ih =>
        rw [List.foldl_cons, ih]
        by_cases later : field ∈ rest
        · simp [later]
        · by_cases same : field = first
          · subst same
            simp [later, get_write (Field.length_sliceIn_all length_eq field)]
          · simp [later, same, get_write_of_ne same]
  have all_written := written Field.all {} field
  rw [if_pos (Field.mem_all field)] at all_written
  simp only [ofData, Field.offset_eq]
  exact all_written

theorem sliceIn_data (settings : Settings) (field : Field) :
    Field.sliceIn Field.all settings.data field = settings.get field :=
  Field.sliceIn_flatMap settings.length_get (Field.mem_all field)

theorem ofData_data (settings : Settings) : ofData settings.data = settings := by
  apply eq_of_get_eq
  intro field
  rw [get_ofData settings.length_data, sliceIn_data]

theorem data_ofData {data : Bytes} (length_eq : data.length = dataSize) :
    (ofData data).data = data := by
  have slices : (ofData data).get = Field.sliceIn Field.all data := funext (get_ofData length_eq)
  have total : Field.sizeOf Field.all = data.length := length_eq.symm
  rw [Settings.data, slices, Field.flatMap_sliceIn Field.nodup_all, total, List.take_length]

theorem length_image (settings : Settings) : settings.image.length = imageSize := by
  rw [Settings.image, List.length_append, length_data, Bytes.length_ofWord, imageSize]

theorem take_image (settings : Settings) : settings.image.take dataSize = settings.data :=
  List.take_left' settings.length_data

theorem drop_image (settings : Settings) :
    settings.image.drop dataSize = Bytes.ofWord (Checksum.ofBytes settings.data) :=
  List.drop_left' settings.length_data

/-- Settings are read from their image, and from no other bytes. -/
theorem ofImage_eq_ok_iff : ofImage image = .ok settings ↔ image = settings.image := by
  constructor
  · intro read
    rw [ofImage] at read
    split at read
    · contradiction
    · rename_i length_eq
      rw [not_not] at length_eq
      have data_length : (image.take dataSize).length = dataSize := by
        rw [List.length_take, length_eq]
        rfl
      have checksum_length : (image.drop dataSize).length = 2 := by
        rw [List.length_drop, length_eq]
        rfl
      split at read
      · contradiction
      · rename_i checksum_eq
        rw [not_not] at checksum_eq
        rw [Except.ok.injEq] at read
        rw [← read, Settings.image, data_ofData data_length, ← checksum_eq,
          Bytes.ofWord_toWord checksum_length, List.take_append_drop]
  · rintro rfl
    rw [ofImage, if_neg (not_not.mpr settings.length_image), drop_image, take_image,
      if_neg (not_not.mpr (Bytes.toWord_ofWord _)), ofData_data]

/-! ### Changes -/

/-- The value can be stored in the field. -/
structure Fits (field : Field) (value : Bytes) : Prop where
  length_eq : value.length = field.length
  addressable : field = .stationId → value.headD 0 ≠ everyStation

theorem set_eq_ok_iff :
    set field value settings = .ok left ↔ Fits field value ∧ settings.write field value = left := by
  rw [set]
  split
  · rename_i length_ne
    exact iff_of_false nofun fun accepted => length_ne accepted.1.length_eq
  · rename_i length_eq
    rw [not_not] at length_eq
    split
    · rename_i everyone
      refine iff_of_false nofun fun accepted => ?_
      exact accepted.1.addressable everyone.1 everyone.2
    · rename_i addressable
      rw [not_and] at addressable
      rw [Except.ok.injEq]
      exact (and_iff_right ⟨length_eq, addressable⟩).symm

end Settings

/-- A call that is to change a field. -/
inductive Change where
  | set (field : Field) (value : Bytes)
  /-- The field is named by its number. -/
  | setByCode (code : UInt8) (value : Bytes)
deriving DecidableEq, Repr

namespace Change

/-- The field that the call names, if there is such a field. -/
def field? : Change → Option Field
  | .set field _ => some field
  | .setByCode code _ => Field.ofCode? code

def value : Change → Bytes
  | .set _ value | .setByCode _ value => value

/-- The field that was changed with the store after the call, or why nothing was changed. -/
def attempt {κ : Type} [Store κ] (store : κ) : Change → Except ConfigError (Field × κ)
  | .set field value => (Store.set field value store).map (field, ·)
  | .setByCode code value => Store.setByCode code value store

variable {settings left : Settings} {field : Field}

/-- A call succeeds if the field it names can hold the value. -/
theorem attempt_eq_ok_iff {change : Change} : change.attempt settings = .ok (field, left) ↔
    change.field? = some field ∧ Settings.Fits field change.value ∧
      settings.write field change.value = left := by
  have set_iff (named : Field) (value : Bytes) :
      (Store.set named value settings).map (named, ·) = .ok (field, left) ↔
        named = field ∧ Settings.Fits field value ∧ settings.write field value = left := by
    rw [← Settings.set_eq_ok_iff]
    change (Settings.set named value settings).map (named, ·) = _ ↔ _
    cases written : Settings.set named value settings with
    | error cause =>
        refine iff_of_false nofun ?_
        rintro ⟨rfl, accepted⟩
        rw [written] at accepted
        contradiction
    | ok changed =>
        simp only [Except.map, Except.ok.injEq, Prod.mk.injEq]
        refine and_congr_right fun same => ?_
        rw [← same, written, Except.ok.injEq]
  cases change with
  | set named value => simpa [attempt, field?, Change.value] using set_iff named value
  | setByCode code value =>
      rw [attempt, Store.setByCode, field?, Change.value]
      cases named : Field.ofCode? code with
      | none => simp
      | some other =>
          rw [Option.some.injEq, ← set_iff other value]
          dsimp only
          cases Store.set other value settings with
          | error cause => rfl
          | ok changed => rfl

end Change

namespace Settings

/-- The settings after a call. -/
def perform (settings : Settings) (change : Change) : Settings :=
  match change.attempt settings with
  | .ok (_, left) => left
  | .error _ => settings

/-- The settings after a run of calls. -/
def run (changes : List Change) (settings : Settings) : Settings := changes.foldl perform settings

end Settings

/-- The ways to build settings. -/
inductive Origin where
  /-- As a station is delivered. -/
  | delivered
  | withStationId (id : UInt8)
  /-- Read back from where they were kept. -/
  | ofImage (image : Bytes)

def Origin.settings : Origin → Except ConfigError Settings
  | delivered => .ok {}
  | withStationId id => .ok (.withStationId id)
  | ofImage image => Settings.ofImage image

end Config

end StationMesh
